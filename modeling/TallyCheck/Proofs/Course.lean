import TallyCheck.Analysis

/-! # The course of a run

A run depends on its source only through the answers it gets.  Its course says, for a finite list
of answers, what is reported and how the run stands then.  Reports of success or of an error are
kept apart from those made before.
-/
namespace TallyCheck
set_option autoImplicit false

/-- What a source gives when it is asked once. -/
abbrev Answer := Except ScanError Token

/-- `Answers source answers last`: asked again and again, the source gives the answers in order
and is then in the state `last`. -/
inductive Answers {σ : Type} [TokenSource σ] : σ → List Answer → σ → Prop where
  | nil (source : σ) : Answers source [] source
  | cons {source last : σ} {answers : List Answer}
      (rest : Answers (TokenSource.next source).2 answers last) :
      Answers source ((TokenSource.next source).1 :: answers) last

theorem Answers.of_next {σ : Type} [TokenSource σ] {source next last : σ} {answer : Answer}
    {answers : List Answer} (h : TokenSource.next source = (answer, next))
    (hRest : Answers next answers last) : Answers source (answer :: answers) last := by
  have hCons : Answers source ((TokenSource.next source).1 :: answers) last :=
    .cons (by rwa [h])
  rwa [h] at hCons

inductive Ending where
  | succeeded
  | rejected (token : Token) (expected : Expectation) (rest : List Goal)
  | faulted (error : ScanError)

inductive Standing where
  | going (goals : List Goal)
  | ended (ending : Ending)

structure Course where
  events : List Event
  standing : Standing

namespace Course

def after (front : List Event) (course : Course) : Course :=
  { course with events := front ++ course.events }

@[simp] theorem events_after (front : List Event) (course : Course) :
    (course.after front).events = front ++ course.events := rfl

@[simp] theorem standing_after (front : List Event) (course : Course) :
    (course.after front).standing = course.standing := rfl

theorem after_after (front back : List Event) (course : Course) :
    (course.after back).after front = course.after (front ++ back) := by
  simp [after]

end Course

/-- How things go on when the verdict on `token` has fallen, given what is done with the goals
left by an accepted token. -/
def Prediction.course (token : Token) (onward : List Goal → Course) (prediction : Prediction) :
    Course :=
  match prediction.verdict with
  | .accept rest => (onward rest).after (prediction.events ++ [.terminal token])
  | .complete => ⟨prediction.events, .ended .succeeded⟩
  | .reject expected rest => ⟨prediction.events, .ended (.rejected token expected rest)⟩

def course : List Goal → List Answer → Course
  | goals, [] => ⟨[], .going goals⟩
  | _, .error error :: _ => ⟨[], .ended (.faulted error)⟩
  | goals, .ok token :: answers =>
    (predict token.symbol goals).course token fun rest => course rest answers

theorem course_ok (goals : List Goal) (token : Token) (answers : List Answer) :
    course goals (.ok token :: answers) =
      (predict token.symbol goals).course token fun rest => course rest answers := rfl

theorem Prediction.course_after (event : Event) (token : Token) (onward : List Goal → Course)
    (prediction : Prediction) : (prediction.after event).course token onward =
      (prediction.course token onward).after [event] := by
  obtain ⟨events, verdict⟩ := prediction
  cases verdict <;> rfl

theorem Branch.goals_eq (branch : Branch) :
    branch.goals = (branch.parts.map Phrase.part).map Goal.phrase :=
  (List.map_map).symm

theorem Nonterminal.goals_append (category : Nonterminal) (goals : List Goal) :
    category.goals ++ goals = category.phrases.map Goal.phrase ++ .close category :: goals :=
  List.append_assoc _ _ _

section Steps

variable {token : Token} {goals : List Goal} {answers : List Answer}

theorem course_close (category : Nonterminal) :
    course (.close category :: goals) (.ok token :: answers) =
      (course goals (.ok token :: answers)).after [.finish category] := by
  rw [course_ok, predict_close, Prediction.course_after, course_ok]

theorem course_terminal (inner : token.symbol ≠ .endOfInput) :
    course (.phrase (.part (.terminal token.symbol inner)) :: goals) (.ok token :: answers) =
      (course goals answers).after [.terminal token] := by
  rw [course_ok, predict, if_pos rfl]
  rfl

theorem course_nonterminal (category : Nonterminal) :
    course (.phrase (.part (.nonterminal category)) :: goals) (.ok token :: answers) =
      (course (category.goals ++ goals) (.ok token :: answers)).after [.commence category] := by
  rw [course_ok, predict_nonterminal, Prediction.course_after, course_ok]

theorem course_choice {choice : Choice} {branch : Branch}
    (h : choice.branch? token.symbol = some branch) :
    course (.phrase (.choice choice) :: goals) (.ok token :: answers) =
      course (branch.goals ++ goals) (.ok token :: answers) := by
  rw [course_ok, predict_choice_of_some h, course_ok]

theorem course_repeated_next {separators : List Symbol} {item : Part}
    {inner : .endOfInput ∉ separators} (h : token.symbol ∈ separators) :
    course (.phrase (.repeated separators item inner) :: goals) (.ok token :: answers) =
      (course (.phrase (.part item) :: .phrase (.repeated separators item inner) :: goals)
        answers).after [.terminal token] := by
  rw [course_ok, predict, if_pos h]
  rfl

theorem course_repeated_end {separators : List Symbol} {item : Part}
    {inner : .endOfInput ∉ separators} (h : token.symbol ∉ separators) :
    course (.phrase (.repeated separators item inner) :: goals) (.ok token :: answers) =
      course goals (.ok token :: answers) := by
  rw [course_ok, predict_repeated_of_not_mem h, course_ok]

theorem course_optional_take {item : Part} (inner : token.symbol ≠ .endOfInput) :
    course (.phrase (.optional token.symbol item inner) :: goals) (.ok token :: answers) =
      (course (.phrase (.part item) :: goals) answers).after [.terminal token] := by
  rw [course_ok, predict, if_pos rfl]
  rfl

theorem course_optional_skip {lead : Symbol} {item : Part} {inner : lead ≠ .endOfInput}
    (h : token.symbol ≠ lead) :
    course (.phrase (.optional lead item inner) :: goals) (.ok token :: answers) =
      course goals (.ok token :: answers) := by
  rw [course_ok, predict_optional_of_ne h, course_ok]

theorem course_nil (h : token.symbol = .endOfInput) :
    course [] (.ok token :: answers) = ⟨[], .ended .succeeded⟩ := by
  rw [course_ok, predict_nil, if_pos h]
  rfl

theorem exists_course_nil_ended (token : Token) (answers : List Answer) :
    ∃ ending, (course [] (.ok token :: answers)).standing = .ended ending := by
  rw [course_ok, predict_nil]
  split
  · exact ⟨_, rfl⟩
  · exact ⟨_, rfl⟩

end Steps

theorem course_append_of_going {front : List Answer} (back : List Answer)
    {goals rest : List Goal} (h : (course goals front).standing = .going rest) :
    course goals (front ++ back) = (course rest back).after (course goals front).events := by
  induction front generalizing goals with
  | nil =>
    cases h
    rfl
  | cons answer front ih =>
    cases answer with
    | error error => cases h
    | ok token =>
      rw [List.cons_append, course_ok, course_ok, Prediction.course, Prediction.course]
      rw [course_ok, Prediction.course] at h
      split at h
      · rw [ih h, Course.after_after, Course.events_after]
      · cases h
      · cases h

theorem course_append_of_ended {front : List Answer} (back : List Answer) {goals : List Goal}
    {ending : Ending} (h : (course goals front).standing = .ended ending) :
    course goals (front ++ back) = course goals front := by
  induction front generalizing goals with
  | nil => cases h
  | cons answer front ih =>
    cases answer with
    | error error => rfl
    | ok token =>
      rw [List.cons_append, course_ok, course_ok, Prediction.course, Prediction.course]
      rw [course_ok, Prediction.course] at h
      split at h
      · rw [ih h]
      · rfl
      · rfl

theorem terminals_predict (lookahead : Symbol) (goals : List Goal) :
    Event.terminals (predict lookahead goals).events = [] := by
  fun_induction predict lookahead goals with
  | case1 | case3 | case6 | case7 | case9 => rfl
  | case2 production goals ih => exact ih
  | case4 category goals ih => exact ih
  | case5 choice goals branch hBranch ih => exact ih
  | case8 separators item hInner goals hMem ih => exact ih
  | case10 lead item hInner goals hLead ih => exact ih

theorem predict_complete_eq_endOfInput {lookahead : Symbol} {goals : List Goal}
    (h : (predict lookahead goals).verdict = .complete) : lookahead = .endOfInput := by
  revert h
  fun_induction predict lookahead goals with
  | case1 =>
    intro h
    split at h
    · assumption
    · cases h
  | case2 production goals ih => exact ih
  | case3 =>
    intro h
    split at h <;> cases h
  | case4 category goals ih => exact ih
  | case5 choice goals branch hBranch ih => exact ih
  | case6 | case7 | case9 =>
    intro h
    cases h
  | case8 separators item hInner goals hMem ih => exact ih
  | case10 lead item hInner goals hLead ih => exact ih

/-- `Ending.CausedBy ending answer`: the answer with which a run ends in this way. -/
inductive Ending.CausedBy : Ending → Answer → Prop where
  | succeeded {token : Token} (h : token.symbol = .endOfInput) : CausedBy .succeeded (.ok token)
  | rejected (token : Token) (expected : Expectation) (rest : List Goal) :
      CausedBy (.rejected token expected rest) (.ok token)
  | faulted (error : ScanError) : CausedBy (.faulted error) (.error error)

theorem course_last {goals : List Goal} {answer : Answer} {ending : Ending}
    (h : (course goals [answer]).standing = .ended ending) :
    Event.terminals (course goals [answer]).events = [] ∧ ending.CausedBy answer := by
  cases answer with
  | error error =>
    cases h
    exact ⟨rfl, .faulted error⟩
  | ok token =>
    rw [course_ok, Prediction.course] at h ⊢
    split at h
    · cases h
    · rename_i hVerdict
      cases h
      exact ⟨terminals_predict _ _, .succeeded (predict_complete_eq_endOfInput hVerdict)⟩
    · cases h
      exact ⟨terminals_predict _ _, .rejected _ _ _⟩

theorem eq_terminals_of_going {answers : List Answer} {goals rest : List Goal}
    (h : (course goals answers).standing = .going rest) :
    answers = (Event.terminals (course goals answers).events).map Except.ok := by
  induction answers generalizing goals with
  | nil => rfl
  | cons answer answers ih =>
    cases answer with
    | error error => cases h
    | ok token =>
      rw [course_ok, Prediction.course] at h ⊢
      split at h
      · rename_i left hVerdict
        simp [terminals_predict, ← ih h]
      · cases h
      · cases h

theorem terminals_of_going {tokens : List Token} {goals rest : List Goal}
    (h : (course goals (tokens.map Except.ok)).standing = .going rest) :
    Event.terminals (course goals (tokens.map Except.ok)).events = tokens :=
  ((List.map_inj_right fun _ _ => Except.ok.inj).mp (eq_terminals_of_going h)).symm

theorem exists_last_answer {answers : List Answer} {goals : List Goal} {ending : Ending}
    (h : (course goals answers).standing = .ended ending) :
    ∃ front answer back rest, answers = front ++ answer :: back ∧
      (course goals front).standing = .going rest ∧
      (course rest [answer]).standing = .ended ending := by
  induction answers generalizing goals with
  | nil => cases h
  | cons answer answers ih =>
    cases answer with
    | error error => exact ⟨[], .error error, answers, goals, rfl, rfl, h⟩
    | ok token =>
      cases hOne : (course goals [.ok token]).standing with
      | ended other =>
        have hSame := course_append_of_ended answers hOne
        rw [List.singleton_append] at hSame
        rw [hSame, hOne] at h
        cases h
        exact ⟨[], .ok token, answers, goals, rfl, rfl, hOne⟩
      | going rest =>
        have hOnward := course_append_of_going answers hOne
        rw [List.singleton_append] at hOnward
        rw [hOnward] at h
        obtain ⟨front, answer, back, last, rfl, hFront, hLast⟩ := ih h
        refine ⟨.ok token :: front, answer, back, last, rfl, ?_, hLast⟩
        have hOnward := course_append_of_going front hOne
        rw [List.singleton_append] at hOnward
        rwa [hOnward]

/-- A run that has ended has taken the answers before some answer, with which it ended. -/
theorem course_ended {answers : List Answer} {goals : List Goal} {ending : Ending}
    (h : (course goals answers).standing = .ended ending) :
    ∃ accepted answer back rest, answers = accepted.map Except.ok ++ answer :: back ∧
      (course goals (accepted.map Except.ok)).standing = .going rest ∧
      course goals answers =
        (course rest [answer]).after (course goals (accepted.map Except.ok)).events ∧
      Event.terminals (course goals (accepted.map Except.ok)).events = accepted ∧
      Event.terminals (course goals answers).events = accepted ∧ ending.CausedBy answer := by
  obtain ⟨front, answer, back, rest, rfl, hFront, hLast⟩ := exists_last_answer h
  obtain ⟨hNone, hEnds⟩ := course_last hLast
  have hAccepted := eq_terminals_of_going hFront
  have hWhole : course goals (front ++ answer :: back) =
      (course rest [answer]).after (course goals front).events := by
    rw [course_append_of_going _ hFront]
    exact congrArg _ (course_append_of_ended back hLast)
  refine ⟨Event.terminals (course goals front).events, answer, back, rest, ?_⟩
  rw [← hAccepted, hWhole, Course.events_after, Event.terminals_append, hNone, List.append_nil]
  exact ⟨rfl, hFront, rfl, rfl, rfl, hEnds⟩

theorem course_rejected {answers : List Answer} {goals rest : List Goal} {token : Token}
    {expected : Expectation}
    (h : (course goals answers).standing = .ended (.rejected token expected rest)) :
    ∃ accepted back left, answers = accepted.map Except.ok ++ .ok token :: back ∧
      (course goals (accepted.map Except.ok)).standing = .going left ∧
      (predict token.symbol left).verdict = .reject expected rest ∧
      (course goals answers).events =
        (course goals (accepted.map Except.ok)).events ++ (predict token.symbol left).events ∧
      Event.terminals (course goals answers).events = accepted := by
  obtain ⟨accepted, answer, back, left, hAnswers, hGoing, hWhole, -, hAccepted, hEnds⟩ :=
    course_ended h
  cases hEnds with
  | rejected _ _ _ =>
    rw [hWhole, Course.standing_after, course_ok, Prediction.course] at h
    split at h
    · cases h
    · cases h
    · rename_i hVerdict
      cases h
      refine ⟨accepted, back, left, hAnswers, hGoing, hVerdict, ?_, hAccepted⟩
      rw [hWhole, Course.events_after, course_ok, Prediction.course, hVerdict]

theorem course_succeeded {answers : List Answer} {goals : List Goal}
    (h : (course goals answers).standing = .ended .succeeded) :
    ∃ (accepted : List Token) (symbol : Symbol) (left : List Goal),
      (course goals (accepted.map Except.ok)).standing = .going left ∧
      (predict symbol left).verdict = .complete ∧
      (course goals answers).events =
        (course goals (accepted.map Except.ok)).events ++ (predict symbol left).events := by
  obtain ⟨accepted, answer, back, left, -, hGoing, hWhole, -, -, hEnds⟩ := course_ended h
  cases hEnds with
  | @succeeded token _ =>
    rw [hWhole, Course.standing_after, course_ok, Prediction.course] at h
    split at h
    · cases h
    · rename_i hVerdict
      refine ⟨accepted, token.symbol, left, hGoing, hVerdict, ?_⟩
      rw [hWhole, Course.events_after, course_ok, Prediction.course, hVerdict]
    · cases h

end TallyCheck
