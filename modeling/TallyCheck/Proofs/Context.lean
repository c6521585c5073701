import TallyCheck.Proofs.Nesting
import TallyCheck.Proofs.Substitution

/-! # The context of an error

Whatever an observer answers to an error, the analysis ends with that answer inside the productions
that its record leaves open, the innermost first.  Nothing is left open but by a failure, and by a
failure nearly always.
-/
namespace TallyCheck
set_option autoImplicit false

/-- An observer that keeps the events in order, whatever it answers to an error. -/
class Recorder (τ : Type) extends Observer τ where
  events : τ → List Event
  events_notify : ∀ (event : Event) (observer : τ),
    events (notify event observer) = events observer ++ [event]

instance : Recorder Recording where
  events := Recording.events
  events_notify := Recording.events_push

instance : Recorder Substituting where
  events observer := observer.recording.events
  events_notify event observer := Recording.events_push event observer.recording

theorem Recorder.events_notifyAll {τ : Type} [Recorder τ] (added : List Event) (observer : τ) :
    events (Observer.notifyAll added observer) = events observer ++ added := by
  induction added generalizing observer with
  | nil => exact (List.append_nil _).symm
  | cons event added ih =>
    calc
      _ = events (Observer.notify event observer) ++ added := ih _
      _ = events observer ++ event :: added := by
        rw [events_notify, List.append_assoc]
        rfl

namespace ParseError

/-- Scan errors, and the refusal to run twice, are passed on without their context. -/
def isBare : ParseError → Bool
  | scan _ | alreadyRun => true
  | _ => false

theorem within_eq (production : Nonterminal) (error : ParseError) :
    error.within production = if error.isBare then error else context production error := by
  cases error <;> rfl

theorem withinAll_of_isBare {error : ParseError} (h : error.isBare = true)
    (productions : List Nonterminal) : error.withinAll productions = error := by
  induction productions with
  | nil => rfl
  | cons production productions ih =>
    have hWithin : error.within production = error := by rw [within_eq, if_pos h]
    exact (congrArg (withinAll productions) hWithin).trans ih

theorem productions_withinAll {error : ParseError} (h : error.isBare = false)
    (productions : List Nonterminal) :
    (error.withinAll productions).productions = productions.reverse ++ error.productions := by
  induction productions generalizing error with
  | nil => rfl
  | cons production productions ih =>
    have hWithin : error.within production = context production error := by
      rw [within_eq, h, if_neg Bool.false_ne_true]
    calc
      _ = ((error.within production).withinAll productions).productions := rfl
      _ = productions.reverse ++ production :: error.productions := by
        rw [hWithin]
        exact ih rfl
      _ = _ := by rw [List.reverse_cons, List.append_assoc]; rfl

theorem depth_withinAll {error : ParseError} (h : error.isBare = false)
    (productions : List Nonterminal) :
    (error.withinAll productions).depth = productions.reverse.length + error.depth := by
  rw [depth_eq_length_productions, depth_eq_length_productions, productions_withinAll h,
    List.length_append]

theorem productions_withinAll_unexpectedToken (token : Token) (message : String)
    (productions : List Nonterminal) :
    ((unexpectedToken token message).withinAll productions).productions = productions.reverse :=
  (productions_withinAll rfl productions).trans (List.append_nil _)

theorem withinAll_eq_foldr (productions : List Nonterminal) (error : ParseError) :
    error.withinAll productions =
      productions.reverse.foldr (fun production inner => inner.within production) error :=
  (List.foldr_reverse).symm

end ParseError

/-- A whole program has been left and the token behind it rejected. -/
def Trailing (events : List Event) : Prop :=
  ∃ (tree : Tree) (token : Token) (message : String), tree.Derives .statementPart ∧
    events = tree.events ++ [.error token message]

/-- How the result of an analysis of `source` and the record that `observer` ends with belong
together, when `start` was the observer before and the record leaves `productions` open, the
outermost first. -/
structure InContext {σ τ : Type} [TokenSource σ] [Recorder τ] (source : σ) (start : τ)
    (result : Except ParseError Unit) (observer : τ) (productions : List Nonterminal) : Prop where
  stillOpen_eq : Event.stillOpen (Recorder.events observer) = some productions
  /-- The answer of the observer is wrapped from the innermost production outwards. -/
  wraps : ∀ token message, .error token message ∈ Recorder.events observer →
    ∃ (before : List Event) (answer error : ParseError),
      observer = Observer.notifyAll (before ++ [.error token message]) start ∧
      answer = Observer.refuse token message (Observer.notifyAll before start) ∧
      result = .error error ∧
      error = productions.foldr (fun production inner => inner.within production) answer ∧
      (answer.isBare = true → error = answer) ∧
      (answer.isBare = false → error.productions = productions ++ answer.productions ∧
        error.depth = productions.length + answer.depth)
  /-- Without an error event there is no failure but a scan error. -/
  unasked : (∀ token message, .error token message ∉ Recorder.events observer) →
    result = .ok () ∨ ∃ error, result = .error (.scan error)
  nil_iff : productions = [] ↔
    result = .ok () ∨ Trailing (Recorder.events observer) ∨
      ∃ error, (TokenSource.next source).1 = .error error

section Courses

variable {answers : List Answer}

theorem replay_of_succeeded (h : (course startGoals answers).standing = .ended .succeeded) :
    Event.replay [] (course startGoals answers).events = some [] := by
  obtain ⟨accepted, symbol, left, hGoing, hVerdict, hEvents⟩ := course_succeeded h
  have hFront := replay_course_of_going hGoing
  have hLast := replay_predict symbol left
  rw [hVerdict] at hLast
  rw [hEvents, Event.replay_append]
  exact (congrArg (Option.bind · _) hFront).trans hLast

theorem replay_of_rejected {token : Token} {expected : Expectation} {rest : List Goal}
    (h : (course startGoals answers).standing = .ended (.rejected token expected rest)) :
    Event.replay [] (course startGoals answers).events = some (Goal.enclosing rest) := by
  obtain ⟨accepted, back, left, -, hGoing, hVerdict, hEvents, -⟩ := course_rejected h
  have hFront := replay_course_of_going hGoing
  have hLast := replay_predict token.symbol left
  rw [hVerdict] at hLast
  rw [hEvents, Event.replay_append]
  exact (congrArg (Option.bind · _) hFront).trans hLast

theorem replay_report_of_rejected {token : Token} {expected : Expectation} {rest : List Goal}
    (h : (course startGoals answers).standing = .ended (.rejected token expected rest))
    (shown : Token) (message : String) :
    Event.replay [] ((course startGoals answers).events ++ [.error shown message]) =
      some (Goal.enclosing rest) := by
  rw [Event.replay_append, replay_of_rejected h]
  rfl

theorem trailing_of_enclosing_eq_nil {token : Token} {expected : Expectation} {rest : List Goal}
    (h : (course startGoals answers).standing = .ended (.rejected token expected rest))
    (hRest : Goal.enclosing rest = []) (message : String) :
    Trailing ((course startGoals answers).events ++ [.error token message]) := by
  obtain ⟨accepted, back, left, -, hGoing, hVerdict, hEvents, -⟩ := course_rejected h
  have hAnchored : (predict token.symbol left).verdict.Anchored := by
    rcases anchored_of_going anchored_predict_start hGoing with ⟨-, rfl⟩ | hLeft
    · exact anchored_predict_start _
    · exact Goal.Anchored.predict (.inl hLeft)
  rw [hVerdict] at hAnchored
  rcases hAnchored with hAnchored | ⟨-, rfl⟩
  · exact absurd hRest hAnchored.enclosing_ne_nil
  · -- with end-of-input in the place of the token the run would have succeeded
    have hEnd : Symbol.endOfInput ∈ (Expectation.symbol .endOfInput).symbols :=
      List.mem_singleton_self _
    have hLast := predict_endOfInput_of_expected (clear_startGoals.of_course hGoing) hEnd hVerdict
    have hWhole : course startGoals (accepted.map Except.ok ++ [.ok (.endOfInput 0)]) =
        ⟨(course startGoals answers).events, .ended .succeeded⟩ := by
      rw [course_append_of_going _ hGoing, course_ok, Prediction.course, Token.symbol_endOfInput,
        hLast, hEvents]
      rfl
    have hStanding : (course startGoals
        (accepted.map Except.ok ++ [.ok (.endOfInput 0)])).standing.Completes [] := by
      rw [hWhole]
      exact .succeeded
    obtain ⟨tree, hTree, hWalk⟩ := (Completes.of_course hStanding).exists_tree
    rw [List.append_nil, hWhole] at hWalk
    exact ⟨tree, token, message, hTree, by rw [hWalk]⟩

theorem trailing_iff_enclosing_eq_nil {token : Token} {expected : Expectation} {rest : List Goal}
    (h : (course startGoals answers).standing = .ended (.rejected token expected rest))
    (message : String) :
    Trailing ((course startGoals answers).events ++ [.error token message]) ↔
      Goal.enclosing rest = [] := by
  refine ⟨?_, fun hRest => trailing_of_enclosing_eq_nil h hRest message⟩
  rintro ⟨tree, other, words, -, hWalk⟩
  have hReplay := replay_report_of_rejected h token message
  rw [hWalk, Event.replay_tree] at hReplay
  exact (Option.some.inj hReplay).symm

theorem replay_of_faulted {error : ScanError}
    (h : (course startGoals answers).standing = .ended (.faulted error)) :
    ∃ productions : List Nonterminal,
      Event.replay [] (course startGoals answers).events = some productions ∧
      (productions = [] ↔ answers.head? = some (.error error)) := by
  obtain ⟨accepted, answer, back, left, hAnswers, hGoing, hWhole, -, -, hEnds⟩ := course_ended h
  cases hEnds with
  | faulted =>
    have hEvents : (course startGoals answers).events =
        (course startGoals (accepted.map Except.ok)).events := by
      rw [hWhole]
      exact List.append_nil _
    have hFront := replay_course_of_going hGoing
    refine ⟨Goal.enclosing left, hEvents ▸ hFront, ?_⟩
    rcases anchored_of_going anchored_predict_start hGoing with ⟨hNone, rfl⟩ | hLeft
    · rw [hAnswers, hNone]
      exact ⟨fun _ => rfl, fun _ => rfl⟩
    · constructor
      · exact fun hNil => absurd hNil hLeft.enclosing_ne_nil
      · intro hHead
        cases accepted with
        | nil =>
          cases hGoing
          exact absurd rfl hLeft.enclosing_ne_nil
        | cons token accepted =>
          rw [hAnswers] at hHead
          cases hHead

end Courses

theorem Answers.head?_eq {σ : Type} [TokenSource σ] {source last : σ} {answers : List Answer}
    (h : Answers source answers last) (hAnswers : answers ≠ []) :
    answers.head? = some (TokenSource.next source).1 := by
  cases h with
  | nil => exact absurd rfl hAnswers
  | cons => rfl

theorem course_of_head_error {answers : List Answer} {goals : List Goal} {error : ScanError}
    (h : answers.head? = some (.error error)) :
    course goals answers = ⟨[], .ended (.faulted error)⟩ := by
  cases answers with
  | nil => cases h
  | cons answer answers =>
    cases h
    rfl

theorem not_mem_error_course (goals : List Goal) (answers : List Answer) (token : Token)
    (message : String) : .error token message ∉ (course goals answers).events := by
  intro hMem
  cases isLast_eq_false_of_mem_course goals answers _ hMem

section Runs

variable {σ τ : Type} [TokenSource σ] [Recorder τ] {source last : σ} {observer : τ}
  {answers : List Answer}

theorem InContext.of_succeeded (hEmpty : Recorder.events observer = [])
    (h : (course startGoals answers).standing = .ended .succeeded) :
    InContext source observer (.ok ())
      (Observer.notifyAll ((course startGoals answers).events ++ [.success]) observer) [] := by
  have hEvents := Recorder.events_notifyAll ((course startGoals answers).events ++ [.success])
    observer
  rw [hEmpty, List.nil_append] at hEvents
  exact
    { stillOpen_eq := by
        rw [hEvents, Event.stillOpen, Event.replay_append, replay_of_succeeded h]
        rfl
      wraps := by
        intro token message hMem
        rw [hEvents] at hMem
        simp [not_mem_error_course] at hMem
      unasked := fun _ => .inl rfl
      nil_iff := ⟨fun _ => .inl rfl, fun _ => rfl⟩ }

theorem InContext.of_rejected (hEmpty : Recorder.events observer = [])
    (hAnswers : Answers source answers last) {token : Token} {expected : Expectation}
    {rest : List Goal}
    (h : (course startGoals answers).standing = .ended (.rejected token expected rest)) :
    let ending := Ending.rejected token expected rest
    InContext source observer
      (ending.result (Observer.notifyAll (course startGoals answers).events observer))
      (Observer.notifyAll ((course startGoals answers).events ++ ending.report) observer)
      (Goal.enclosing rest).reverse := by
  intro ending
  have hEvents := Recorder.events_notifyAll ((course startGoals answers).events ++ ending.report)
    observer
  rw [hEmpty, List.nil_append] at hEvents
  exact
    { stillOpen_eq := by
        rw [hEvents, Event.stillOpen, Ending.report, replay_report_of_rejected h]
        rfl
      wraps := by
        intro other message hMem
        rw [hEvents] at hMem
        simp only [List.mem_append, not_mem_error_course, false_or] at hMem
        cases List.mem_singleton.mp hMem
        exact ⟨(course startGoals answers).events, _, _, rfl, rfl, rfl,
          ParseError.withinAll_eq_foldr _ _,
          fun hBare => ParseError.withinAll_of_isBare hBare _,
          fun hBare => ⟨ParseError.productions_withinAll hBare _,
            ParseError.depth_withinAll hBare _⟩⟩
      unasked := by
        intro hNone
        rw [hEvents] at hNone
        exact absurd (List.mem_append_right _ (List.mem_singleton_self _)) (hNone token _)
      nil_iff := by
        rw [List.reverse_eq_nil_iff, hEvents, Ending.report, trailing_iff_enclosing_eq_nil h]
        constructor
        · exact fun hNil => .inr (.inl hNil)
        · rintro (hOk | hNil | ⟨error, hError⟩)
          · cases hOk
          · exact hNil
          · have hHead := hAnswers.head?_eq (by rintro rfl; cases h)
            rw [hError] at hHead
            rw [course_of_head_error hHead] at h
            cases h }

theorem InContext.of_faulted (hEmpty : Recorder.events observer = [])
    (hAnswers : Answers source answers last) {error : ScanError}
    (h : (course startGoals answers).standing = .ended (.faulted error)) :
    ∃ productions, InContext source observer (.error (.scan error))
      (Observer.notifyAll (course startGoals answers).events observer) productions := by
  have hEvents := Recorder.events_notifyAll (course startGoals answers).events observer
  rw [hEmpty, List.nil_append] at hEvents
  have hHead := hAnswers.head?_eq (by rintro rfl; cases h)
  obtain ⟨productions, hReplay, hNil⟩ := replay_of_faulted h
  refine ⟨productions.reverse, ?_⟩
  exact
    { stillOpen_eq := by
        rw [hEvents, Event.stillOpen, hReplay]
        rfl
      wraps := by
        intro token message hMem
        rw [hEvents] at hMem
        exact absurd hMem (not_mem_error_course _ _ _ _)
      unasked := fun _ => .inr ⟨error, rfl⟩
      nil_iff := by
        rw [List.reverse_eq_nil_iff, hNil, hHead]
        constructor
        · exact fun hSame => .inr (.inr ⟨error, Option.some.inj hSame⟩)
        · rintro (hOk | hTrailing | ⟨other, hOther⟩)
          · cases hOk
          · obtain ⟨tree, token, message, -, hWalk⟩ := hTrailing
            rw [hEvents] at hWalk
            refine absurd ?_ (not_mem_error_course startGoals answers token message)
            rw [hWalk]
            exact List.mem_append_right _ (List.mem_singleton_self _)
          · rw [hOther] at hHead ⊢
            rw [course_of_head_error hHead] at h
            cases h
            rfl }

theorem InContext.of_runWithin {limit : Nat} {result : Except ParseError Unit}
    {after : Analysis σ τ} (hEmpty : Recorder.events observer = [])
    (h : (Analysis.new source observer).runWithin limit = some (result, after)) :
    ∃ productions, InContext source observer result after.observer productions := by
  obtain ⟨ended, hEnded, hAfter⟩ := Option.map_eq_some_iff.mp h
  cases hAfter
  obtain ⟨answers, last, ending, hAnswers, hEnd, hResult, hObserver⟩ :=
    Run.exists_course_of_finishWithin hEnded
  change ∃ productions, InContext source observer ended.result ended.observer productions
  rw [hResult, hObserver]
  cases ending with
  | succeeded => exact ⟨[], .of_succeeded hEmpty hEnd⟩
  | rejected token expected rest => exact ⟨_, .of_rejected hEmpty hAnswers hEnd⟩
  | faulted error =>
    have hContext := InContext.of_faulted hEmpty hAnswers hEnd
    rwa [← List.append_nil (course startGoals answers).events] at hContext

end Runs

/-- Over any source: the result is the observer's answer inside the productions that its record
leaves open; and with a plain recording these are all that the error has around it. -/
theorem Analysis.runWithin_inContext {σ : Type} [TokenSource σ] (source : σ) (limit : Nat) :
    (∀ (τ : Type) [Recorder τ] (observer : τ) (result : Except ParseError Unit)
        (after : Analysis σ τ), Recorder.events observer = [] →
        (Analysis.new source observer).runWithin limit = some (result, after) →
        ∃ productions, InContext source observer result after.observer productions) ∧
      ∀ (result : Except ParseError Unit) (after : Analysis σ Recording) (token : Token)
        (message : String),
        (Analysis.new source Recording.empty).runWithin limit = some (result, after) →
        .error token message ∈ after.observer.events →
        ∃ error, result = .error error ∧
          Event.stillOpen after.observer.events = some error.productions ∧
          error.depth = error.productions.length ∧ error.token? = some token ∧
          error.message? = some message := by
  constructor
  · intro τ _ observer result after hEmpty h
    exact InContext.of_runWithin hEmpty h
  · intro result after token message h hMem
    obtain ⟨productions, hContext⟩ := InContext.of_runWithin rfl h
    obtain ⟨before, answer, error, -, hAnswer, hResult, hWraps, -, hLayers⟩ :=
      hContext.wraps token message hMem
    obtain rfl : answer = .unexpectedToken token message := hAnswer
    have hProductions : error.productions = productions :=
      (hLayers rfl).1.trans (List.append_nil _)
    have hInside : error =
        (ParseError.unexpectedToken token message).withinAll productions.reverse := by
      rw [hWraps, ParseError.withinAll_eq_foldr, List.reverse_reverse]
    refine ⟨error, hResult, ?_, error.depth_eq_length_productions, ?_, ?_⟩
    · rw [hProductions]
      exact hContext.stillOpen_eq
    · rw [hInside, ParseError.token?_withinAll]
      rfl
    · rw [hInside, ParseError.message?_withinAll]
      rfl

def stopping : Substituting :=
  ⟨.empty, .context .condition (.unexpectedToken (.fixed .comma 3) "Stopped")⟩

theorem unfinishedSum_runWithin_inContext :
    (∃ result after, (Analysis.new (Padded.ofProducer unfinishedSum) stopping).runWithin 9 =
        some (result, after) ∧ result = .error (stopping.answer.withinAll
          [.factor, .term, .expression, .factor, .term, .expression, .assignmentStatement,
            .statement, .statementList, .statementPart]) ∧
        ∃ productions,
          InContext (Padded.ofProducer unfinishedSum) stopping result after.observer productions) ∧
      ∃ result after, (Analysis.new (Padded.ofProducer unfinishedSum) Recording.empty).runWithin 9 =
          some (result, after) ∧
        .error (.fixed .endWord 6) "Expected identifier, numberConstant, or ( in <Factor>" ∈
          after.observer.events ∧
        ∃ error, result = .error error ∧
          Event.stillOpen after.observer.events = some error.productions ∧
          error.depth = error.productions.length ∧
          error.token? = some (.fixed .endWord 6) ∧
          error.message? = some "Expected identifier, numberConstant, or ( in <Factor>" := by
  have hStopped : ((Analysis.new (Padded.ofProducer unfinishedSum) stopping).runWithin 9).any
      (fun outcome => outcome.1 = .error (stopping.answer.withinAll
        [.factor, .term, .expression, .factor, .term, .expression, .assignmentStatement,
          .statement, .statementList, .statementPart])) = true := by decide +kernel
  have hRecorded :
      ((Analysis.new (Padded.ofProducer unfinishedSum) Recording.empty).runWithin 9).any
        (fun outcome => .error (.fixed .endWord 6)
          "Expected identifier, numberConstant, or ( in <Factor>" ∈ outcome.2.observer.events) =
      true := by decide +kernel
  obtain ⟨⟨result, after⟩, hRun, hResult⟩ := (Option.any_eq_true _ _).mp hStopped
  obtain ⟨⟨other, recorded⟩, hOther, hMem⟩ := (Option.any_eq_true _ _).mp hRecorded
  obtain ⟨hContexts, hPlain⟩ :=
    Analysis.runWithin_inContext (Padded.ofProducer unfinishedSum) 9
  exact ⟨⟨result, after, hRun, of_decide_eq_true hResult,
      hContexts Substituting stopping result after rfl hRun⟩,
    other, recorded, hOther, of_decide_eq_true hMem,
    hPlain other recorded _ _ hOther (of_decide_eq_true hMem)⟩

end TallyCheck
