import TallyCheck.Proofs.ScanFailure

/-! # What an analysis asks for

An analysis asks its source for one token more than it takes.  The tokens taken are the answers in
their order, and the last answer, left untaken, is the one with which the analysis ends: behind an
end of the input or an error nothing is asked for.  The source may be any machine; a source that
keeps its answers shows which they were.
-/
namespace TallyCheck
set_option autoImplicit false

/-- `view` tells what one source has become from what another has, and both answer alike. -/
structure TokenSource.Reveals {σ ρ : Type} [TokenSource σ] [TokenSource ρ] (view : σ → ρ) :
    Prop where
  next_eq : ∀ source,
    TokenSource.next (view source) =
      ((TokenSource.next source).1, view (TokenSource.next source).2)

section Views

variable {σ ρ τ : Type}

def Run.fed (view : σ → ρ) (run : Run σ τ) : Run ρ τ :=
  ⟨view run.source, run.observer, run.goals⟩

def Ended.fed (view : σ → ρ) (ended : Ended σ τ) : Ended ρ τ :=
  ⟨ended.result, view ended.source, ended.observer⟩

def Progress.fed (view : σ → ρ) : Progress σ τ → Progress ρ τ
  | .going next => .going (next.fed view)
  | .ended last => .ended (last.fed view)

def Analysis.fed (view : σ → ρ) (analysis : Analysis σ τ) : Analysis ρ τ :=
  ⟨view analysis.source, analysis.observer, analysis.status⟩

variable [TokenSource σ] [TokenSource ρ] [Observer τ] {view : σ → ρ}

namespace TokenSource.Reveals

theorem step (h : Reveals view) (run : Run σ τ) : (run.fed view).step = run.step.fed view := by
  obtain ⟨source, observer, goals⟩ := run
  change (Run.mk (view source) observer goals).step = _
  rcases hNext : TokenSource.next source with ⟨answer, next⟩
  have hView : TokenSource.next (view source) = (answer, view next) := by rw [h.next_eq, hNext]
  cases answer with
  | error error =>
    rw [Run.step_of_error hNext, Run.step_of_error hView]
    rfl
  | ok token =>
    rw [Run.step_of_ok hNext, Run.step_of_ok hView, Run.meet, Run.meet]
    split <;> rfl

theorem finishWithin (h : Reveals view) (limit : Nat) (run : Run σ τ) :
    (run.fed view).finishWithin limit = (run.finishWithin limit).map (Ended.fed view) := by
  induction limit generalizing run with
  | zero => rfl
  | succ limit ih =>
    rw [Run.finishWithin, Run.finishWithin, h.step]
    cases run.step with
    | going next => exact ih next
    | ended ended => rfl

theorem runWithin (h : Reveals view) (limit : Nat) (analysis : Analysis σ τ) :
    (analysis.fed view).runWithin limit =
      (analysis.runWithin limit).map fun outcome => (outcome.1, outcome.2.fed view) := by
  obtain ⟨source, observer, status⟩ := analysis
  cases status with
  | notStarted =>
    have hFinish := h.finishWithin limit (Run.start source observer)
    change Option.map _ (((Run.start source observer).fed view).finishWithin limit) = _
    rw [hFinish, Analysis.runWithin]
    simp only [Option.map_map]
    rfl
  | running | succeeded | failed => rfl

end TokenSource.Reveals
end Views

/-- A source together with the answers it has given. -/
structure Overheard (σ : Type) where
  source : σ
  answers : List Answer

namespace Overheard

variable {σ : Type}

def ofSource (source : σ) : Overheard σ := ⟨source, []⟩

variable [TokenSource σ]

instance : TokenSource (Overheard σ) where
  next heard :=
    let (answer, source) := TokenSource.next heard.source
    (answer, ⟨source, heard.answers ++ [answer]⟩)

theorem reveals_source : TokenSource.Reveals (source : Overheard σ → σ) where
  next_eq _ := rfl

theorem answers_of_answers {heard last : Overheard σ} {answers : List Answer}
    (h : Answers heard answers last) :
    Answers heard.source answers last.source ∧ last.answers = heard.answers ++ answers := by
  induction h with
  | nil heard =>
    constructor
    · exact .nil _
    · exact (List.append_nil _).symm
  | @cons heard last answers _ ih =>
    obtain ⟨hAnswers, hLast⟩ := ih
    constructor
    · exact .of_next rfl hAnswers
    · rw [hLast, List.append_cons]
      rfl

end Overheard

/-- How the answers that a source was asked for belong to the result and the events of the analysis
that asked. -/
structure OneAhead (answers : List Answer) (result : Except ParseError Unit)
    (events : List Event) : Prop where
  length_eq : answers.length = (Event.terminals events).length + 1
  taken : ∀ (index : Nat) (token : Token), (Event.terminals events)[index]? = some token →
    answers[index]? = some (.ok token)
  taken_ne_end : ∀ token ∈ Event.terminals events, token.symbol ≠ .endOfInput
  /-- An end-of-input token or an error is the last answer. -/
  last_of_ends : ∀ (index : Nat) (answer : Answer), answers[index]? = some answer →
    Scanner.endsStream answer = true → index + 1 = answers.length
  succeeded : result = .ok () →
    ∃ token, answers.getLast? = some (.ok token) ∧ token.symbol = .endOfInput
  rejected : ∀ (error : ParseError) (token : Token), result = .error error →
    error.token? = some token → answers.getLast? = some (.ok token)
  reported : ∀ (token : Token) (message : String), .error token message ∈ events →
    answers.getLast? = some (.ok token)
  faulted : ∀ error, result = .error (.scan error) → answers.getLast? = some (.error error)

theorem symbol_ne_of_going {tokens : List Token} {goals rest : List Goal}
    (h : (course goals (tokens.map Except.ok)).standing = .going rest) :
    ∀ token ∈ tokens, token.symbol ≠ .endOfInput := by
  induction tokens generalizing goals with
  | nil => simp
  | cons token tokens ih =>
    rw [List.map_cons, course_ok, Prediction.course] at h
    split at h
    · rename_i left hVerdict
      exact List.forall_mem_cons.mpr ⟨predict_accept_ne_endOfInput hVerdict, ih h⟩
    · cases h
    · cases h

/-- The record of an analysis that ends in a known way, by a known answer. -/
structure Analysis.EndsBy {σ : Type} (accepted : List Token) (answer : Answer) (ending : Ending)
    (result : Except ParseError Unit) (analysis : Analysis σ Recording) : Prop where
  causedBy : ending.CausedBy answer
  inner : ∀ token ∈ accepted, token.symbol ≠ .endOfInput
  result_eq : result = ending.result Recording.empty
  status_eq : analysis.status = Ended.status ⟨result, analysis.source, analysis.observer⟩
  events_eq : ∃ events, analysis.observer.events = events ++ ending.report ∧
    (∀ event ∈ events, event.isLast = false) ∧ Event.terminals events = accepted

/-- Whatever the source, a first run that ends has taken some tokens, the answers to its questions
but for the last, and ends by that one. -/
theorem Analysis.exists_endsBy {σ : Type} [TokenSource σ] {source : σ} {limit : Nat}
    {result : Except ParseError Unit} {after : Analysis σ Recording}
    (h : (Analysis.new source Recording.empty).runWithin limit = some (result, after)) :
    ∃ accepted answer ending, Answers source (accepted.map Except.ok ++ [answer]) after.source ∧
      EndsBy accepted answer ending result after := by
  obtain ⟨ended, hEnded, hAfter⟩ := Option.map_eq_some_iff.mp h
  cases hAfter
  obtain ⟨front, answer, rest, ending, hAnswers, hFront, hEnd, hResult, hObserver⟩ :=
    Run.exists_last_of_finishWithin hEnded
  obtain ⟨accepted, rfl⟩ : ∃ accepted : List Token, front = accepted.map Except.ok :=
    ⟨_, eq_terminals_of_going hFront⟩
  obtain ⟨hNone, hCaused⟩ := course_last hEnd
  refine ⟨accepted, answer, ending, hAnswers, ?_⟩
  exact
    { causedBy := hCaused
      inner := symbol_ne_of_going hFront
      result_eq := by
        rw [hResult]
        cases ending <;> rfl
      status_eq := rfl
      events_eq := by
        refine ⟨(course startGoals (accepted.map Except.ok ++ [answer])).events, ?_,
          isLast_eq_false_of_mem_course _ _, ?_⟩
        · change ended.observer.events = _
          rw [hObserver, Recording.events_notifyAll]
          rfl
        · have hTaken : Event.terminals (course startGoals (accepted.map Except.ok)).events =
              accepted := terminals_of_going hFront
          have hWhole : course startGoals (accepted.map Except.ok ++ [answer]) =
              (course rest [answer]).after (course startGoals (accepted.map Except.ok)).events :=
            course_append_of_going [answer] hFront
          rw [hWhole, Course.events_after, Event.terminals_append, hTaken, hNone, List.append_nil] }

namespace Analysis.EndsBy

variable {σ : Type} {accepted : List Token} {answer : Answer} {ending : Ending}
  {result : Except ParseError Unit} {analysis : Analysis σ Recording}

theorem terminals_eq (h : EndsBy accepted answer ending result analysis) :
    Event.terminals analysis.observer.events = accepted := by
  obtain ⟨events, hEvents, -, hTerminals⟩ := h.events_eq
  rw [hEvents, Event.terminals_append, hTerminals, ending.terminals_report, List.append_nil]

theorem mem_report_of_isLast (h : EndsBy accepted answer ending result analysis) {event : Event}
    (hMem : event ∈ analysis.observer.events) (hLast : event.isLast = true) :
    event ∈ ending.report := by
  obtain ⟨events, hEvents, hInner, -⟩ := h.events_eq
  rw [hEvents, List.mem_append] at hMem
  rcases hMem with hMem | hMem
  · cases (hInner event hMem).symm.trans hLast
  · exact hMem

theorem taken (h : EndsBy accepted answer ending result analysis) {index : Nat} {token : Token}
    (hToken : (Event.terminals analysis.observer.events)[index]? = some token) :
    (accepted.map Except.ok ++ [answer])[index]? = some (.ok token) := by
  rw [h.terminals_eq] at hToken
  have hIndex := (List.getElem?_eq_some_iff.mp hToken).1
  rw [List.getElem?_append_left (by simpa using hIndex), List.getElem?_map, hToken]
  rfl

theorem last_of_ends (h : EndsBy accepted answer ending result analysis) {index : Nat}
    {given : Answer} (hGiven : (accepted.map Except.ok ++ [answer])[index]? = some given)
    (hEnds : Scanner.endsStream given = true) :
    index + 1 = (accepted.map Except.ok ++ [answer]).length := by
  rcases Nat.lt_or_ge index accepted.length with hBefore | hBehind
  · rw [List.getElem?_append_left (by simpa using hBefore), List.getElem?_map,
      List.getElem?_eq_getElem hBefore] at hGiven
    cases hGiven
    exact absurd (of_decide_eq_true hEnds) (h.inner _ (List.getElem_mem hBefore))
  · have hIndex := (List.getElem?_eq_some_iff.mp hGiven).1
    simp only [List.length_append, List.length_map, List.length_singleton] at hIndex ⊢
    omega

theorem exists_answer_of_ok (h : EndsBy accepted answer ending (.ok ()) analysis) :
    ∃ token, answer = .ok token ∧ token.symbol = .endOfInput := by
  have hResult := h.result_eq
  cases h.causedBy with
  | succeeded hEnd => exact ⟨_, rfl, hEnd⟩
  | rejected | faulted => cases hResult

theorem answer_of_token? {error : ParseError} {token : Token}
    (h : EndsBy accepted answer ending (.error error) analysis)
    (hToken : error.token? = some token) : answer = .ok token := by
  have hResult := h.result_eq
  cases h.causedBy with
  | rejected =>
    have hSame := Ending.token?_of_result hResult.symm
    rw [hToken] at hSame
    cases hSame
    rfl
  | succeeded => cases hResult
  | faulted =>
    cases hResult
    cases hToken

theorem answer_of_error_mem (h : EndsBy accepted answer ending result analysis) {token : Token}
    {message : String} (hMem : .error token message ∈ analysis.observer.events) :
    answer = .ok token := by
  have hReport := h.mem_report_of_isLast hMem rfl
  cases h.causedBy with
  | rejected =>
    cases List.mem_singleton.mp hReport
    rfl
  | succeeded => cases List.mem_singleton.mp hReport
  | faulted => cases hReport

theorem answer_of_scan {fault : ScanError}
    (h : EndsBy accepted answer ending (.error (.scan fault)) analysis) :
    answer = .error fault := by
  have hResult := h.result_eq
  cases h.causedBy with
  | faulted =>
    cases hResult
    rfl
  | succeeded => cases hResult
  | rejected => cases Ending.token?_of_result hResult.symm

theorem oneAhead (h : EndsBy accepted answer ending result analysis) :
    OneAhead (accepted.map Except.ok ++ [answer]) result analysis.observer.events := by
  have hLast : (accepted.map Except.ok ++ [answer]).getLast? = some answer := List.getLast?_concat
  exact
    { length_eq := by simp [h.terminals_eq]
      taken := fun _ _ hToken => h.taken hToken
      taken_ne_end := by
        rw [h.terminals_eq]
        exact h.inner
      last_of_ends := fun _ _ hGiven hEnds => h.last_of_ends hGiven hEnds
      succeeded := by
        rintro rfl
        obtain ⟨token, rfl, hEnd⟩ := h.exists_answer_of_ok
        exact ⟨token, hLast, hEnd⟩
      rejected := by
        rintro error token rfl hToken
        rw [hLast, h.answer_of_token? hToken]
      reported := by
        intro token message hMem
        rw [hLast, h.answer_of_error_mem hMem]
      faulted := by
        rintro fault rfl
        rw [hLast, h.answer_of_scan] }

end Analysis.EndsBy

/-- Over any source: the analysis of one that keeps its answers is the analysis of the source
itself, and what it was asked for is one answer more than was taken. -/
theorem Analysis.runWithin_oneAhead {σ : Type} [TokenSource σ] (source : σ) (limit : Nat) :
    let run := (Analysis.new source Recording.empty).runWithin limit
    let heard := (Analysis.new (Overheard.ofSource source) Recording.empty).runWithin limit
    run = heard.map (fun outcome => (outcome.1, outcome.2.fed Overheard.source)) ∧
    ∀ (result : Except ParseError Unit) (after : Analysis (Overheard σ) Recording),
      heard = some (result, after) →
      Answers source after.source.answers after.source.source ∧
        OneAhead after.source.answers result after.observer.events := by
  intro run heard
  constructor
  · exact Overheard.reveals_source.runWithin limit
      (Analysis.new (Overheard.ofSource source) Recording.empty)
  · intro result after h
    obtain ⟨accepted, answer, ending, hAnswers, hEnds⟩ := exists_endsBy h
    obtain ⟨hSource, hKept⟩ := Overheard.answers_of_answers hAnswers
    rw [hKept]
    exact ⟨hSource, hEnds.oneAhead⟩

/-- A source that gives its answers in a circle, for ever. -/
structure Carousel where
  answers : List Answer

instance : TokenSource Carousel where
  next carousel :=
    match carousel.answers with
    | [] => (.ok (.endOfInput 0), carousel)
    | answer :: answers => (answer, ⟨answers ++ [answer]⟩)

def assignmentCircle : List Answer :=
  [.ok (.fixed .beginWord 0), .ok (.ofText .identifier "x" 0), .ok (.fixed .becomes 0),
    .ok (.ofText .numberConstant "1" 0), .ok (.fixed .semicolon 0)]

/-- Back at its beginning, the circle is not gone round again. -/
theorem assignmentCircle_oneAhead :
    ∃ result after,
      (Analysis.new (Overheard.ofSource (Carousel.mk assignmentCircle)) Recording.empty).runWithin
        9 = some (result, after) ∧
      after.source.answers = assignmentCircle ++ [.ok (.fixed .beginWord 0)] ∧
      (Event.terminals after.observer.events).length = 5 ∧
      OneAhead after.source.answers result after.observer.events := by
  have hRun : ((Analysis.new (Overheard.ofSource (Carousel.mk assignmentCircle))
      Recording.empty).runWithin 9).any (fun outcome => outcome.2.source.answers =
        assignmentCircle ++ [.ok (.fixed .beginWord 0)] ∧
      (Event.terminals outcome.2.observer.events).length = 5) = true := by decide +kernel
  obtain ⟨⟨result, after⟩, hHeard, hShown⟩ := (Option.any_eq_true _ _).mp hRun
  obtain ⟨hAnswers, hTaken⟩ := of_decide_eq_true hShown
  obtain ⟨-, hAhead⟩ := Analysis.runWithin_oneAhead (Carousel.mk assignmentCircle) 9
  exact ⟨result, after, hHeard, hAnswers, hTaken, (hAhead result after hHeard).2⟩

end TallyCheck
