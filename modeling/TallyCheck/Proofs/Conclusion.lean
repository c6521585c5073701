import TallyCheck.Proofs.Inquiry

/-! # How an analysis concludes

An analysis concludes once: with a success, with an error, or, where its source fails, without a
report.  The report of a conclusion is the last event of a record, and the result and the status
agree with it.  Whoever calls again is refused, and nothing is changed by that.
-/
namespace TallyCheck
set_option autoImplicit false

namespace Event

theorem eq_nil_of_isLast {front report before behind : List Event} {event : Event}
    (hFront : ∀ event ∈ front, event.isLast = false) (hReport : report.length ≤ 1)
    (hSplit : front ++ report = before ++ event :: behind) (hLast : event.isLast = true) :
    behind = [] := by
  have hEvent : (front ++ report)[before.length]? = some event := by simp [hSplit]
  have hBefore : front.length ≤ before.length := by
    by_contra hInside
    rw [List.getElem?_append_left (by omega)] at hEvent
    cases (hFront event (List.mem_of_getElem? hEvent)).symm.trans hLast
  have hLength := congrArg List.length hSplit
  simp only [List.length_append, List.length_cons] at hLength
  apply List.eq_nil_of_length_eq_zero
  omega

end Event

theorem Ending.length_report_le (ending : Ending) : ending.report.length ≤ 1 := by
  cases ending <;> simp [report]

/-- What the events recorded by an analysis, its result and its status say about each other. -/
structure Concludes (events : List Event) (result : Except ParseError Unit) (status : Status) :
    Prop where
  /-- Successes and errors together. -/
  once : events.countP Event.isLast ≤ 1
  last : ∀ before event behind, events = before ++ event :: behind → event.isLast = true →
    behind = []
  success_iff : .success ∈ events ↔ result = .ok () ∧ status = .succeeded
  error_iff : (∃ token message, .error token message ∈ events) ↔
    ∃ error token message, result = .error error ∧
      error.innermost = .unexpectedToken token message
  silent_iff : (∀ event ∈ events, event.isLast = false) ↔ ∃ fault, result = .error (.scan fault)
  status_eq : result = .ok () ∧ status = .succeeded ∨
    (∃ error, result = .error error) ∧ status = .failed

namespace Analysis.EndsBy

variable {σ : Type} {accepted : List Token} {answer : Answer} {ending : Ending}
  {result : Except ParseError Unit} {analysis : Analysis σ Recording}

theorem mem_of_mem_report (h : EndsBy accepted answer ending result analysis) {event : Event}
    (hMem : event ∈ ending.report) : event ∈ analysis.observer.events := by
  obtain ⟨events, hEvents, -⟩ := h.events_eq
  rw [hEvents]
  exact List.mem_append_right events hMem

theorem success_mem_iff (h : EndsBy accepted answer ending result analysis) :
    .success ∈ analysis.observer.events ↔ result = .ok () := by
  rw [h.result_eq, Ending.result_eq_ok_iff]
  constructor
  · intro hMem
    have hReport := h.mem_report_of_isLast hMem rfl
    cases ending with
    | succeeded => rfl
    | rejected => cases List.mem_singleton.mp hReport
    | faulted => cases hReport
  · rintro rfl
    exact h.mem_of_mem_report (List.mem_singleton_self _)

theorem error_mem_iff (h : EndsBy accepted answer ending result analysis) :
    (∃ token message, .error token message ∈ analysis.observer.events) ↔
      ∃ error token message, result = .error error ∧
        error.innermost = .unexpectedToken token message := by
  rw [h.result_eq]
  constructor
  · rintro ⟨token, message, hMem⟩
    have hReport := h.mem_report_of_isLast hMem rfl
    cases ending with
    | succeeded => cases List.mem_singleton.mp hReport
    | rejected => exact ⟨_, _, _, rfl, ParseError.innermost_withinAll _ _⟩
    | faulted => cases hReport
  · rintro ⟨error, token, message, hError, hInnermost⟩
    cases ending with
    | succeeded => cases hError
    | rejected => exact ⟨_, _, h.mem_of_mem_report (List.mem_singleton_self _)⟩
    | faulted =>
      cases hError
      cases hInnermost

theorem silent_iff (h : EndsBy accepted answer ending result analysis) :
    (∀ event ∈ analysis.observer.events, event.isLast = false) ↔
      ∃ fault, result = .error (.scan fault) := by
  rw [h.result_eq]
  constructor
  · intro hSilent
    cases ending with
    | succeeded | rejected => cases hSilent _ (h.mem_of_mem_report (List.mem_singleton_self _))
    | faulted fault => exact ⟨fault, rfl⟩
  · rintro ⟨fault, hFault⟩ event hMem
    cases hLast : event.isLast with
    | false => rfl
    | true =>
      have hReport := h.mem_report_of_isLast hMem hLast
      cases ending with
      | succeeded => cases hFault
      | rejected => cases Ending.token?_of_result hFault
      | faulted => cases hReport

theorem concludes (h : EndsBy accepted answer ending result analysis) :
    Concludes analysis.observer.events result analysis.status := by
  have hStatus := h.status_eq
  have hSuccess := h.success_mem_iff
  obtain ⟨events, hEvents, hInner, -⟩ := h.events_eq
  exact
    { once := by
        have hFront : events.countP Event.isLast = 0 :=
          List.countP_eq_zero.mpr fun event hMem => by simp [hInner event hMem]
        have hReport := List.countP_le_length (p := Event.isLast) (l := ending.report)
        have hLength := ending.length_report_le
        rw [hEvents, List.countP_append]
        omega
      last := by
        intro before event behind hSplit hLast
        rw [hEvents] at hSplit
        exact Event.eq_nil_of_isLast hInner ending.length_report_le hSplit hLast
      success_iff := by
        rw [hSuccess]
        constructor
        · rintro rfl
          exact ⟨rfl, hStatus⟩
        · exact And.left
      error_iff := h.error_mem_iff
      silent_iff := h.silent_iff
      status_eq := by
        cases result with
        | ok => exact .inl ⟨rfl, hStatus⟩
        | error error => exact .inr ⟨⟨error, rfl⟩, hStatus⟩ }

end Analysis.EndsBy

theorem Concludes.status_ne {events : List Event} {result : Except ParseError Unit}
    {status : Status} (h : Concludes events result status) :
    status ≠ .notStarted ∧ status ≠ .running := by
  rcases h.status_eq with ⟨-, rfl⟩ | ⟨-, rfl⟩
  · decide
  · decide

namespace Analysis

section Calls

variable {σ τ : Type} [TokenSource σ] [Observer τ]

/-- One call after the other, each within a limit of its own, if all of them return: the results and
what the analysis is at the end. -/
def runEach : List Nat → Analysis σ τ → Option (List (Except ParseError Unit) × Analysis σ τ)
  | [], analysis => some ([], analysis)
  | limit :: limits, analysis =>
    (analysis.runWithin limit).bind fun outcome =>
      (outcome.2.runEach limits).map fun later => (outcome.1 :: later.1, later.2)

theorem runWithin_of_status_ne {analysis : Analysis σ τ} (h : analysis.status ≠ .notStarted)
    (limit : Nat) : analysis.runWithin limit = some (.error .alreadyRun, analysis) := by
  obtain ⟨source, observer, status⟩ := analysis
  cases status with
  | notStarted => exact absurd rfl h
  | running | succeeded | failed => rfl

theorem runEach_of_status_ne {analysis : Analysis σ τ} (h : analysis.status ≠ .notStarted)
    (limits : List Nat) :
    analysis.runEach limits = some (limits.map fun _ => .error .alreadyRun, analysis) := by
  induction limits with
  | nil => rfl
  | cons limit limits ih =>
    rw [runEach, runWithin_of_status_ne h, Option.bind_some, ih]
    rfl

end Calls

/-- Whatever the source, once the first call has returned: it has concluded, and every later call
is refused and leaves the events, the status and the source as they are. -/
theorem runEach_concludes {σ : Type} [TokenSource σ] {source : σ} {limit : Nat}
    {result : Except ParseError Unit} {after : Analysis σ Recording}
    (h : (Analysis.new source Recording.empty).runWithin limit = some (result, after))
    (limits : List Nat) :
    Concludes after.observer.events result after.status ∧ after.status ≠ .notStarted ∧
      after.status ≠ .running ∧
      (Analysis.new source Recording.empty).runEach (limit :: limits) =
        some (result :: limits.map fun _ => .error .alreadyRun, after) := by
  obtain ⟨accepted, answer, ending, -, hEnds⟩ := exists_endsBy h
  have hConcludes := hEnds.concludes
  obtain ⟨hStarted, hReturned⟩ := hConcludes.status_ne
  refine ⟨hConcludes, hStarted, hReturned, ?_⟩
  rw [runEach, h, Option.bind_some, runEach_of_status_ne hStarted]
  rfl

theorem nestedProgram_concludes :
    ∃ after, (Analysis.new (Padded.ofProducer nestedProgram) Recording.empty).runWithin 40 =
        some (.ok (), after) ∧
      Concludes after.observer.events (.ok ()) after.status ∧
      (Analysis.new (Padded.ofProducer nestedProgram) Recording.empty).runEach [40, 0, 2] =
        some ([.ok (), .error .alreadyRun, .error .alreadyRun], after) := by
  have hRun : ((Analysis.new (Padded.ofProducer nestedProgram) Recording.empty).runWithin 40).any
      (fun outcome => outcome.1 = .ok ()) = true := by decide +kernel
  obtain ⟨⟨result, after⟩, hFirst, hResult⟩ := (Option.any_eq_true _ _).mp hRun
  obtain rfl : result = .ok () := of_decide_eq_true hResult
  obtain ⟨hConcludes, -, -, hCalls⟩ := runEach_concludes hFirst [0, 2]
  exact ⟨after, hFirst, hConcludes, hCalls⟩

end Analysis
end TallyCheck
