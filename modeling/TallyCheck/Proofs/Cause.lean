import TallyCheck.Proofs.ScanFailure
import TallyCheck.Proofs.Spelling

/-! # What stops the analysis of a text

The analysis of a text is stopped by one answer of the scanner, the one behind the tokens that were
accepted: it is the end of the input, the token that is rejected, or the scan error passed on.
-/
namespace TallyCheck
set_option autoImplicit false

def acceptedCount (source : String) : Nat := (Event.terminals (recordText source).2).length

/-- The answer behind the tokens accepted. -/
def stoppingAnswer (source : String) : Answer :=
  (Scanner.ofString source).answer (acceptedCount source)

theorem exists_ending (source : String) :
    ∃ events ending, recordText source = Ending.record events ending ∧
      ending.CausedBy (stoppingAnswer source) ∧
      ∀ {τ : Type} [Observer τ] (observer : τ), analyseText source observer =
        (ending.result (Observer.notifyAll events observer),
          Observer.notifyAll (events ++ ending.report) observer) := by
  obtain ⟨last, hAnswers⟩ := Padded.exists_answers_stream source
  obtain ⟨ending, hEnd⟩ := (Scanner.ofString source).exists_ended_stream startGoals
  obtain ⟨accepted, answer, back, rest, hStream, -, -, -, hAccepted, hCaused⟩ := course_ended hEnd
  have hRecord := recordText_eq hAnswers rfl hEnd
  have hStopping : stoppingAnswer source = answer := by
    rw [stoppingAnswer, acceptedCount, hRecord, Ending.terminals_record, hAccepted]
    apply Scanner.answer_of_getElem?_stream
    rw [hStream, List.getElem?_append_right (by simp)]
    simp
  refine ⟨_, ending, hRecord, hStopping ▸ hCaused, ?_⟩
  intro τ _ observer
  obtain ⟨hResult, hObserver⟩ := Run.finish_of_course hAnswers observer hEnd
  exact Prod.ext hResult hObserver

namespace ParseError

/-- An error shows the token that was rejected, or passes a scan error on. -/
def About (error : ParseError) : Answer → Prop
  | .ok token => error.token? = some token
  | .error fault => error = .scan fault

theorem About.line? {error : ParseError} {answer : Answer} (h : error.About answer) :
    error.line? = some (Answer.line answer + 1) := by
  cases answer with
  | ok token =>
    have hToken : error.token? = some token := h
    unfold ParseError.token? at hToken
    unfold ParseError.line?
    split at hToken
    · rename_i hInnermost
      cases hToken
      rw [hInnermost]
      rfl
    · cases hToken
  | error fault =>
    obtain rfl : error = .scan fault := h
    rfl

end ParseError

theorem about_of_analyseText {τ : Type} [Observer τ]
    (hRefuse : ∀ (token : Token) (message : String) (observer : τ),
      (Observer.refuse token message observer).token? = some token)
    {source : String} {observer : τ} {error : ParseError}
    (h : (analyseText source observer).1 = .error error) :
    error.About (stoppingAnswer source) := by
  obtain ⟨events, ending, -, hCaused, hAnalysis⟩ := exists_ending source
  rw [hAnalysis] at h
  generalize stoppingAnswer source = answer at hCaused ⊢
  cases hCaused with
  | succeeded => cases h
  | faulted =>
    cases h
    rfl
  | rejected token expected rest =>
    cases h
    exact (ParseError.token?_withinAll _ _).trans (hRefuse _ _ _)

theorem analyseText_eq_recordText {τ : Type} [Observer τ]
    (hRefuse : ∀ (token : Token) (message : String) (observer : τ),
      Observer.refuse token message observer = .unexpectedToken token message)
    (source : String) (observer : τ) :
    (analyseText source observer).1 = (recordText source).1 := by
  obtain ⟨events, ending, hRecord, -, hAnalysis⟩ := exists_ending source
  rw [hAnalysis, hRecord]
  cases ending with
  | rejected token expected rest =>
    simp only [Ending.result, Ending.record, hRefuse]
    rfl
  | succeeded | faulted => rfl

end TallyCheck
