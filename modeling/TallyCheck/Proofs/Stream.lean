import TallyCheck.Proofs.Feed

/-! # The stream of a scanner

What a scanner answers up to its first end-of-input token or error.  An analysis asks for no more,
so that all sources which answer like the scanner as far as that are the same to it; and it ends
with one of these answers.
-/
namespace TallyCheck
set_option autoImplicit false

namespace Scanner

/-- The scanner when it has been asked `count` times. -/
def after (scanner : Scanner) : Nat → Scanner
  | 0 => scanner
  | count + 1 => (scanner.after count).next.2

def answer (scanner : Scanner) (index : Nat) : Answer := (scanner.after index).next.1

theorem after_next (scanner : Scanner) (count : Nat) :
    scanner.next.2.after count = scanner.after (count + 1) := by
  induction count with
  | zero => rfl
  | succ count ih =>
    rw [after, ih]
    rfl

theorem answer_succ (scanner : Scanner) (index : Nat) :
    scanner.answer (index + 1) = scanner.next.2.answer index := by
  rw [answer, answer, after_next]

theorem pull_of_unfinished {scanner : Scanner} (h : scanner.finished = false) :
    scanner.pull = (some scanner.next.1,
      if endsStream scanner.next.1 then { scanner.next.2 with finished := true }
      else scanner.next.2) := by
  rw [pull, if_neg (by simp [h])]

def stream (scanner : Scanner) : List Answer :=
  scanner.readAll.1.map Except.ok ++ scanner.readAll.2.toList.map Except.error

theorem stream_eq (scanner : Scanner) :
    scanner.stream =
      scanner.next.1 :: if endsStream scanner.next.1 then [] else scanner.next.2.stream := by
  cases hAnswer : scanner.next.1 with
  | error error =>
    rw [stream, readAll_of_error hAnswer]
    rfl
  | ok token =>
    rw [stream, readAll_of_token hAnswer]
    by_cases hEnd : token.symbol = .endOfInput
    · simp [endsStream, hEnd]
    · simp [endsStream, hEnd, stream]

theorem stream_induction {motive : Scanner → Prop}
    (last : ∀ scanner, endsStream scanner.next.1 = true → motive scanner)
    (more : ∀ scanner, endsStream scanner.next.1 = false → motive scanner.next.2 → motive scanner)
    (scanner : Scanner) : motive scanner := by
  induction hLength : scanner.rest.length using Nat.strong_induction_on generalizing scanner with
  | _ length ih =>
    cases hEnds : endsStream scanner.next.1 with
    | true => exact last scanner hEnds
    | false =>
      cases hAnswer : scanner.next.1 with
      | error error =>
        rw [hAnswer] at hEnds
        cases hEnds
      | ok token =>
        rw [hAnswer] at hEnds
        have hShorter := next_length_lt hAnswer (of_decide_eq_false hEnds)
        exact more scanner (hAnswer ▸ hEnds) (ih _ (hLength ▸ hShorter) scanner.next.2 rfl)

theorem answer_of_getElem?_stream {scanner : Scanner} {index : Nat} {answer : Answer}
    (h : scanner.stream[index]? = some answer) : scanner.answer index = answer := by
  induction index generalizing scanner with
  | zero =>
    rw [stream_eq] at h
    exact Option.some.inj h
  | succ index ih =>
    rw [stream_eq, List.getElem?_cons_succ] at h
    split at h
    · cases h
    · rw [answer_succ]
      exact ih h

theorem exists_ended_stream (scanner : Scanner) (goals : List Goal) :
    ∃ ending, (course goals scanner.stream).standing = .ended ending := by
  induction scanner using stream_induction generalizing goals with
  | last scanner hEnds =>
    rw [stream_eq, if_pos hEnds]
    cases hAnswer : scanner.next.1 with
    | error error => exact ⟨_, rfl⟩
    | ok token =>
      rw [hAnswer] at hEnds
      exact exists_ended_endOfInput goals (of_decide_eq_true hEnds)
  | more scanner hEnds ih =>
    rw [stream_eq, hEnds]
    cases scanner.next.1 with
    | error error => exact ⟨_, rfl⟩
    | ok token =>
      rw [course_ok, Prediction.course]
      split
      · exact ih _
      · exact ⟨_, rfl⟩
      · exact ⟨_, rfl⟩

/-- Where a source and a scanner match, the source answers like the scanner, and
they go on to match unless the stream has ended. -/
structure FollowedBy {σ : Type} [TokenSource σ] (matching : Scanner → σ → Prop) : Prop where
  answer_eq : ∀ scanner source, matching scanner source →
    (TokenSource.next source).1 = scanner.next.1
  onward : ∀ scanner source, matching scanner source → endsStream scanner.next.1 = false →
    matching scanner.next.2 (TokenSource.next source).2

theorem FollowedBy.answers {σ : Type} [TokenSource σ] {matching : Scanner → σ → Prop}
    (h : FollowedBy matching) {scanner : Scanner} {source : σ} (hMatch : matching scanner source) :
    ∃ last, Answers source scanner.stream last := by
  induction scanner using stream_induction generalizing source with
  | last scanner hEnds =>
    rw [stream_eq, if_pos hEnds]
    exact ⟨_, .of_next (Prod.ext (h.answer_eq scanner source hMatch) rfl) (.nil _)⟩
  | more scanner hEnds ih =>
    obtain ⟨last, hRest⟩ := ih (h.onward scanner source hMatch hEnds)
    rw [stream_eq, hEnds]
    exact ⟨last, .of_next (Prod.ext (h.answer_eq scanner source hMatch) rfl) hRest⟩

theorem followedBy_self : FollowedBy (Eq : Scanner → Scanner → Prop) where
  answer_eq := by
    rintro scanner _ rfl
    rfl
  onward := by
    rintro scanner _ rfl _
    rfl

theorem symbol_ne_of_mem_readAll {scanner : Scanner} {error : ScanError}
    (h : scanner.readAll.2 = some error) :
    ∀ token ∈ scanner.readAll.1, token.symbol ≠ .endOfInput := by
  fun_induction readAll scanner with
  | case1 => exact fun _ => nofun
  | case2 => cases h
  | case3 scanner token hToken hEnd tokens rest hRest ih =>
    rw [hRest] at ih
    exact List.forall_mem_cons.mpr ⟨hEnd, ih h⟩

end Scanner

namespace Padded

theorem answer_scanner {scanner : Scanner} (hFinished : scanner.finished = false) (line : Nat) :
    (TokenSource.next (⟨scanner, line, false⟩ : Padded Scanner)).1 = scanner.next.1 := by
  have hPull := Scanner.pull_of_unfinished hFinished
  change (next _).1 = _
  cases hAnswer : scanner.next.1 with
  | error error => simp [next, TokenProducer.supply, Scanner.supply, hPull, hAnswer]
  | ok token => simp [next, TokenProducer.supply, Scanner.supply, hPull, hAnswer]

theorem next_scanner {scanner : Scanner} (hFinished : scanner.finished = false)
    (hEnds : Scanner.endsStream scanner.next.1 = false) (line : Nat) :
    ∃ last, (TokenSource.next (⟨scanner, line, false⟩ : Padded Scanner)).2 =
      ⟨scanner.next.2, last, false⟩ := by
  cases hAnswer : scanner.next.1 with
  | error error =>
    rw [hAnswer] at hEnds
    cases hEnds
  | ok token =>
    rw [hAnswer] at hEnds
    have hEnd := of_decide_eq_false hEnds
    have hSupply : TokenProducer.supply scanner = (.ok (some token), scanner.next.2) :=
      Scanner.supply_of_token hFinished hAnswer hEnd
    exact ⟨token.line, by rw [next_of_token line hSupply hEnd]⟩

/-- The padding of a scanner that has not ended its stream. -/
def Pads (padded : Padded Scanner) (scanner : Scanner) : Prop :=
  ∃ line, padded = ⟨scanner, line, false⟩ ∧ scanner.finished = false

theorem followedBy_pads : Scanner.FollowedBy fun scanner padded => Pads padded scanner where
  answer_eq := by
    rintro scanner _ ⟨line, rfl, hFinished⟩
    exact answer_scanner hFinished line
  onward := by
    rintro scanner _ ⟨line, rfl, hFinished⟩ hEnds
    obtain ⟨last, hNext⟩ := next_scanner hFinished hEnds line
    exact ⟨last, hNext, (Scanner.finished_next scanner).trans hFinished⟩

theorem exists_answers_stream (source : String) :
    ∃ last, Answers (ofProducer (Scanner.ofString source)) (Scanner.ofString source).stream
      last := by
  have hPads : Pads (ofProducer (Scanner.ofString source)) (Scanner.ofString source) :=
    ⟨0, rfl, rfl⟩
  exact followedBy_pads.answers hPads

theorem answers_scanner {scanner : Scanner} {error : ScanError} (line : Nat)
    (hFinished : scanner.finished = false) (hError : scanner.readAll.2 = some error) :
    (∃ last, Answers (⟨scanner, line, false⟩ : Padded Scanner)
      (scanner.readAll.1.map Except.ok ++ [.error error]) last) ∧
      ∀ token ∈ scanner.readAll.1, token.symbol ≠ .endOfInput := by
  have hPads : Pads ⟨scanner, line, false⟩ scanner := ⟨line, rfl, hFinished⟩
  obtain ⟨last, hAnswers⟩ := followedBy_pads.answers hPads
  rw [Scanner.stream, hError] at hAnswers
  exact ⟨⟨last, hAnswers⟩, Scanner.symbol_ne_of_mem_readAll hError⟩

end Padded
end TallyCheck
