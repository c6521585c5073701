import TallyCheck.Proofs.Requests

/-! # The end that padding keeps

Whatever machine a producer is, padding passes on what it gives, errors too, up to the first
end-of-input token or the first time that it gives nothing.  From then on the end of the input is
answered, on the line of the last token given, and the producer is not asked again.
-/
namespace TallyCheck
set_option autoImplicit false

namespace Reply

def token? : Reply → Option Token
  | some (.ok token) => some token
  | _ => none

/-- Nothing, or an end-of-input token.  An error is not the last of anything. -/
def isLast : Reply → Bool
  | none => true
  | some (.ok token) => token.symbol = .endOfInput
  | some (.error _) => false

end Reply

namespace TokenSource

variable {σ : Type} [TokenSource σ]

/-- The source when it has been asked `count` times. -/
def after (source : σ) : Nat → σ
  | 0 => source
  | count + 1 => (next (after source count)).2

def answer (source : σ) (index : Nat) : Answer := (next (after source index)).1

theorem after_next (source : σ) (count : Nat) :
    after (next source).2 count = after source (count + 1) := by
  induction count with
  | zero => rfl
  | succ count ih =>
    rw [after, ih]
    rfl

theorem answer_succ (source : σ) (index : Nat) :
    answer source (index + 1) = answer (next source).2 index := by
  rw [answer, answer, after_next]

end TokenSource

namespace TokenProducer

variable {π : Type} [TokenProducer π]

def after (producer : π) : Nat → π
  | 0 => producer
  | count + 1 => (supply (after producer count)).2

def given (producer : π) (index : Nat) : Reply :=
  .ofSupply (supply (after producer index)).1

def tokens (producer : π) (count : Nat) : List Token :=
  (List.range count).filterMap fun index => (given producer index).token?

/-- The line of the last token that the producer gives when it is asked `count` times. -/
def lineAfter (producer : π) (count : Nat) : Nat :=
  (tokens producer count).getLast?.elim 0 Token.line

/-- Neither an end-of-input token nor nothing is among the first `count` things given. -/
def Open (producer : π) (count : Nat) : Prop :=
  ∀ index < count, (given producer index).isLast = false

theorem lineAfter_succ (producer : π) (count : Nat) :
    lineAfter producer (count + 1) =
      (given producer count).token?.elim (lineAfter producer count) Token.line := by
  rw [lineAfter, tokens, List.range_succ, List.filterMap_append]
  cases hToken : (given producer count).token? with
  | none => simp [hToken, lineAfter, tokens]
  | some token => simp [hToken]

theorem open_succ_iff (producer : π) (count : Nat) :
    Open producer (count + 1) ↔ Open producer count ∧ (given producer count).isLast = false :=
  Nat.forall_lt_succ_right

end TokenProducer

namespace Padded

open TokenProducer

section Producers

variable {π : Type} [TokenProducer π]

theorem next_of_exhausted (producer : π) (line : Nat) :
    TokenSource.next (⟨producer, line, true⟩ : Padded π) =
      (.ok (.endOfInput line), ⟨producer, line, true⟩) := rfl

theorem next_eq (producer : π) (line : Nat) :
    let reply := Reply.ofSupply (supply producer).1
    TokenSource.next (⟨producer, line, false⟩ : Padded π) =
      (reply.getD (.ok (.endOfInput line)),
        ⟨(supply producer).2, reply.token?.elim line Token.line, reply.isLast⟩) := by
  intro reply
  change next _ = _
  unfold next
  rcases hSupply : supply producer with ⟨_ | _ | token, producer⟩ <;>
    simp [reply, hSupply, Reply.ofSupply, Reply.token?, Reply.isLast]

theorem after_of_open {producer : π} {count : Nat} (h : Open producer count) :
    TokenSource.after (ofProducer producer) count =
      ⟨TokenProducer.after producer count, lineAfter producer count, false⟩ := by
  induction count with
  | zero => rfl
  | succ count ih =>
    obtain ⟨hBefore, hGoing⟩ := (open_succ_iff producer count).mp h
    rw [TokenSource.after, ih hBefore, next_eq, lineAfter_succ, ← hGoing]
    rfl

theorem answer_of_open {producer : π} {index : Nat} (h : Open producer index) :
    TokenSource.answer (ofProducer producer) index =
      (given producer index).getD (.ok (.endOfInput (lineAfter producer index))) := by
  rw [TokenSource.answer, after_of_open h, next_eq]
  rfl

theorem after_of_last {producer : π} {stop count : Nat} (hOpen : Open producer stop)
    (hLast : (given producer stop).isLast = true) (h : stop < count) :
    TokenSource.after (ofProducer producer) count =
      ⟨TokenProducer.after producer (stop + 1), lineAfter producer (stop + 1), true⟩ := by
  induction count, h using Nat.le_induction with
  | base =>
    rw [TokenSource.after, after_of_open hOpen, next_eq, lineAfter_succ, ← hLast]
    rfl
  | succ count _ ih => rw [TokenSource.after, ih, next_of_exhausted]

theorem getD_of_isLast {reply : Reply} (h : reply.isLast = true) (line : Nat) :
    reply.getD (.ok (.endOfInput line)) =
      .ok (.endOfInput (reply.token?.elim line Token.line)) := by
  rcases reply with _ | error | token
  · rfl
  · cases h
  · exact congrArg Except.ok (Token.eq_endOfInput (of_decide_eq_true h))

theorem answer_of_last {producer : π} {stop index : Nat} (hOpen : Open producer stop)
    (hLast : (given producer stop).isLast = true) (h : stop ≤ index) :
    TokenSource.answer (ofProducer producer) index =
      .ok (.endOfInput (lineAfter producer (stop + 1))) := by
  rcases Nat.eq_or_lt_of_le h with rfl | hLater
  · rw [answer_of_open hOpen, getD_of_isLast hLast, lineAfter_succ]
  · rw [TokenSource.answer, after_of_last hOpen hLast hLater, next_of_exhausted]

/-- How the answers of a padded producer, and how often it asks, follow from what the producer
gives when it is asked again and again. -/
structure Latches (producer : π) : Prop where
  passes : ∀ index answer, Open producer index → given producer index = some answer →
    TokenSource.answer (ofProducer producer) index = answer
  /-- So far the producer has been asked as often as the padding. -/
  asks : ∀ count, Open producer count →
    (TokenSource.after (ofProducer producer) count).producer = TokenProducer.after producer count
  ends : ∀ stop index, Open producer stop → (given producer stop).isLast = true → stop ≤ index →
    TokenSource.answer (ofProducer producer) index =
      .ok (.endOfInput (lineAfter producer (stop + 1)))
  /-- However often the padding is asked, the producer is left in its state, which may well count
  how often it has been asked. -/
  rests : ∀ stop count, Open producer stop → (given producer stop).isLast = true →
    stop < count → (TokenSource.after (ofProducer producer) count).producer =
      TokenProducer.after producer (stop + 1)

theorem latches_ofProducer (producer : π) : Latches producer where
  passes index answer hOpen hGiven := by
    rw [answer_of_open hOpen, hGiven]
    rfl
  asks count hOpen := by rw [after_of_open hOpen]
  ends stop index hOpen hLast hOrder := answer_of_last hOpen hLast hOrder
  rests stop count hOpen hLast hOrder := by rw [after_of_last hOpen hLast hOrder]

end Producers

theorem answer_of_exhausted {π : Type} [TokenProducer π] (producer : π) (line index : Nat) :
    TokenSource.answer (⟨producer, line, true⟩ : Padded π) index = .ok (.endOfInput line) := by
  induction index with
  | zero => rfl
  | succ index ih => rwa [TokenSource.answer_succ, next_of_exhausted]

theorem answer_of_finished {scanner : Scanner} (h : scanner.finished = true) (line index : Nat) :
    TokenSource.answer (⟨scanner, line, false⟩ : Padded Scanner) index =
      .ok (.endOfInput line) := by
  have hSupply : supply scanner = (.ok none, scanner) := by
    change scanner.supply = _
    rw [Scanner.supply, Scanner.pull_of_finished h]
  have hNext : TokenSource.next (⟨scanner, line, false⟩ : Padded Scanner) =
      (.ok (.endOfInput line), ⟨scanner, line, true⟩) := by
    rw [next_eq, hSupply]
    rfl
  cases index with
  | zero => rw [TokenSource.answer, TokenSource.after, hNext]
  | succ index => rw [TokenSource.answer_succ, hNext, answer_of_exhausted]

theorem next_of_unfinished {scanner : Scanner} (h : scanner.finished = false) (line : Nat) :
    TokenSource.next (⟨scanner, line, false⟩ : Padded Scanner) =
      (scanner.next.1, ⟨scanner.next.2.withFlag (Scanner.endsStream scanner.next.1),
        (Reply.token? (some scanner.next.1)).elim line Token.line,
        Reply.isLast (some scanner.next.1)⟩) := by
  have hOpen : Request.supply = .token ∨ scanner.finished = false := .inr h
  obtain ⟨flag, hAsk, hFlag⟩ := Scanner.ask_of_answered hOpen
  have hEnds : flag = Scanner.endsStream scanner.next.1 := by
    rw [Bool.eq_iff_iff, hFlag]
    simp [h, Request.Closes]
  obtain ⟨hReply, hBehind⟩ := Prod.mk.inj hAsk
  have hSupply : supply scanner = scanner.supply := rfl
  rw [next_eq, hSupply, hReply, hBehind, hEnds]
  rfl

theorem answer_eq_getElem?_stream {scanner : Scanner} (hFinished : scanner.finished = false)
    (line index : Nat) :
    TokenSource.answer (⟨scanner, line, false⟩ : Padded Scanner) index =
      scanner.stream[index]?.getD
        (.ok (.endOfInput (scanner.readAll.1.getLast?.elim line Token.line))) := by
  induction scanner using Scanner.stream_induction generalizing line index with
  | last scanner hEnds =>
    rw [Scanner.stream_eq, if_pos hEnds]
    cases index with
    | zero => exact answer_scanner hFinished line
    | succ index =>
      rw [TokenSource.answer_succ, next_of_unfinished hFinished, hEnds]
      cases hAnswer : scanner.next.1 with
      | error error =>
        rw [Scanner.readAll_of_error hAnswer]
        exact answer_of_finished rfl line index
      | ok token =>
        have hLast : decide (token.symbol = .endOfInput) = true := by rwa [hAnswer] at hEnds
        rw [Scanner.readAll_of_token hAnswer, if_pos (of_decide_eq_true hLast)]
        change TokenSource.answer (Padded.mk _ _ (decide _)) index = _
        rw [hLast]
        exact answer_of_exhausted _ token.line index
  | more scanner hEnds ih =>
    cases hAnswer : scanner.next.1 with
    | error error =>
      rw [hAnswer] at hEnds
      cases hEnds
    | ok token =>
      have hEnd : token.symbol ≠ .endOfInput := by
        rw [hAnswer] at hEnds
        exact of_decide_eq_false hEnds
      have hNext : TokenSource.next (⟨scanner, line, false⟩ : Padded Scanner) =
          (.ok token, ⟨scanner.next.2, token.line, false⟩) :=
        next_of_token line (Scanner.supply_of_token hFinished hAnswer hEnd) hEnd
      rw [Scanner.stream_eq, hEnds, Scanner.readAll_of_token hAnswer, if_neg hEnd]
      cases index with
      | zero =>
        rw [TokenSource.answer, TokenSource.after, hNext, hAnswer]
        rfl
      | succ index =>
        have hLater := ih ((Scanner.finished_next scanner).trans hFinished) token.line index
        rw [TokenSource.answer_succ, hNext, hLater, List.getLast?_cons]
        cases scanner.next.2.readAll.1.getLast? <;> rfl

/-- Padding keeps the end of the input and nothing else, whatever machine the producer is.  Over a
scanner, these are its tokens, at most one error, and then end-of-input tokens for ever, on the line
of the last token. -/
theorem keeps_end :
    (∀ {π : Type} [TokenProducer π] (producer : π), Latches producer) ∧
      ∀ (source : String) (index : Nat),
        TokenSource.answer (ofProducer (Scanner.ofString source)) index =
          (Scanner.ofString source).stream[index]?.getD
            (.ok (.endOfInput ((Scanner.ofString source).readAll.1.getLast?.elim 0 Token.line))) :=
  ⟨latches_ofProducer, fun _ index => answer_eq_getElem?_stream rfl 0 index⟩

example : (List.range 3).map
    (TokenSource.answer (ofProducer [Token.endOfInput 4, Token.fixed .beginWord 5])) =
      List.replicate 3 (.ok (.endOfInput 4)) := by
  decide +kernel

end Padded
end TallyCheck
