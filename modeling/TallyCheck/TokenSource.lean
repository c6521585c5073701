import TallyCheck.Scanner

/-! # Where tokens come from

A producer may run dry; a source answers for ever.  Padding turns the one into the other.  Finite
sources and producers are those that give only finitely many tokens before the end.
-/
namespace TallyCheck
set_option autoImplicit false

class TokenSource (σ : Type) where
  next : σ → Except ScanError Token × σ

class TokenProducer (π : Type) where
  /-- No token means that the producer has run dry, for now at least. -/
  supply : π → Except ScanError (Option Token) × π

/-- At most `remaining` tokens other than end-of-input are still to come. -/
class FiniteSource (σ : Type) extends TokenSource σ where
  remaining : σ → Nat
  remaining_lt : ∀ (source : σ) (token : Token), (next source).1 = .ok token →
    token.symbol ≠ .endOfInput → remaining (next source).2 < remaining source

class FiniteProducer (π : Type) extends TokenProducer π where
  remaining : π → Nat
  remaining_lt : ∀ (producer : π) (token : Token), (supply producer).1 = .ok (some token) →
    token.symbol ≠ .endOfInput → remaining (supply producer).2 < remaining producer

instance : FiniteSource Scanner where
  next := Scanner.next
  remaining scanner := scanner.rest.length
  remaining_lt _ _ := Scanner.next_length_lt

def Scanner.supply (scanner : Scanner) : Except ScanError (Option Token) × Scanner :=
  match scanner.pull with
  | (none, next) => (.ok none, next)
  | (some (.ok token), next) => (.ok (some token), next)
  | (some (.error error), next) => (.error error, next)

theorem Scanner.next_of_supply {scanner : Scanner} {token : Token}
    (h : scanner.supply.1 = .ok (some token)) :
    scanner.next.1 = .ok token ∧ scanner.supply.2.rest = scanner.next.2.rest := by
  revert h
  unfold supply pull
  rcases scanner.next with ⟨answer, next⟩
  cases hFinished : scanner.finished with
  | true =>
    intro h
    cases h
  | false =>
    cases answer with
    | error error =>
      intro h
      cases h
    | ok given =>
      intro h
      cases h
      refine ⟨rfl, ?_⟩
      simp only [Bool.false_eq_true, if_false]
      split <;> rfl

theorem Scanner.supply_of_token {scanner : Scanner} {token : Token}
    (hFinished : scanner.finished = false) (h : scanner.next.1 = .ok token)
    (hEnd : token.symbol ≠ .endOfInput) : scanner.supply = (.ok (some token), scanner.next.2) := by
  rcases hNext : scanner.next with ⟨answer, next⟩
  rw [hNext] at h
  subst h
  simp [supply, pull, hFinished, hNext, endsStream, hEnd]

instance : FiniteProducer Scanner where
  supply := Scanner.supply
  remaining scanner := scanner.rest.length
  remaining_lt scanner token h hEnd := by
    obtain ⟨hToken, hRest⟩ := Scanner.next_of_supply h
    rw [hRest]
    exact Scanner.next_length_lt hToken hEnd

instance : FiniteProducer (List Token) where
  supply
    | [] => (.ok none, [])
    | token :: tokens => (.ok (some token), tokens)
  remaining := List.length
  remaining_lt tokens token h _ := by
    cases tokens with
    | nil => cases h
    | cons => exact Nat.lt_succ_self _

/-- A producer followed by end-of-input tokens for ever, on the line of the last token it gave. -/
structure Padded (π : Type) where
  producer : π
  lastLine : Nat
  /-- The producer has run dry or has given an end-of-input token, and is not asked again. -/
  exhausted : Bool

namespace Padded

variable {π : Type}

def ofProducer (producer : π) : Padded π := ⟨producer, 0, false⟩

/-- An error of the producer is passed on and leaves no mark. -/
def next [TokenProducer π] (padded : Padded π) : Except ScanError Token × Padded π :=
  if padded.exhausted then (.ok (.endOfInput padded.lastLine), padded)
  else
    match TokenProducer.supply padded.producer with
    | (.error error, producer) => (.error error, { padded with producer })
    | (.ok none, producer) =>
      (.ok (.endOfInput padded.lastLine), { padded with producer, exhausted := true })
    | (.ok (some token), producer) =>
      (.ok token, ⟨producer, token.line, token.symbol = .endOfInput⟩)

theorem remaining_next_lt [FiniteProducer π] {padded : Padded π} {token : Token}
    (h : padded.next.1 = .ok token) (hEnd : token.symbol ≠ .endOfInput) :
    FiniteProducer.remaining padded.next.2.producer <
      FiniteProducer.remaining padded.producer := by
  revert h
  unfold next
  split
  · intro h
    cases h
    exact absurd (Token.symbol_endOfInput _) hEnd
  · split
    · intro h
      cases h
    · intro h
      cases h
      exact absurd (Token.symbol_endOfInput _) hEnd
    · rename_i given producer hGiven
      intro h
      cases h
      have hLt := FiniteProducer.remaining_lt padded.producer token (by rw [hGiven]) hEnd
      rwa [hGiven] at hLt

instance [TokenProducer π] : TokenSource (Padded π) := ⟨next⟩

instance [FiniteProducer π] : FiniteSource (Padded π) where
  remaining padded := FiniteProducer.remaining padded.producer
  remaining_lt _ _ := remaining_next_lt

end Padded
end TallyCheck
