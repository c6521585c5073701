import TallyCheck.Scanner.Gap
import TallyCheck.Scanner.Lexeme

/-! # The scanner

A scanner holds the text still to be read and the line reached in it.  It can be asked for tokens
for ever, past errors and past the end, or as a stream that ends with the first end-of-input token
or error.
-/
namespace TallyCheck
set_option autoImplicit false

def Lexeme.answer (found : Lexeme) (line : Nat) : Except ScanError Token :=
  match found.kind with
  | .ok symbol => .ok (.ofText symbol (String.ofList found.text) line)
  | .error fault => .error ⟨fault, line⟩

theorem Lexeme.answer_eq_ok {found : Lexeme} {line : Nat} {token : Token}
    (h : found.answer line = .ok token) :
    found.kind = .ok token.symbol ∧
      token = .ofText token.symbol (String.ofList found.text) line := by
  obtain ⟨kind, text, rest⟩ := found
  cases kind with
  | ok symbol =>
    cases h
    exact ⟨rfl, rfl⟩
  | error fault => cases h

theorem Lexeme.answer_eq_error {found : Lexeme} {line : Nat} {error : ScanError}
    (h : found.answer line = .error error) : found.kind = .error error.fault := by
  obtain ⟨kind, text, rest⟩ := found
  cases kind with
  | ok symbol => cases h
  | error fault =>
    cases h
    rfl

structure Scanner where
  rest : List Char
  line : Nat
  finished : Bool

namespace Scanner

def ofString (source : String) : Scanner := ⟨source.toList, 0, false⟩

/-- The next token.  After an error the scanner stands behind the faulty text; at the end of the
text it answers end-of-input each time. -/
def next (scanner : Scanner) : Except ScanError Token × Scanner :=
  match Gap.skip false scanner.line scanner.rest with
  | (line, []) => (.ok (.endOfInput line), { scanner with rest := [], line })
  | (line, c :: cs) =>
    let found := lexeme c cs
    (found.answer line, { scanner with rest := found.rest, line })

/-- An answer after which a stream of tokens has ended. -/
def endsStream : Except ScanError Token → Bool
  | .ok token => token.symbol = .endOfInput
  | .error _ => true

/-- The next element of the stream, which is over after end-of-input or an error. -/
def pull (scanner : Scanner) : Option (Except ScanError Token) × Scanner :=
  if scanner.finished then (none, scanner)
  else
    let (answer, next) := scanner.next
    (some answer, if endsStream answer then { next with finished := true } else next)

@[simp] theorem pull_of_finished {scanner : Scanner} (h : scanner.finished = true) :
    scanner.pull = (none, scanner) := if_pos h

@[simp] theorem finished_next (scanner : Scanner) :
    scanner.next.2.finished = scanner.finished := by
  unfold next
  split <;> rfl

theorem next_length_lt {scanner : Scanner} {token : Token}
    (h : scanner.next.1 = .ok token) (hEnd : token.symbol ≠ .endOfInput) :
    scanner.next.2.rest.length < scanner.rest.length := by
  have hSkip := Gap.skip_length_le false scanner.line scanner.rest
  revert h
  unfold next
  split
  · intro h
    cases h
    exact absurd (Token.symbol_endOfInput _) hEnd
  · rename_i line c cs hGap
    intro _
    rw [hGap] at hSkip
    exact Nat.lt_of_lt_of_le (Lexeme.rest_length_lt c cs) hSkip

/-- The tokens up to and including end-of-input, or those before the first error, and that
error. -/
def readAll (scanner : Scanner) : List Token × Option ScanError :=
  match _h : scanner.next.1 with
  | .error error => ([], some error)
  | .ok token =>
    if _hEnd : token.symbol = .endOfInput then ([token], none)
    else
      let (tokens, error) := readAll scanner.next.2
      (token :: tokens, error)
termination_by scanner.rest.length
decreasing_by exact next_length_lt _h _hEnd

theorem readAll_of_error {scanner : Scanner} {error : ScanError}
    (h : scanner.next.1 = .error error) : scanner.readAll = ([], some error) := by
  rw [readAll.eq_def]
  split
  · rename_i other hOther
    cases h.symm.trans hOther
    rfl
  · rename_i token hToken
    cases h.symm.trans hToken

theorem readAll_of_token {scanner : Scanner} {token : Token}
    (h : scanner.next.1 = .ok token) :
    scanner.readAll = if token.symbol = .endOfInput then ([token], none)
      else (token :: scanner.next.2.readAll.1, scanner.next.2.readAll.2) := by
  rw [readAll.eq_def]
  split
  · rename_i error hError
    cases h.symm.trans hError
  · rename_i other hOther
    cases h.symm.trans hOther
    split <;> rfl

end Scanner

def tokenize (source : String) : Except ScanError (List Token) :=
  match (Scanner.ofString source).readAll with
  | (tokens, none) => .ok tokens
  | (_, some error) => .error error

theorem readAll_of_tokenize {source : String} {tokens : List Token}
    (h : tokenize source = .ok tokens) : (Scanner.ofString source).readAll = (tokens, none) := by
  rw [tokenize] at h
  split at h
  · rename_i hRead
    cases h
    exact hRead
  · cases h

theorem readAll_of_tokenize_error {source : String} {error : ScanError}
    (h : tokenize source = .error error) : (Scanner.ofString source).readAll.2 = some error := by
  rw [tokenize] at h
  split at h
  · cases h
  · rename_i hRead
    cases h
    rw [hRead]

end TallyCheck
