import TallyCheck.Proofs.Course
import TallyCheck.Proofs.Munching

/-! # What an answer is read from

An answer of the scanner, a token or an error, is read from one lexeme, which begins where its line
says and stays on that line.  A gap comes before it.
-/
namespace TallyCheck
set_option autoImplicit false

/-- The faulty text that a fault is about. -/
def Fault.Concerns : Fault → List Char → Prop
  | .unexpectedCharacter c, text => text = [c]
  | .unterminatedString, text => ∃ body, text = '"' :: body ∧ ∀ c ∈ body, isStringChar c = true
  | .incompleteOperator expected _, text => ∃ c, text = [c] ∧ expected.name.toList.head? = some c
  | .malformedNumber number, text => text = number.toList

namespace Answer

def line : Answer → Nat
  | .ok token => token.line
  | .error error => error.line

/-- The text that an answer is read from; none at the end of the input. -/
def ReadFrom : Answer → List Char → Prop
  | .ok token, text => text = token.text.toList
  | .error error, text => error.fault.Concerns text

end Answer

theorem Fault.Concerns.unique {fault : Fault} {left right text : List Char}
    (hLeft : fault.Concerns left) (hRight : fault.Concerns right) (hEnds : left <:+ text)
    (hAlso : right <:+ text) : left = right := by
  cases fault with
  | unexpectedCharacter => exact hLeft.trans hRight.symm
  | malformedNumber => exact hLeft.trans hRight.symm
  | incompleteOperator =>
    obtain ⟨c, rfl, hHead⟩ := hLeft
    obtain ⟨d, rfl, hOther⟩ := hRight
    rw [Option.some.inj (hHead.symm.trans hOther)]
  | unterminatedString =>
    obtain ⟨body, rfl, hBody⟩ := hLeft
    obtain ⟨other, rfl, hOther⟩ := hRight
    have hQuote : isStringChar '"' = false := by decide
    have hInside {front back : List Char} (hFront : ∀ c ∈ front, isStringChar c = true)
        (hSuffix : '"' :: back <:+ '"' :: front) : '"' :: back = '"' :: front := by
      rcases List.suffix_cons_iff.mp hSuffix with hSame | hLater
      · exact hSame
      · cases hQuote.symm.trans (hFront '"' (hLater.subset (List.mem_cons_self ..)))
    rcases List.suffix_or_suffix_of_suffix hEnds hAlso with hSuffix | hSuffix
    · exact hInside hOther hSuffix
    · exact (hInside hBody hSuffix).symm

theorem Answer.ReadFrom.unique {answer : Answer} {left right text : List Char}
    (hLeft : answer.ReadFrom left) (hRight : answer.ReadFrom right) (hEnds : left <:+ text)
    (hAlso : right <:+ text) : left = right := by
  cases answer with
  | ok token => exact Eq.trans hLeft (Eq.symm hRight)
  | error error => exact Fault.Concerns.unique hLeft hRight hEnds hAlso

theorem Token.text_ofText_of_name {symbol : Symbol} (hEnd : symbol ≠ .endOfInput) {text : String}
    (hText : symbol.isLiteral = false → symbol.name = text) (line : Nat) :
    (ofText symbol text line).text = text := by
  cases hLiteral : symbol.isLiteral with
  | true => exact text_ofText_of_literal hLiteral text line
  | false =>
    have hFixed := (ofText symbol text line).text_eq hLiteral
    rw [symbol_ofText, Symbol.fixedText_of_ne hEnd] at hFixed
    exact hFixed.trans (hText hLiteral)

namespace Lexeme

theorem line_answer (found : Lexeme) (line : Nat) : Answer.line (found.answer line) = line := by
  obtain ⟨kind, text, rest⟩ := found
  cases kind <;> rfl

theorem readFrom_of_name {symbol : Symbol} (hEnd : symbol ≠ .endOfInput) {text : List Char}
    (hText : symbol.isLiteral = false → symbol.name = String.ofList text) (rest : List Char)
    (line : Nat) : Answer.ReadFrom ((mk (.ok symbol) text rest).answer line) text := by
  have hToken := Token.text_ofText_of_name hEnd hText line
  change text = (Token.ofText symbol (String.ofList text) line).text.toList
  rw [hToken, String.toList_ofList]

theorem readFrom_of_literal {symbol : Symbol} (hLiteral : symbol.isLiteral = true)
    (text rest : List Char) (line : Nat) :
    Answer.ReadFrom ((mk (.ok symbol) text rest).answer line) text := by
  refine readFrom_of_name ?_ ?_ rest line
  · rintro rfl
    cases hLiteral
  · intro hFixed
    cases hLiteral.symm.trans hFixed

end Lexeme

namespace LexicalRule

variable {rule : LexicalRule} {text : List Char}

theorem feed_not_mem_name (symbol : Symbol) : '\n' ∉ symbol.name.toList := by
  cases symbol <;> decide

theorem Matches.feed_not_mem (h : rule.Matches text) (hKind : rule.kind? text ≠ none) :
    '\n' ∉ text := by
  have hWord : isWordChar '\n' = false := by decide
  have hDigit : Char.isDigit '\n' = false := by decide
  have hInside : isStringChar '\n' = false := by decide
  intro hMem
  cases h with
  | blanks | lineFeed | comment => exact hKind rfl
  | fixed => exact feed_not_mem_name _ hMem
  | word hLetter hInner =>
    rcases List.mem_cons.mp hMem with rfl | hMem
    · cases hLetter
    · cases hWord.symm.trans (hInner _ hMem)
  | whole _ hInner => cases hDigit.symm.trans (hInner _ hMem)
  | fraction _ hInner hBehind =>
    rcases List.mem_append.mp hMem with hMem | hMem
    · cases hDigit.symm.trans (hInner _ hMem)
    · rcases List.mem_cons.mp hMem with hPoint | hMem
      · cases hPoint
      · cases hDigit.symm.trans (hBehind _ hMem)
  | closed hInner =>
    simp only [List.mem_cons, List.mem_append, List.not_mem_nil, or_false] at hMem
    rcases hMem with hQuote | hMem | hQuote
    · cases hQuote
    · cases hInside.symm.trans (hInner _ hMem)
    · cases hQuote
  | unclosed hInner =>
    rcases List.mem_cons.mp hMem with hQuote | hMem
    · cases hQuote
    · cases hInside.symm.trans (hInner _ hMem)

theorem Matches.readFrom {kind : Except Fault Symbol} (h : rule.Matches text)
    (hKind : rule.kind? text = some kind) (rest : List Char) (line : Nat) :
    Answer.ReadFrom ((Lexeme.mk kind text rest).answer line) text := by
  cases h with
  | blanks | lineFeed | comment => cases hKind
  | fixed hLiteral hEnd =>
    cases hKind
    exact Lexeme.readFrom_of_name hEnd (fun _ => String.ofList_toList.symm) rest line
  | @word first others =>
    cases hKind
    cases hKeyword : Symbol.keyword? (String.ofList (first :: others)) with
    | none => exact Lexeme.readFrom_of_literal rfl _ rest line
    | some symbol =>
      obtain ⟨hMem, hName⟩ := (Symbol.keyword?_eq_some_iff _ symbol).mp hKeyword
      refine Lexeme.readFrom_of_name ?_ (fun _ => hName) rest line
      rintro rfl
      exact absurd hMem (by decide)
  | whole _ hInner =>
    rw [kind?_whole hInner] at hKind
    cases hKind
    exact Lexeme.readFrom_of_literal rfl _ rest line
  | fraction _ _ hBehind =>
    rw [kind?_fraction _ hBehind] at hKind
    split at hKind
    · cases hKind
      exact String.toList_ofList.symm
    · cases hKind
      exact Lexeme.readFrom_of_literal rfl _ rest line
  | closed hInner =>
    rw [kind?_closed] at hKind
    cases hKind
    exact Lexeme.readFrom_of_literal rfl _ rest line
  | unclosed hInner =>
    rw [kind?_unclosed hInner] at hKind
    cases hKind
    exact ⟨_, rfl, hInner⟩

end LexicalRule

theorem Fault.concerns_ofUnmatched (c : Char) (following : Option Char) :
    (ofUnmatched c following).Concerns [c] := by
  unfold ofUnmatched
  split_ifs with hColon hMark
  · exact ⟨c, rfl, hColon ▸ rfl⟩
  · exact ⟨c, rfl, hMark ▸ rfl⟩
  · rfl

theorem LexicalRule.Unmatched.ne_feed {c : Char} {cs : List Char} (h : Unmatched (c :: cs)) :
    c ≠ '\n' := by
  rintro rfl
  exact h .lineFeed ['\n'] cs rfl .lineFeed

theorem LongestMatch.readFrom {text lexeme rest : List Char} {kind : Except Fault Symbol}
    (h : LongestMatch text (some kind) lexeme rest) (line : Nat) :
    Answer.ReadFrom ((Lexeme.mk kind lexeme rest).answer line) lexeme ∧ '\n' ∉ lexeme := by
  generalize hKind : some kind = kind? at h
  cases h with
  | matched hLongest _ =>
    refine ⟨hLongest.matched.readFrom hKind.symm rest line, hLongest.matched.feed_not_mem ?_⟩
    rw [← hKind]
    exact Option.some_ne_none kind
  | unmatched hNone hCut =>
    obtain rfl := Option.some.inj hKind
    subst hCut
    exact ⟨Fault.concerns_ofUnmatched _ _, by simpa using hNone.ne_feed.symm⟩

theorem LongestMatch.incompleteOperator {text lexeme rest : List Char} {expected : Symbol}
    {found : Option Char}
    (h : LongestMatch text (some (.error (.incompleteOperator expected found))) lexeme rest) :
    found = rest.head? ∧
      (expected = .becomes ∧ lexeme = [':'] ∨ expected = .notEqual ∧ lexeme = ['!']) := by
  refine ⟨(h.following_ne rfl).1, ?_⟩
  generalize hKind : some (Except.error (Fault.incompleteOperator expected found)) = kind at h
  cases h with
  | @matched rule => exact absurd hKind.symm (rule.kind?_ne_incompleteOperator lexeme _ _)
  | @unmatched c cs hNone hCut =>
    have hFault := (Except.error.inj (Option.some.inj hKind)).symm
    unfold Fault.ofUnmatched at hFault
    split_ifs at hFault with hColon hMark
    · cases hFault
      exact .inl ⟨rfl, by rw [hColon]⟩
    · cases hFault
      exact .inr ⟨rfl, by rw [hMark]⟩

theorem LongestMatch.half {text lexeme rest : List Char} {expected : Symbol}
    {found : Option Char}
    (h : LongestMatch text (some (.error (.incompleteOperator expected found))) lexeme rest) :
    ∃ sign, (sign = ':' ∨ sign = '!') ∧ text = sign :: rest ∧ rest.head? = found := by
  obtain ⟨hFound, ⟨-, rfl⟩ | ⟨-, rfl⟩⟩ := h.incompleteOperator
  · exact ⟨':', .inl rfl, h.append_eq.symm, hFound.symm⟩
  · exact ⟨'!', .inr rfl, h.append_eq.symm, hFound.symm⟩

theorem Munches.half {line last number : Nat} {text left : List Char} {expected : Symbol}
    {found : Option Char} {answer : Answer} (h : Munches line text answer last left)
    (hAnswer : answer = .error ⟨.incompleteOperator expected found, number⟩) :
    ∃ gap sign, (sign = ':' ∨ sign = '!') ∧ text = gap ++ sign :: left ∧ left.head? = found := by
  induction h with
  | atEnd => cases hAnswer
  | @skipped line last text skipped rest left answer hSkip _ ih =>
    obtain ⟨gap, sign, hSign, hRest, hFound⟩ := ih hAnswer
    refine ⟨skipped ++ gap, sign, hSign, ?_, hFound⟩
    rw [List.append_assoc, ← hRest, hSkip.append_eq]
  | @taken line text lexeme hTake =>
    rw [Lexeme.answer_eq_error hAnswer] at hTake
    obtain ⟨sign, hSign, hText, hFound⟩ := hTake.half
    exact ⟨[], sign, hSign, hText, hFound⟩

/-- A gap, and the lexeme behind it from which the answer is read; only at the end of the text is
there none. -/
theorem Munches.exists_gap {line last : Nat} {text left : List Char} {answer : Answer}
    (h : Munches line text answer last left) :
    ∃ gap lexeme, text = gap ++ (lexeme ++ left) ∧ answer.ReadFrom lexeme ∧ '\n' ∉ lexeme ∧
      (lexeme = [] → left = []) ∧ last = line + gap.count '\n' ∧ Answer.line answer = last := by
  induction h with
  | atEnd line => exact ⟨[], [], rfl, rfl, List.not_mem_nil, fun _ => rfl, rfl, rfl⟩
  | @skipped line last text skipped rest left answer hSkip _ ih =>
    obtain ⟨gap, lexeme, hRest, hRead, hFeed, hNone, hLast, hLine⟩ := ih
    refine ⟨skipped ++ gap, lexeme, ?_, hRead, hFeed, hNone, ?_, hLine⟩
    · rw [List.append_assoc, ← hRest, hSkip.append_eq]
    · rw [hLast, List.count_append, Nat.add_assoc]
  | @taken line text found hTake =>
    obtain ⟨hRead, hFeed⟩ := hTake.readFrom line
    exact ⟨[], found.text, hTake.append_eq.symm, hRead, hFeed,
      fun hNil => absurd hNil hTake.lexeme_ne_nil, rfl, found.line_answer line⟩

end TallyCheck
