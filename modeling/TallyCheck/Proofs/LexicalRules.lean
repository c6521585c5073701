import Mathlib.Data.List.Basic
import Mathlib.Data.List.TakeWhile
import TallyCheck.Scanner

/-! # Lexical rules

The texts that each rule of the scanner matches, said without the scanner, and what it means for a
rule to match the longest prefix that any rule matches.  Where two rules match the same text they
agree on what it is.
-/
namespace TallyCheck
set_option autoImplicit false

inductive LexicalRule where
  | blanks | lineFeed | comment
  | fixed (symbol : Symbol)
  | word | number | string

namespace LexicalRule

inductive Matches : LexicalRule → List Char → Prop where
  | blanks {text : List Char} (ne : text ≠ []) (inner : ∀ c ∈ text, Gap.isBlank c = true) :
      Matches .blanks text
  | lineFeed : Matches .lineFeed ['\n']
  | comment {body : List Char} (inner : '\n' ∉ body) : Matches .comment ('/' :: '/' :: body)
  | fixed {symbol : Symbol} (noLiteral : symbol.isLiteral = false) (ne : symbol ≠ .endOfInput) :
      Matches (.fixed symbol) symbol.name.toList
  | word {first : Char} {others : List Char} (letter : first.isAlpha = true)
      (inner : ∀ c ∈ others, isWordChar c = true) : Matches .word (first :: others)
  | whole {digits : List Char} (ne : digits ≠ []) (inner : ∀ c ∈ digits, c.isDigit = true) :
      Matches .number digits
  /-- Nothing need follow the point. -/
  | fraction {digits decimals : List Char} (ne : digits ≠ [])
      (inner : ∀ c ∈ digits, c.isDigit = true) (behind : ∀ c ∈ decimals, c.isDigit = true) :
      Matches .number (digits ++ '.' :: decimals)
  | closed {body : List Char} (inner : ∀ c ∈ body, isStringChar c = true) :
      Matches .string ('"' :: (body ++ ['"']))
  /-- The closing quote may be missing. -/
  | unclosed {body : List Char} (inner : ∀ c ∈ body, isStringChar c = true) :
      Matches .string ('"' :: body)

/-- What a text matched by a rule is; none if it is skipped. -/
def kind? : LexicalRule → List Char → Option (Except Fault Symbol)
  | .blanks, _ | .lineFeed, _ | .comment, _ => none
  | .fixed symbol, _ => some (.ok symbol)
  | .word, text => some (.ok ((Symbol.keyword? (String.ofList text)).getD .identifier))
  | .number, text => some (if text.getLast? = some '.'
      then .error (.malformedNumber (String.ofList text)) else .ok .numberConstant)
  | .string, text => some (if 2 ≤ text.length ∧ text.getLast? = some '"'
      then .ok .stringConstant else .error .unterminatedString)

theorem getLast?_ne_point {digits : List Char} (h : ∀ c ∈ digits, c.isDigit = true) :
    digits.getLast? ≠ some '.' :=
  fun hLast => absurd (h '.' (List.mem_of_getLast? hLast)) (by decide)

theorem kind?_whole {digits : List Char} (h : ∀ c ∈ digits, c.isDigit = true) :
    number.kind? digits = some (.ok .numberConstant) := by
  rw [kind?, if_neg (getLast?_ne_point h)]

theorem kind?_fraction (digits : List Char) {decimals : List Char}
    (h : ∀ c ∈ decimals, c.isDigit = true) :
    number.kind? (digits ++ '.' :: decimals) = some (if decimals.isEmpty
      then .error (.malformedNumber (String.ofList (digits ++ '.' :: decimals)))
      else .ok .numberConstant) := by
  cases decimals with
  | nil => simp [kind?]
  | cons d ds =>
    have hLast := getLast?_ne_point h
    rw [kind?, List.getLast?_append_cons, List.getLast?_cons_cons, if_neg hLast]
    rfl

theorem kind?_closed (body : List Char) :
    string.kind? ('"' :: (body ++ ['"'])) = some (.ok .stringConstant) := by
  have hLast : ('"' :: (body ++ ['"'])).getLast? = some '"' := by
    rw [← List.cons_append, List.getLast?_concat]
  rw [kind?, if_pos ⟨by simp, hLast⟩]

theorem kind?_unclosed {body : List Char} (h : ∀ c ∈ body, isStringChar c = true) :
    string.kind? ('"' :: body) = some (.error .unterminatedString) := by
  rw [kind?, if_neg]
  rintro ⟨hLength, hLast⟩
  cases body with
  | nil => cases Nat.le_of_succ_le_succ hLength
  | cons d ds =>
    rw [List.getLast?_cons_cons] at hLast
    exact absurd (h '"' (List.mem_of_getLast? hLast)) (by decide)

/-- `rule` matches `lexeme`, and no rule matches a longer part of the text that `lexeme` and `rest`
are. -/
structure Longest (rule : LexicalRule) (lexeme rest : List Char) : Prop where
  matched : rule.Matches lexeme
  longest : ∀ (other : LexicalRule) (front back : List Char), front ++ back = lexeme ++ rest →
    other.Matches front → front.length ≤ lexeme.length

/-- No rule matches what the text begins with. -/
def Unmatched (text : List Char) : Prop :=
  ∀ (rule : LexicalRule) (front back : List Char), front ++ back = text → ¬ rule.Matches front

theorem Longest.eq {rule other : LexicalRule} {lexeme rest text left : List Char}
    (h : rule.Longest lexeme rest) (hOther : other.Longest text left)
    (hText : lexeme ++ rest = text ++ left) : lexeme = text ∧ rest = left := by
  have hLe := hOther.longest rule lexeme rest hText h.matched
  have hGe := h.longest other text left hText.symm hOther.matched
  exact List.append_inj hText (Nat.le_antisymm hLe hGe)

/-- The kinds of characters with which rules begin. -/
inductive Start where
  | feed | blank | letter | digit | quote | sign
  deriving DecidableEq

def Start.of (c : Char) : Start :=
  if c = '\n' then .feed
  else if Gap.isBlank c then .blank
  else if c.isAlpha then .letter
  else if c.isDigit then .digit
  else if c = '"' then .quote
  else .sign

def start : LexicalRule → Start
  | blanks => .blank
  | lineFeed => .feed
  | comment => .sign
  | fixed symbol => if symbol ∈ Symbol.keywords then .letter else .sign
  | word => .letter
  | number => .digit
  | string => .quote

theorem Start.of_isBlank {c : Char} (h : Gap.isBlank c = true) : Start.of c = .blank := by
  have hFeed : c ≠ '\n' := by
    rintro rfl
    revert h
    decide
  rw [Start.of, if_neg hFeed, if_pos h]

theorem isBlank_eq_true_iff (c : Char) :
    Gap.isBlank c = true ↔ c = ' ' ∨ c = '\t' ∨ c = '\r' ∨ c = '\x0c' := by
  simp [Gap.isBlank, or_assoc]

theorem Start.of_isAlpha {c : Char} (h : c.isAlpha = true) : Start.of c = .letter := by
  have hFeed : c ≠ '\n' := by
    rintro rfl
    revert h
    decide
  have hBlank : ¬ Gap.isBlank c = true := by
    rw [isBlank_eq_true_iff]
    rintro (rfl | rfl | rfl | rfl) <;> revert h <;> decide
  rw [Start.of, if_neg hFeed, if_neg hBlank, if_pos h]

theorem not_isAlpha_of_isDigit {c : Char} (h : c.isDigit = true) : ¬ c.isAlpha = true := by
  intro hAlpha
  have hNine : c.val ≤ '9'.val := of_decide_eq_true (Bool.and_eq_true_iff.mp h).2
  have hLetter : 'A'.val ≤ c.val := by
    rcases Bool.or_eq_true_iff.mp hAlpha with hUpper | hLower
    · exact (of_decide_eq_true hUpper).1
    · have hSmall : 'a'.val ≤ c.val := of_decide_eq_true (Bool.and_eq_true_iff.mp hLower).1
      exact UInt32.le_trans (by decide) hSmall
  exact absurd (UInt32.le_trans hLetter hNine) (by decide)

theorem Start.of_isDigit {c : Char} (h : c.isDigit = true) : Start.of c = .digit := by
  have hFeed : c ≠ '\n' := by
    rintro rfl
    revert h
    decide
  have hBlank : ¬ Gap.isBlank c = true := by
    rw [isBlank_eq_true_iff]
    rintro (rfl | rfl | rfl | rfl) <;> revert h <;> decide
  rw [Start.of, if_neg hFeed, if_neg hBlank, if_neg (not_isAlpha_of_isDigit h), if_pos h]

theorem Start.of_sign {c : Char} (hFeed : c ≠ '\n') (hBlank : ¬ Gap.isBlank c = true)
    (hAlpha : ¬ c.isAlpha = true) (hDigit : ¬ c.isDigit = true) (hQuote : c ≠ '"') :
    Start.of c = .sign := by
  rw [Start.of, if_neg hFeed, if_neg hBlank, if_neg hAlpha, if_neg hDigit, if_neg hQuote]

theorem start_fixed_name (symbol : Symbol) (hLiteral : symbol.isLiteral = false)
    (hEnd : symbol ≠ .endOfInput) :
    ∃ c cs, symbol.name.toList = c :: cs ∧ Start.of c = (fixed symbol).start := by
  cases symbol with
  | identifier | numberConstant | stringConstant => cases hLiteral
  | endOfInput => exact absurd rfl hEnd
  | _ => exact ⟨_, _, rfl, by decide⟩

theorem Matches.start_eq {rule : LexicalRule} {text : List Char} (h : rule.Matches text) :
    ∃ c cs, text = c :: cs ∧ Start.of c = rule.start := by
  cases h with
  | @blanks text hNe hInner =>
    obtain ⟨c, cs, rfl⟩ := List.exists_cons_of_ne_nil hNe
    exact ⟨c, cs, rfl, Start.of_isBlank (hInner c List.mem_cons_self)⟩
  | lineFeed => exact ⟨_, _, rfl, rfl⟩
  | comment hInner => exact ⟨_, _, rfl, by decide⟩
  | fixed hLiteral hEnd => exact start_fixed_name _ hLiteral hEnd
  | word hLetter hInner => exact ⟨_, _, rfl, Start.of_isAlpha hLetter⟩
  | whole hNe hInner =>
    obtain ⟨c, cs, rfl⟩ := List.exists_cons_of_ne_nil hNe
    exact ⟨c, cs, rfl, Start.of_isDigit (hInner c List.mem_cons_self)⟩
  | fraction hNe hInner hBehind =>
    obtain ⟨c, cs, rfl⟩ := List.exists_cons_of_ne_nil hNe
    exact ⟨c, _, rfl, Start.of_isDigit (hInner c List.mem_cons_self)⟩
  | closed hInner | unclosed hInner => exact ⟨_, _, rfl, by decide⟩

theorem Matches.start_eq_of_append {rule : LexicalRule} {front back cs : List Char} {c : Char}
    (h : rule.Matches front) (hText : front ++ back = c :: cs) : rule.start = Start.of c := by
  obtain ⟨first, others, rfl, hStart⟩ := h.start_eq
  cases hText
  exact hStart.symm

theorem start_fixed (symbol : Symbol) :
    (fixed symbol).start = .letter ∨ (fixed symbol).start = .sign := by
  rw [start]
  split
  · exact .inl rfl
  · exact .inr rfl

theorem eq_of_start_eq {rule other : LexicalRule} (h : other.start = rule.start)
    (hLetter : rule.start ≠ .letter) (hSign : rule.start ≠ .sign) : other = rule := by
  cases rule with
  | word => exact absurd rfl hLetter
  | comment => exact absurd rfl hSign
  | fixed symbol =>
    cases start_fixed symbol with
    | inl hStart => exact absurd hStart hLetter
    | inr hStart => exact absurd hStart hSign
  | blanks | lineFeed | number | string =>
    cases other with
    | fixed symbol =>
      cases start_fixed symbol with
      | inl hStart => cases hStart.symm.trans h
      | inr hStart => cases hStart.symm.trans h
    | _ => first | rfl | cases h

theorem isAlpha_name_of_keyword :
    ∀ symbol ∈ Symbol.keywords, symbol.name.toList.all Char.isAlpha = true := by
  decide

theorem mem_operators_of_not_keyword {symbol : Symbol} (h : symbol ∉ Symbol.keywords)
    (hLiteral : symbol.isLiteral = false) (hEnd : symbol ≠ .endOfInput) :
    symbol ∈ Symbol.operators := by
  revert h hLiteral hEnd
  cases symbol <;> decide

theorem isWordChar_of_isAlpha {c : Char} (h : c.isAlpha = true) : isWordChar c = true := by
  simp [isWordChar, Char.isAlphanum, h]

theorem Matches.forall_isWordChar {rule : LexicalRule} {text : List Char}
    (h : rule.Matches text) (hStart : rule.start = .letter) : ∀ c ∈ text, isWordChar c = true := by
  cases h with
  | word hLetter hInner =>
    rintro c (_ | ⟨_, hMem⟩)
    · exact isWordChar_of_isAlpha hLetter
    · exact hInner c hMem
  | @fixed symbol hLiteral hEnd =>
    have hKeyword : symbol ∈ Symbol.keywords := by
      by_contra hNot
      cases (if_neg hNot).symm.trans hStart
    have hName := List.all_eq_true.mp (isAlpha_name_of_keyword symbol hKeyword)
    exact fun c hMem => isWordChar_of_isAlpha (hName c hMem)
  | _ => cases hStart

theorem Matches.comment_or_operator {rule : LexicalRule} {text : List Char}
    (h : rule.Matches text) (hStart : rule.start = .sign) :
    (∃ body, text = '/' :: '/' :: body ∧ '\n' ∉ body) ∨
      ∃ symbol ∈ Symbol.operators, text = symbol.name.toList := by
  cases h with
  | comment hInner => exact .inl ⟨_, rfl, hInner⟩
  | @fixed symbol hLiteral hEnd =>
    refine .inr ⟨symbol, mem_operators_of_not_keyword ?_ hLiteral hEnd, rfl⟩
    intro hKeyword
    cases (if_pos hKeyword).symm.trans hStart
  | _ => cases hStart

/-- What a text is that some rule matches, read off the text alone. -/
def classify : List Char → Option (Except Fault Symbol)
  | [] => none
  | c :: cs =>
    match Start.of c with
    | .feed | .blank => none
    | .letter => kind? .word (c :: cs)
    | .digit => kind? .number (c :: cs)
    | .quote => kind? .string (c :: cs)
    | .sign => if cs.head? = some '/' then none
      else (Symbol.ofName? (String.ofList (c :: cs))).map Except.ok

theorem classify_name (symbol : Symbol) (hLiteral : symbol.isLiteral = false)
    (hEnd : symbol ≠ .endOfInput) : classify symbol.name.toList = some (.ok symbol) := by
  cases symbol with
  | identifier | numberConstant | stringConstant => cases hLiteral
  | endOfInput => exact absurd rfl hEnd
  | _ => decide +kernel

/-- Two rules that match the same text agree on what it is. -/
theorem Matches.kind?_eq_classify {rule : LexicalRule} {text : List Char}
    (h : rule.Matches text) : rule.kind? text = classify text := by
  have hShape := h.start_eq
  cases h with
  | fixed hLiteral hEnd => exact (classify_name _ hLiteral hEnd).symm
  | comment => rfl
  | lineFeed => rfl
  | blanks | word | whole | fraction | closed | unclosed =>
    obtain ⟨c, cs, hText, hStart⟩ := hShape
    rw [hText, classify, hStart]
    rfl

end LexicalRule
end TallyCheck
