import TallyCheck.Proofs.Spelling

/-! # Tokens set apart

Which tokens a text can spell, each by the text it carries.  With nothing behind that text, or a
blank or a line feed, it is the longest match whatever else follows, so that the token is read from
it again.
-/
namespace TallyCheck
set_option autoImplicit false

namespace Token

/-- A token that can be read from a text: a literal of the right form, or a symbol with a text of
its own. -/
inductive Scannable : Token → Prop where
  | identifier {first : Char} {others : List Char} (line : Nat) (letter : first.isAlpha = true)
      (inner : ∀ c ∈ others, isWordChar c = true)
      (free : Symbol.keyword? (String.ofList (first :: others)) = none) :
      Scannable (.ofText .identifier (String.ofList (first :: others)) line)
  | whole {digits : List Char} (line : Nat) (ne : digits ≠ [])
      (inner : ∀ c ∈ digits, c.isDigit = true) :
      Scannable (.ofText .numberConstant (String.ofList digits) line)
  | fraction {digits decimals : List Char} (line : Nat) (ne : digits ≠ [])
      (inner : ∀ c ∈ digits, c.isDigit = true) (more : decimals ≠ [])
      (behind : ∀ c ∈ decimals, c.isDigit = true) :
      Scannable (.ofText .numberConstant (String.ofList (digits ++ '.' :: decimals)) line)
  | string {body : List Char} (line : Nat) (inner : ∀ c ∈ body, isStringChar c = true) :
      Scannable (.ofText .stringConstant (String.ofList ('"' :: (body ++ ['"']))) line)
  | fixed {symbol : Symbol} (line : Nat) (noLiteral : symbol.isLiteral = false)
      (ne : symbol ≠ .endOfInput) : Scannable (.fixed symbol line)

theorem ofText_eq_fixed {symbol : Symbol} (h : symbol.isLiteral = false) (text : String)
    (line : Nat) : ofText symbol text line = fixed symbol line := by
  simp [fixed, ofText, h]

theorem toList_text_of_literal {symbol : Symbol} (h : symbol.isLiteral = true) (text : List Char)
    (line : Nat) : (ofText symbol (String.ofList text) line).text.toList = text := by
  rw [text_ofText_of_literal h, String.toList_ofList]

end Token

namespace Symbol

theorem isLiteral_keyword :
    ∀ symbol ∈ keywords, symbol.isLiteral = false ∧ symbol ≠ .endOfInput := by
  decide

end Symbol

namespace LexicalRule

theorem Matches.scannable {rule : LexicalRule} {text : List Char} {symbol : Symbol}
    (h : rule.Matches text) (hKind : rule.kind? text = some (.ok symbol)) (line : Nat) :
    (Token.ofText symbol (String.ofList text) line).Scannable := by
  cases h with
  | blanks | lineFeed | comment => cases hKind
  | fixed hLiteral hEnd =>
    cases hKind
    rw [Token.ofText_eq_fixed hLiteral]
    exact .fixed line hLiteral hEnd
  | @word first others hLetter hInner =>
    cases hKeyword : Symbol.keyword? (String.ofList (first :: others)) with
    | none =>
      rw [kind?, hKeyword] at hKind
      cases hKind
      exact .identifier line hLetter hInner hKeyword
    | some keyword =>
      rw [kind?, hKeyword, Option.getD_some] at hKind
      cases hKind
      have hMem := ((Symbol.keyword?_eq_some_iff _ _).mp hKeyword).1
      obtain ⟨hLiteral, hEnd⟩ := Symbol.isLiteral_keyword _ hMem
      rw [Token.ofText_eq_fixed hLiteral]
      exact .fixed line hLiteral hEnd
  | whole hNe hInner =>
    rw [kind?_whole hInner] at hKind
    cases hKind
    exact .whole line hNe hInner
  | fraction hNe hInner hBehind =>
    rw [kind?_fraction _ hBehind] at hKind
    split at hKind
    · cases hKind
    · rename_i hMore
      cases hKind
      exact .fraction line hNe hInner (by simpa using hMore) hBehind
  | closed hInner =>
    rw [kind?_closed] at hKind
    cases hKind
    exact .string line hInner
  | unclosed hInner =>
    rw [kind?_unclosed hInner] at hKind
    cases hKind

end LexicalRule

theorem LongestMatch.scannable {text lexeme rest : List Char} {symbol : Symbol}
    (h : LongestMatch text (some (.ok symbol)) lexeme rest) (line : Nat) :
    (Token.ofText symbol (String.ofList lexeme) line).Scannable := by
  generalize hKind : some (Except.ok symbol) = kind at h
  cases h with
  | matched hLongest _ => exact hLongest.matched.scannable hKind.symm line
  | unmatched => cases hKind

theorem Token.Scannable.exists_rule {token : Token} (h : token.Scannable) :
    ∃ rule : LexicalRule, rule.Matches token.text.toList ∧
      rule.kind? token.text.toList = some (.ok token.symbol) := by
  cases h with
  | identifier line hLetter hInner hFree =>
    rw [toList_text_of_literal rfl]
    refine ⟨.word, .word hLetter hInner, ?_⟩
    rw [LexicalRule.kind?, hFree]
    rfl
  | whole line hNe hInner =>
    rw [toList_text_of_literal rfl]
    exact ⟨.number, .whole hNe hInner, LexicalRule.kind?_whole hInner⟩
  | fraction line hNe hInner hMore hBehind =>
    rw [toList_text_of_literal rfl]
    refine ⟨.number, .fraction hNe hInner hBehind, ?_⟩
    rw [LexicalRule.kind?_fraction _ hBehind, if_neg (by simpa using hMore)]
    rfl
  | string line hInner =>
    rw [toList_text_of_literal rfl]
    exact ⟨.string, .closed hInner, LexicalRule.kind?_closed _⟩
  | @fixed symbol line hLiteral hEnd =>
    have hText : (Token.fixed symbol line).text = symbol.name :=
      ((Token.fixed symbol line).text_eq hLiteral).trans (Symbol.fixedText_of_ne hEnd)
    rw [hText]
    exact ⟨.fixed symbol, .fixed hLiteral hEnd, rfl⟩

/-- Nothing, or a text that begins with a blank or a line feed. -/
def Separated (text : List Char) : Prop := ∀ c ∈ text.head?, c = ' ' ∨ c = '\n'

theorem separated_nil : Separated [] := by
  intro c hHead
  cases hHead

theorem Separated.exists_of_append {text rest front back : List Char} (h : Separated rest)
    (hText : front ++ back = text ++ rest) (hLonger : text.length < front.length) :
    ∃ c more, front = text ++ c :: more ∧ (c = ' ' ∨ c = '\n') := by
  rcases List.append_eq_append_iff.mp hText with ⟨cut, rfl, -⟩ | ⟨beyond, rfl, rfl⟩
  · rw [List.length_append] at hLonger
    omega
  · cases beyond with
    | nil => simp at hLonger
    | cons c more => exact ⟨c, more, rfl, h c rfl⟩

namespace LexicalRule

theorem Matches.forall_number {text : List Char} (h : number.Matches text) :
    ∀ c ∈ text, c.isDigit = true ∨ c = '.' := by
  intro c hMem
  cases h with
  | whole _ hInner => exact .inl (hInner c hMem)
  | fraction _ hInner hBehind =>
    rcases List.mem_append.mp hMem with hMem | hMem
    · exact .inl (hInner c hMem)
    · rcases List.mem_cons.mp hMem with rfl | hMem
      · exact .inr rfl
      · exact .inl (hBehind c hMem)

theorem not_matches_string_append (body more : List Char) (c : Char) :
    ¬ string.Matches ('"' :: (body ++ ['"']) ++ c :: more) := by
  have hQuote : isStringChar '"' = false := by decide
  have hCut : '"' :: (body ++ ['"']) ++ c :: more = '"' :: (body ++ '"' :: c :: more) := by simp
  intro h
  rw [hCut] at h
  generalize hRead : body ++ '"' :: c :: more = read at h
  cases h with
  | @closed inside hInner =>
    obtain ⟨front, last, hBehind⟩ := List.eq_nil_or_concat' (c :: more) |>.resolve_left nofun
    rw [hBehind, ← List.cons_append, ← List.append_assoc] at hRead
    have hInside : body ++ '"' :: front = inside := (List.append_inj' hRead rfl).1
    have hMem : '"' ∈ inside := by simp [← hInside]
    cases hQuote.symm.trans (hInner _ hMem)
  | unclosed hInner =>
    have hMem : '"' ∈ read := by simp [← hRead]
    cases hQuote.symm.trans (hInner _ hMem)

theorem separator_not_mem_operator :
    ∀ symbol ∈ Symbol.operators, ' ' ∉ symbol.name.toList ∧ '\n' ∉ symbol.name.toList := by
  decide

theorem name_ne_nil_of_operator :
    ∀ symbol ∈ Symbol.operators, symbol.name.toList ≠ [] := by
  decide

theorem slash_operator :
    ∀ symbol ∈ Symbol.operators, symbol.name.toList.head? = some '/' →
      symbol.name.toList = ['/'] := by
  decide

theorem not_matches_operator_append {symbol : Symbol} (hSymbol : symbol ∈ Symbol.operators)
    {c : Char} (hSeparator : c = ' ' ∨ c = '\n') (more : List Char) {rule : LexicalRule}
    (hStart : rule.start = .sign) : ¬ rule.Matches (symbol.name.toList ++ c :: more) := by
  intro h
  rcases h.comment_or_operator hStart with ⟨body, hText, -⟩ | ⟨longer, hLonger, hText⟩
  · obtain ⟨first, others, hName⟩ :=
      List.exists_cons_of_ne_nil (name_ne_nil_of_operator symbol hSymbol)
    have hSlash : symbol.name.toList = ['/'] := by
      apply slash_operator symbol hSymbol
      rw [hName] at hText ⊢
      exact congrArg some (List.head_eq_of_cons_eq hText)
    rw [hSlash] at hText
    obtain rfl : c = '/' := (List.cons.inj (List.cons.inj hText).2).1
    revert hSeparator
    decide
  · obtain ⟨hBlank, hFeed⟩ := separator_not_mem_operator longer hLonger
    rw [← hText] at hBlank hFeed
    rcases hSeparator with rfl | rfl
    · simp at hBlank
    · simp at hFeed

theorem Matches.not_across {rule other : LexicalRule} {text more : List Char} {symbol : Symbol}
    {c : Char} (h : rule.Matches text) (hKind : rule.kind? text = some (.ok symbol))
    (hSeparator : c = ' ' ∨ c = '\n') : ¬ other.Matches (text ++ c :: more) := by
  intro hOther
  have hMem : c ∈ text ++ c :: more := List.mem_append_right _ List.mem_cons_self
  have hStart : other.start = rule.start := by
    obtain ⟨first, others, rfl, hFirst⟩ := h.start_eq
    exact (hOther.start_eq_of_append (List.append_nil _)).trans hFirst
  have hLetter : rule.start ≠ .letter := by
    intro hLetter
    have hChar := hOther.forall_isWordChar (hStart.trans hLetter) c hMem
    rcases hSeparator with rfl | rfl
    · cases hChar
    · cases hChar
  cases h with
  | blanks | lineFeed | comment => cases hKind
  | word => exact hLetter rfl
  | @fixed symbol hLiteral hEnd =>
    have hSign := (start_fixed symbol).resolve_left hLetter
    have hSymbol : symbol ∈ Symbol.operators := by
      apply mem_operators_of_not_keyword _ hLiteral hEnd
      intro hKeyword
      exact hLetter (if_pos hKeyword)
    exact not_matches_operator_append hSymbol hSeparator more (hStart.trans hSign) hOther
  | whole | fraction =>
    obtain rfl : other = number := eq_of_start_eq hStart nofun nofun
    have hDigit := hOther.forall_number c hMem
    rcases hSeparator with rfl | rfl
    · revert hDigit
      decide
    · revert hDigit
      decide
  | closed =>
    obtain rfl : other = string := eq_of_start_eq hStart nofun nofun
    exact not_matches_string_append _ _ _ hOther
  | unclosed hInner =>
    rw [kind?_unclosed hInner] at hKind
    cases hKind

end LexicalRule

theorem Token.Scannable.longestMatch {token : Token} (h : token.Scannable) {rest : List Char}
    (hRest : Separated rest) :
    LongestMatch (token.text.toList ++ rest) (some (.ok token.symbol)) token.text.toList rest := by
  obtain ⟨rule, hMatched, hKind⟩ := h.exists_rule
  rw [← hKind]
  refine .matched ⟨hMatched, ?_⟩ rfl
  intro other front back hText hOther
  by_contra hLonger
  obtain ⟨c, more, rfl, hSeparator⟩ :=
    hRest.exists_of_append hText (Nat.lt_of_not_le hLonger)
  exact hMatched.not_across hKind hSeparator hOther

end TallyCheck
