import TallyCheck.Proofs.LexicalRules

/-! # The scanner takes longest matches

Each lexeme that the scanner cuts is the longest that any lexical rule matches, and what it skips
between them consists of such lexemes too.  Where no rule matches, one character is passed.
-/
namespace TallyCheck
set_option autoImplicit false

namespace LexicalRule

theorem length_name_le_two :
    ∀ symbol ∈ Symbol.operators, symbol.name.toList.length ≤ 2 := by
  decide

theorem isLiteral_operator :
    ∀ symbol ∈ Symbol.operators, symbol.isLiteral = false ∧ symbol ≠ .endOfInput := by
  decide

theorem operators_pairwise :
    Symbol.operators.Pairwise fun earlier later =>
      ¬ earlier.name.toList <+: later.name.toList := by
  decide

section Spans

variable {p : Char → Bool} {front back text : List Char}

theorem length_le_takeWhile (hText : front ++ back = text) (h : ∀ c ∈ front, p c = true) :
    front.length ≤ (text.takeWhile p).length := by
  rw [← hText, List.takeWhile_append_of_pos h, List.length_append]
  exact Nat.le_add_right _ _

theorem span_eq_of_stop {d : Char} (hText : front ++ d :: back = text)
    (h : ∀ c ∈ front, p c = true) (hStop : p d = false) :
    text.takeWhile p = front ∧ text.dropWhile p = d :: back := by
  subst hText
  rw [List.takeWhile_append_of_pos h, List.dropWhile_append_of_pos h,
    List.takeWhile_cons_of_neg (by simp [hStop]), List.dropWhile_cons_of_neg (by simp [hStop])]
  exact ⟨List.append_nil front, rfl⟩

end Spans

theorem Longest.of_start {rule : LexicalRule} {lexeme rest : List Char}
    (hMatched : rule.Matches lexeme) (hLetter : rule.start ≠ .letter)
    (hSign : rule.start ≠ .sign)
    (h : ∀ front back, front ++ back = lexeme ++ rest → rule.Matches front →
      front.length ≤ lexeme.length) :
    rule.Longest lexeme rest := by
  refine ⟨hMatched, fun other front back hText hOther => ?_⟩
  obtain ⟨c, cs, hLexeme, hStart⟩ := hMatched.start_eq
  have hSame : other.start = rule.start :=
    (hOther.start_eq_of_append (hText.trans (congrArg (· ++ rest) hLexeme))).trans hStart
  cases eq_of_start_eq hSame hLetter hSign
  exact h front back hText hOther

theorem longest_blanks {c : Char} {cs : List Char} (hBlank : Gap.isBlank c = true) :
    blanks.Longest ((c :: cs).takeWhile Gap.isBlank) ((c :: cs).dropWhile Gap.isBlank) := by
  refine .of_start (.blanks ?_ fun _ => List.mem_takeWhile_imp) nofun nofun
    fun front back hText h => ?_
  · rw [List.takeWhile_cons_of_pos hBlank]
    exact List.cons_ne_nil _ _
  · rw [List.takeWhile_append_dropWhile] at hText
    cases h with
    | blanks _ hInner => exact length_le_takeWhile hText hInner

theorem longest_lineFeed (rest : List Char) : lineFeed.Longest ['\n'] rest := by
  refine .of_start .lineFeed nofun nofun fun front back _ h => ?_
  cases h with
  | lineFeed => exact Nat.le_refl _

theorem longest_word {c : Char} (hLetter : c.isAlpha = true) (cs : List Char) :
    word.Longest (Lexeme.word c cs).text (Lexeme.word c cs).rest := by
  refine ⟨.word hLetter fun _ => List.mem_takeWhile_imp, fun other front back hText h => ?_⟩
  rw [Lexeme.text_word] at hText
  have hStart : other.start = .letter :=
    (h.start_eq_of_append hText).trans (Start.of_isAlpha hLetter)
  have hLength := length_le_takeWhile hText (h.forall_isWordChar hStart)
  rwa [List.takeWhile_cons_of_pos (isWordChar_of_isAlpha hLetter)] at hLength

theorem longest_fraction {text rest : List Char} (hNe : text.takeWhile Char.isDigit ≠ [])
    (hPoint : text.dropWhile Char.isDigit = '.' :: rest) :
    number.Longest (text.takeWhile Char.isDigit ++ '.' :: rest.takeWhile Char.isDigit)
      (rest.dropWhile Char.isDigit) := by
  refine .of_start (.fraction hNe (fun _ => List.mem_takeWhile_imp)
    fun _ => List.mem_takeWhile_imp) nofun nofun fun front back hText h => ?_
  rw [List.append_assoc, List.cons_append, List.takeWhile_append_dropWhile, ← hPoint,
    List.takeWhile_append_dropWhile] at hText
  rw [List.length_append, List.length_cons]
  cases h with
  | whole _ hInner =>
    have hLength := length_le_takeWhile hText hInner
    omega
  | fraction _ hInner hDecimals =>
    rw [List.append_assoc, List.cons_append] at hText
    obtain ⟨hDigits, hRest⟩ := span_eq_of_stop hText hInner rfl
    cases hPoint.symm.trans hRest
    rw [hDigits, List.length_append, List.length_cons]
    exact Nat.add_le_add_left (Nat.succ_le_succ (length_le_takeWhile rfl hDecimals)) _

theorem longest_whole {text : List Char} (hNe : text.takeWhile Char.isDigit ≠ [])
    (hPoint : ∀ rest, text.dropWhile Char.isDigit ≠ '.' :: rest) :
    number.Longest (text.takeWhile Char.isDigit) (text.dropWhile Char.isDigit) := by
  refine .of_start (.whole hNe fun _ => List.mem_takeWhile_imp) nofun nofun
    fun front back hText h => ?_
  rw [List.takeWhile_append_dropWhile] at hText
  cases h with
  | whole _ hInner => exact length_le_takeWhile hText hInner
  | fraction _ hInner _ =>
    rw [List.append_assoc, List.cons_append] at hText
    exact absurd (span_eq_of_stop hText hInner rfl).2 (hPoint _)

theorem longest_number {c : Char} (hDigit : c.isDigit = true) (cs : List Char) :
    number.Longest (Lexeme.number c cs).text (Lexeme.number c cs).rest ∧
      number.kind? (Lexeme.number c cs).text = some (Lexeme.number c cs).kind := by
  have hWhole : c :: cs.takeWhile Char.isDigit = (c :: cs).takeWhile Char.isDigit :=
    (List.takeWhile_cons_of_pos hDigit).symm
  have hBehind : cs.dropWhile Char.isDigit = (c :: cs).dropWhile Char.isDigit :=
    (List.dropWhile_cons_of_pos hDigit).symm
  have hNe : (c :: cs).takeWhile Char.isDigit ≠ [] := hWhole ▸ List.cons_ne_nil _ _
  unfold Lexeme.number
  rw [hWhole, hBehind]
  split
  · rename_i rest hPoint
    exact ⟨longest_fraction hNe hPoint, kind?_fraction _ fun _ => List.mem_takeWhile_imp⟩
  · rename_i hPoint
    exact ⟨longest_whole hNe hPoint, kind?_whole fun _ => List.mem_takeWhile_imp⟩

theorem longest_closed {cs rest : List Char}
    (hQuote : cs.dropWhile isStringChar = '"' :: rest) :
    string.Longest ('"' :: (cs.takeWhile isStringChar ++ ['"'])) rest := by
  refine .of_start (.closed fun _ => List.mem_takeWhile_imp) nofun nofun
    fun front back hText h => ?_
  rw [List.cons_append, List.append_assoc, List.singleton_append, ← hQuote,
    List.takeWhile_append_dropWhile] at hText
  rw [List.length_cons, List.length_append, List.length_singleton]
  cases h with
  | closed hInner =>
    rw [List.cons_append, List.append_assoc, List.singleton_append, List.cons_inj_right] at hText
    rw [(span_eq_of_stop hText hInner rfl).1, List.length_cons, List.length_append,
      List.length_singleton]
  | unclosed hInner =>
    rw [List.cons_append, List.cons_inj_right] at hText
    have hLength := length_le_takeWhile hText hInner
    rw [List.length_cons]
    omega

theorem longest_unclosed {cs : List Char}
    (hQuote : ∀ rest, cs.dropWhile isStringChar ≠ '"' :: rest) :
    string.Longest ('"' :: cs.takeWhile isStringChar) (cs.dropWhile isStringChar) := by
  refine .of_start (.unclosed fun _ => List.mem_takeWhile_imp) nofun nofun
    fun front back hText h => ?_
  rw [List.cons_append, List.takeWhile_append_dropWhile] at hText
  cases h with
  | closed hInner =>
    rw [List.cons_append, List.append_assoc, List.singleton_append, List.cons_inj_right] at hText
    exact absurd (span_eq_of_stop hText hInner rfl).2 (hQuote _)
  | unclosed hInner =>
    rw [List.cons_append, List.cons_inj_right] at hText
    exact Nat.succ_le_succ (length_le_takeWhile hText hInner)

theorem longest_string (cs : List Char) :
    string.Longest (Lexeme.string cs).text (Lexeme.string cs).rest ∧
      string.kind? (Lexeme.string cs).text = some (Lexeme.string cs).kind := by
  unfold Lexeme.string
  split
  · rename_i rest hQuote
    exact ⟨longest_closed hQuote, kind?_closed _⟩
  · rename_i hQuote
    exact ⟨longest_unclosed hQuote, kind?_unclosed fun _ => List.mem_takeWhile_imp⟩

theorem longest_comment (cs : List Char) :
    comment.Longest ('/' :: '/' :: cs.takeWhile (· ≠ '\n')) (cs.dropWhile (· ≠ '\n')) := by
  have hInner : '\n' ∉ cs.takeWhile (· ≠ '\n') := by
    intro hMem
    have hOther := List.mem_takeWhile_imp hMem
    exact absurd rfl (of_decide_eq_true hOther)
  refine ⟨.comment hInner, fun other front back hText h => ?_⟩
  rw [List.cons_append, List.cons_append, List.takeWhile_append_dropWhile] at hText
  cases h.comment_or_operator (h.start_eq_of_append hText) with
  | inl hComment =>
    obtain ⟨body, rfl, hBody⟩ := hComment
    rw [List.cons_append, List.cons_append, List.cons_inj_right, List.cons_inj_right] at hText
    have hLength : body.length ≤ (cs.takeWhile (· ≠ '\n')).length :=
      length_le_takeWhile hText fun c hMem => decide_eq_true fun hFeed => hBody (hFeed ▸ hMem)
    exact Nat.succ_le_succ (Nat.succ_le_succ hLength)
  | inr hOperator =>
    obtain ⟨symbol, hMem, rfl⟩ := hOperator
    exact (length_name_le_two symbol hMem).trans (Nat.le_add_left _ _)

theorem length_le_of_find? {text : List Char} {symbol other : Symbol}
    (hFind : (Symbol.operators.find? fun symbol => symbol.name.toList.isPrefixOf text)
      = some symbol)
    (hOther : other ∈ Symbol.operators) (hPrefix : other.name.toList <+: text) :
    other.name.toList.length ≤ symbol.name.toList.length := by
  obtain ⟨hFound, before, after, hSplit, hBefore⟩ := List.find?_eq_some_iff_append.mp hFind
  rw [List.isPrefixOf_iff_prefix] at hFound
  have hPairwise := operators_pairwise
  rw [hSplit] at hOther hPairwise
  obtain ⟨-, hAfter, -⟩ := List.pairwise_append.mp hPairwise
  rcases List.mem_append.mp hOther with hMem | hMem
  · have hNot := hBefore other hMem
    rw [List.isPrefixOf_iff_prefix.mpr hPrefix] at hNot
    cases hNot
  · rcases List.mem_cons.mp hMem with rfl | hMem
    · exact Nat.le_refl _
    · refine (List.prefix_or_prefix_of_prefix hPrefix hFound).elim List.IsPrefix.length_le ?_
      exact fun hExtends => absurd hExtends ((List.pairwise_cons.mp hAfter).1 other hMem)

section Signs

variable {c : Char} {cs : List Char}

theorem Matches.operator_of_sign (hSign : Start.of c = .sign)
    (hComment : ¬ (c = '/' ∧ cs.head? = some '/')) {rule : LexicalRule} {front back : List Char}
    (h : rule.Matches front) (hText : front ++ back = c :: cs) :
    ∃ symbol ∈ Symbol.operators, front = symbol.name.toList ∧ symbol.name.toList <+: c :: cs := by
  cases h.comment_or_operator ((h.start_eq_of_append hText).trans hSign) with
  | inl hBody =>
    obtain ⟨body, rfl, -⟩ := hBody
    cases hText
    exact absurd ⟨rfl, rfl⟩ hComment
  | inr hOperator =>
    obtain ⟨symbol, hMem, rfl⟩ := hOperator
    exact ⟨symbol, hMem, rfl, back, hText⟩

theorem longest_operator (hSign : Start.of c = .sign)
    (hComment : ¬ (c = '/' ∧ cs.head? = some '/')) {symbol : Symbol}
    (hFind : (Symbol.operators.find? fun symbol => symbol.name.toList.isPrefixOf (c :: cs))
      = some symbol) :
    (fixed symbol).Longest symbol.name.toList ((c :: cs).drop symbol.name.length) := by
  obtain ⟨hLiteral, hEnd⟩ := isLiteral_operator symbol (List.mem_of_find?_eq_some hFind)
  have hFound := List.find?_some hFind
  obtain ⟨rest, hRest⟩ := List.isPrefixOf_iff_prefix.mp hFound
  refine ⟨.fixed hLiteral hEnd, fun other front back hText h => ?_⟩
  rw [← String.length_toList, ← hRest, List.drop_left, hRest] at hText
  obtain ⟨shorter, hMem, rfl, hPrefix⟩ := h.operator_of_sign hSign hComment hText
  exact length_le_of_find? hFind hMem hPrefix

theorem unmatched_of_find?_eq_none (hSign : Start.of c = .sign)
    (hComment : ¬ (c = '/' ∧ cs.head? = some '/'))
    (hFind : (Symbol.operators.find? fun symbol => symbol.name.toList.isPrefixOf (c :: cs))
      = none) :
    Unmatched (c :: cs) := by
  intro rule front back hText h
  obtain ⟨symbol, hMem, -, hPrefix⟩ := h.operator_of_sign hSign hComment hText
  exact List.find?_eq_none.mp hFind symbol hMem (List.isPrefixOf_iff_prefix.mpr hPrefix)

end Signs
end LexicalRule

/-- What is wrong with a character at which no rule matches. -/
def Fault.ofUnmatched (c : Char) (following : Option Char) : Fault :=
  if c = ':' then .incompleteOperator .becomes following
  else if c = '!' then .incompleteOperator .notEqual following
  else .unexpectedCharacter c

namespace Lexeme

variable {c : Char} {cs : List Char}

theorem sign_of_find?_eq_some {symbol : Symbol}
    (hFind : (Symbol.operators.find? fun symbol => symbol.name.toList.isPrefixOf (c :: cs))
      = some symbol) :
    sign c cs = ⟨.ok symbol, symbol.name.toList, (c :: cs).drop symbol.name.length⟩ := by
  have hSign := find?_signs (c :: cs)
  rw [hFind, Option.map_some] at hSign
  unfold sign
  rw [hSign]

theorem sign_of_find?_eq_none
    (hFind : (Symbol.operators.find? fun symbol => symbol.name.toList.isPrefixOf (c :: cs))
      = none) :
    sign c cs = ⟨.error (.ofUnmatched c cs.head?), [c], cs⟩ := by
  have hSign := find?_signs (c :: cs)
  rw [hFind, Option.map_none] at hSign
  unfold sign
  rw [hSign]
  simp only [Fault.ofUnmatched]
  split
  · rfl
  · rfl
  · rename_i hColon hMark
    rw [if_neg hColon, if_neg hMark]

end Lexeme

/-- What a text begins with: the longest lexeme that a rule matches, or a character at which no
rule does. -/
inductive LongestMatch (text : List Char) :
    Option (Except Fault Symbol) → List Char → List Char → Prop where
  | matched {rule : LexicalRule} {lexeme rest : List Char} (longest : rule.Longest lexeme rest)
      (cut : lexeme ++ rest = text) : LongestMatch text (rule.kind? lexeme) lexeme rest
  | unmatched {c : Char} {cs : List Char} (none : LexicalRule.Unmatched text)
      (cut : text = c :: cs) :
      LongestMatch text (some (.error (.ofUnmatched c cs.head?))) [c] cs

namespace LongestMatch

variable {text lexeme other rest left : List Char} {kind kind' : Option (Except Fault Symbol)}

theorem unique (h : LongestMatch text kind lexeme rest)
    (hOther : LongestMatch text kind' other left) :
    kind = kind' ∧ lexeme = other ∧ rest = left := by
  cases h with
  | matched hLongest hCut =>
    cases hOther with
    | matched hSecond hSame =>
      obtain ⟨rfl, rfl⟩ := hLongest.eq hSecond (hCut.trans hSame.symm)
      exact ⟨hLongest.matched.kind?_eq_classify.trans hSecond.matched.kind?_eq_classify.symm,
        rfl, rfl⟩
    | unmatched hNone _ => exact absurd hLongest.matched (hNone _ _ _ hCut)
  | unmatched hNone hCut =>
    cases hOther with
    | matched hSecond hSame => exact absurd hSecond.matched (hNone _ _ _ hSame)
    | unmatched _ hSame =>
      cases hCut.symm.trans hSame
      exact ⟨rfl, rfl, rfl⟩

theorem append_eq (h : LongestMatch text kind lexeme rest) : lexeme ++ rest = text := by
  cases h with
  | matched _ hCut => exact hCut
  | unmatched _ hCut => exact hCut.symm

theorem lexeme_ne_nil (h : LongestMatch text kind lexeme rest) : lexeme ≠ [] := by
  cases h with
  | matched hLongest _ =>
    obtain ⟨c, cs, rfl, -⟩ := hLongest.matched.start_eq
    exact List.cons_ne_nil c cs
  | unmatched => exact List.cons_ne_nil _ _

theorem text_ne_nil (h : LongestMatch text kind lexeme rest) : text ≠ [] := by
  rw [← h.append_eq]
  exact List.append_ne_nil_of_left_ne_nil h.lexeme_ne_nil rest

theorem rest_length_lt (h : LongestMatch text kind lexeme rest) : rest.length < text.length := by
  have hPos := List.length_pos_iff.mpr h.lexeme_ne_nil
  rw [← h.append_eq, List.length_append]
  omega

end LongestMatch

/-- What the scanner cuts where no gap begins. -/
theorem lexeme_longestMatch {c : Char} {cs : List Char} (hFeed : c ≠ '\n')
    (hBlank : ¬ Gap.isBlank c = true) (hComment : ¬ (c = '/' ∧ cs.head? = some '/')) :
    LongestMatch (c :: cs) (some (lexeme c cs).kind) (lexeme c cs).text (lexeme c cs).rest := by
  have hCut := Lexeme.text_append_rest c cs
  unfold lexeme at hCut ⊢
  split_ifs at hCut ⊢ with hAlpha hDigit hQuote
  · have hKind : LexicalRule.word.kind? (Lexeme.word c cs).text = some (Lexeme.word c cs).kind :=
      congrArg some (Lexeme.kind_word c cs).symm
    exact hKind ▸ .matched (LexicalRule.longest_word hAlpha cs) hCut
  · obtain ⟨hLongest, hKind⟩ := LexicalRule.longest_number hDigit cs
    exact hKind ▸ .matched hLongest hCut
  · obtain ⟨hLongest, hKind⟩ := LexicalRule.longest_string cs
    exact hKind ▸ .matched hLongest hCut
  · have hSign := LexicalRule.Start.of_sign hFeed hBlank hAlpha hDigit hQuote
    change Lexeme.text (.sign c cs) ++ Lexeme.rest (.sign c cs) = c :: cs at hCut
    cases hFind : Symbol.operators.find? fun symbol => symbol.name.toList.isPrefixOf (c :: cs) with
    | some symbol =>
      rw [Lexeme.sign_of_find?_eq_some hFind] at hCut ⊢
      exact .matched (LexicalRule.longest_operator hSign hComment hFind) hCut
    | none =>
      rw [Lexeme.sign_of_find?_eq_none hFind]
      exact .unmatched (LexicalRule.unmatched_of_find?_eq_none hSign hComment hFind) rfl

end TallyCheck
