import TallyCheck.Proofs.LongestMatch

/-! # What the scanner munches

Asked for a token anywhere in a text, the scanner skips longest matches that are no tokens, counts
their lines, and takes the first longest match that is one or is wrong.
-/
namespace TallyCheck
set_option autoImplicit false

theorem exists_longestMatch_of_gap {c : Char} {cs : List Char}
    (hGap : c = '\n' ∨ Gap.isBlank c = true ∨ (c = '/' ∧ cs.head? = some '/')) (line : Nat) :
    ∃ lexeme rest, LongestMatch (c :: cs) none lexeme rest ∧
      Gap.skip false line (c :: cs) = Gap.skip false (line + lexeme.count '\n') rest := by
  rcases hGap with rfl | hBlank | ⟨rfl, hSlash⟩
  · exact ⟨['\n'], cs, .matched (LexicalRule.longest_lineFeed cs) rfl, rfl⟩
  · have hFront : ∀ d ∈ (c :: cs).takeWhile Gap.isBlank,
        d ≠ '\n' ∧ (false || Gap.isBlank d) = true := by
      intro d hMem
      have hInner := List.mem_takeWhile_imp hMem
      refine ⟨?_, hInner⟩
      rintro rfl
      cases hInner
    have hSkip := Gap.skip_append hFront line ((c :: cs).dropWhile Gap.isBlank)
    rw [List.takeWhile_append_dropWhile] at hSkip
    refine ⟨_, _, .matched (LexicalRule.longest_blanks hBlank) List.takeWhile_append_dropWhile, ?_⟩
    rwa [List.count_eq_zero.mpr fun hMem => (hFront _ hMem).1 rfl, Nat.add_zero]
  · obtain ⟨cs, rfl⟩ := List.head?_eq_some_iff.mp hSlash
    have hFront : ∀ d ∈ '/' :: '/' :: cs.takeWhile (· ≠ '\n'),
        d ≠ '\n' ∧ (true || Gap.isBlank d) = true := by
      rintro d (_ | ⟨_, _ | ⟨_, hMem⟩⟩)
      · exact ⟨by decide, rfl⟩
      · exact ⟨by decide, rfl⟩
      · have hInner := List.mem_takeWhile_imp hMem
        exact ⟨of_decide_eq_true hInner, rfl⟩
    have hCut : '/' :: '/' :: cs
        = '/' :: '/' :: cs.takeWhile (· ≠ '\n') ++ cs.dropWhile (· ≠ '\n') := by
      rw [List.cons_append, List.cons_append, List.takeWhile_append_dropWhile]
    refine ⟨_, _, .matched (LexicalRule.longest_comment cs) hCut.symm, ?_⟩
    rw [List.count_eq_zero.mpr fun hMem => (hFront _ hMem).1 rfl, Nat.add_zero,
      ← Gap.skip_dropWhile, ← Gap.skip_append hFront, ← hCut]
    rfl

/-- The answer, the line and the text left over that longest matches give on a text that begins on
a line. -/
inductive Munches : Nat → List Char → Except ScanError Token → Nat → List Char → Prop where
  | atEnd (line : Nat) : Munches line [] (.ok (.endOfInput line)) line []
  | skipped {line last : Nat} {text lexeme rest left : List Char}
      {answer : Except ScanError Token} (skip : LongestMatch text none lexeme rest)
      (next : Munches (line + lexeme.count '\n') rest answer last left) :
      Munches line text answer last left
  | taken {line : Nat} {text : List Char} {found : Lexeme}
      (take : LongestMatch text (some found.kind) found.text found.rest) :
      Munches line text (found.answer line) line found.rest

theorem Munches.unique {line last final : Nat} {text rest left : List Char}
    {answer other : Except ScanError Token} (h : Munches line text answer last rest)
    (hOther : Munches line text other final left) :
    answer = other ∧ last = final ∧ rest = left := by
  induction h with
  | atEnd =>
    cases hOther with
    | atEnd => exact ⟨rfl, rfl, rfl⟩
    | skipped hSkip | taken hSkip => exact absurd rfl hSkip.text_ne_nil
  | skipped hSkip _ ih =>
    cases hOther with
    | atEnd => exact absurd rfl hSkip.text_ne_nil
    | skipped hSecond hNext =>
      obtain ⟨-, rfl, rfl⟩ := hSkip.unique hSecond
      exact ih hNext
    | taken hTake => cases (hSkip.unique hTake).1
  | @taken line text found hTake =>
    cases hOther with
    | atEnd => exact absurd rfl hTake.text_ne_nil
    | skipped hSkip => cases (hTake.unique hSkip).1
    | @taken _ _ second hSecond =>
      obtain ⟨hKind, hText, hRest⟩ := hTake.unique hSecond
      obtain ⟨kind, text, rest⟩ := found
      cases hKind
      cases hText
      cases hRest
      exact ⟨rfl, rfl, rfl⟩

theorem munches_next (finished : Bool) (text : List Char) (line : Nat) :
    Munches line text (Scanner.mk text line finished).next.1
      (Scanner.mk text line finished).next.2.line (Scanner.mk text line finished).next.2.rest := by
  induction hLength : text.length using Nat.strong_induction_on generalizing text line with
  | _ length ih =>
    cases text with
    | nil => exact .atEnd line
    | cons c cs =>
      by_cases hGap : c = '\n' ∨ Gap.isBlank c = true ∨ (c = '/' ∧ cs.head? = some '/')
      · obtain ⟨lexeme, rest, hSkip, hEq⟩ := exists_longestMatch_of_gap hGap line
        have hShorter : rest.length < length := hLength ▸ hSkip.rest_length_lt
        have hNext := ih rest.length hShorter rest (line + lexeme.count '\n') rfl
        unfold Scanner.next at hNext ⊢
        simp only [hEq] at hNext ⊢
        exact .skipped hSkip hNext
      · rw [not_or, not_or] at hGap
        obtain ⟨hFeed, hBlank, hComment⟩ := hGap
        have hEq : Gap.skip false line (c :: cs) = (line, c :: cs) := by
          rw [Gap.skip, if_neg hFeed, if_neg (by simpa using hBlank), if_neg hComment]
        unfold Scanner.next
        simp only [hEq]
        exact .taken (lexeme_longestMatch hFeed hBlank hComment)

theorem Scanner.munches (scanner : Scanner) : Munches scanner.line scanner.rest scanner.next.1
    scanner.next.2.line scanner.next.2.rest :=
  munches_next scanner.finished scanner.rest scanner.line

namespace LexicalRule

theorem Matches.keyword?_eq_none {rule : LexicalRule} {text : List Char} (h : rule.Matches text)
    (hKind : rule.kind? text = some (.ok .identifier)) :
    Symbol.keyword? (String.ofList text) = none := by
  cases h with
  | word hLetter hInner =>
    cases hKeyword : Symbol.keyword? (String.ofList _) with
    | none => rfl
    | some symbol =>
      have hSymbol : (some symbol).getD .identifier = .identifier := by
        rw [← hKeyword]
        exact Except.ok.inj (Option.some.inj hKind)
      have hMem := ((Symbol.keyword?_eq_some_iff _ symbol).mp hKeyword).1
      rw [Option.getD_some] at hSymbol
      rw [hSymbol] at hMem
      exact absurd hMem (by decide)
  | fixed hLiteral =>
    cases hKind
    cases hLiteral
  | whole | fraction | closed | unclosed =>
    rw [kind?] at hKind
    split_ifs at hKind
    all_goals cases hKind
  | blanks | lineFeed | comment => cases hKind

theorem kind?_ne_incompleteOperator (rule : LexicalRule) (text : List Char) (expected : Symbol)
    (found : Option Char) :
    rule.kind? text ≠ some (.error (.incompleteOperator expected found)) := by
  intro hKind
  cases rule with
  | number | string =>
    rw [kind?] at hKind
    split_ifs at hKind
    all_goals cases hKind
  | _ => cases hKind

theorem Unmatched.following_ne {c : Char} {cs : List Char} {expected : Symbol}
    {found : Option Char} (h : Unmatched (c :: cs))
    (hFault : Fault.ofUnmatched c cs.head? = .incompleteOperator expected found) :
    found = cs.head? ∧ found ≠ some '=' := by
  unfold Fault.ofUnmatched at hFault
  split_ifs at hFault with hColon hMark
  · cases hFault
    refine ⟨rfl, fun hEqual => ?_⟩
    obtain ⟨rest, rfl⟩ := List.head?_eq_some_iff.mp hEqual
    exact h (.fixed .becomes) [':', '='] rest (by rw [hColon]; rfl) (.fixed rfl nofun)
  · cases hFault
    refine ⟨rfl, fun hEqual => ?_⟩
    obtain ⟨rest, rfl⟩ := List.head?_eq_some_iff.mp hEqual
    exact h (.fixed .notEqual) ['!', '='] rest (by rw [hMark]; rfl) (.fixed rfl nofun)

end LexicalRule

namespace LongestMatch

variable {text lexeme rest : List Char} {kind : Option (Except Fault Symbol)}

theorem keyword?_eq_none (h : LongestMatch text kind lexeme rest)
    (hKind : kind = some (.ok .identifier)) : Symbol.keyword? (String.ofList lexeme) = none := by
  cases h with
  | matched hLongest _ => exact hLongest.matched.keyword?_eq_none hKind
  | unmatched => cases hKind

theorem following_ne {expected : Symbol} {found : Option Char}
    (h : LongestMatch text kind lexeme rest)
    (hKind : kind = some (.error (.incompleteOperator expected found))) :
    found = rest.head? ∧ found ≠ some '=' := by
  cases h with
  | @matched rule => exact absurd hKind (rule.kind?_ne_incompleteOperator lexeme expected found)
  | unmatched hNone hCut =>
    subst hCut
    exact hNone.following_ne (Except.error.inj (Option.some.inj hKind))

end LongestMatch

theorem Munches.endOfInput_or_longestMatch {line last : Nat} {text rest : List Char}
    {answer : Except ScanError Token} (h : Munches line text answer last rest) :
    answer = .ok (.endOfInput last) ∨ ∃ front found, answer = Lexeme.answer found last ∧
      LongestMatch front (some found.kind) found.text found.rest ∧ found.rest = rest := by
  induction h with
  | atEnd => exact .inl rfl
  | skipped _ _ ih => exact ih
  | taken hTake => exact .inr ⟨_, _, rfl, hTake, rfl⟩

namespace Scanner

/-- At the text it stands before, whatever happened before it, the scanner munches as much as any
rule matches.  A word that is reserved is no identifier, and what an incomplete operator was
followed by did not complete it. -/
theorem next_eq_iff_munches (scanner : Scanner) :
    (∀ answer line rest, scanner.next = (answer, { scanner with rest, line }) ↔
      Munches scanner.line scanner.rest answer line rest) ∧
    (∀ token, scanner.next.1 = .ok token → token.symbol = .identifier →
      Symbol.keyword? token.text = none) ∧
    ∀ expected found line, scanner.next.1 = .error ⟨.incompleteOperator expected found, line⟩ →
      found = scanner.next.2.rest.head? ∧ found ≠ some '=' := by
  obtain ⟨text, start, finished⟩ := scanner
  have hMunches := munches_next finished text start
  have hFinished := finished_next ⟨text, start, finished⟩
  refine ⟨fun answer line rest => ⟨fun hNext => ?_, fun h => ?_⟩, fun token hToken hSymbol => ?_,
    fun expected found line hError => ?_⟩
  · rwa [hNext] at hMunches
  · obtain ⟨hAnswer, hLine, hRest⟩ := hMunches.unique h
    subst hLine hRest
    exact Prod.ext hAnswer (congrArg (Scanner.mk _ _) hFinished)
  · obtain hEnd | ⟨front, lexeme, hAnswer, hMatch, -⟩ := hMunches.endOfInput_or_longestMatch
    · cases hToken.symm.trans hEnd
      cases hSymbol
    · obtain ⟨hKind, hText⟩ := Lexeme.answer_eq_ok (hAnswer.symm.trans hToken)
      rw [hSymbol] at hKind hText
      rw [hText, Token.text_ofText_of_literal rfl]
      exact hMatch.keyword?_eq_none (congrArg some hKind)
  · obtain hEnd | ⟨front, lexeme, hAnswer, hMatch, hRest⟩ := hMunches.endOfInput_or_longestMatch
    · cases hError.symm.trans hEnd
    · rw [← hRest]
      exact hMatch.following_ne
        (congrArg some (Lexeme.answer_eq_error (hAnswer.symm.trans hError)))

/-- A word that only begins like a reserved one, and a colon without its sign. -/
theorem beginning_next_eq_iff_munches :
    Munches 2 "\n beginning".toList (.ok (.ofText .identifier "beginning" 3)) 3 [] ∧
      Symbol.keyword? "beginning" = none ∧ some 'x' ≠ some '=' :=
  ⟨((next_eq_iff_munches ⟨"\n beginning".toList, 2, true⟩).1 _ _ _).mp rfl,
    (next_eq_iff_munches ⟨"\n beginning".toList, 2, true⟩).2.1 (.ofText .identifier "beginning" 3)
      rfl rfl,
    ((next_eq_iff_munches ⟨":x".toList, 0, false⟩).2.2 .becomes (some 'x') 0 rfl).2⟩

end Scanner
end TallyCheck
