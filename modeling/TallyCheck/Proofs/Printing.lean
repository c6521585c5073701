import TallyCheck.Proofs.Separation

/-! # Printing

Tokens are printed by their texts, a blank before each, and by line feeds up to the line of each.
Scanning what is printed gives back the tokens; and whatever a text is scanned to can be printed.
-/
namespace TallyCheck
set_option autoImplicit false

/-- The text of a token, when the text before it has reached `line`.  An end of the input has no
text of its own. -/
def Token.print (line : Nat) (token : Token) : List Char :=
  List.replicate (token.line - line) '\n' ++
    if token.symbol = .endOfInput then [] else ' ' :: token.text.toList

def printFrom (line : Nat) : List Token → List Char
  | [] => []
  | token :: tokens => token.print line ++ printFrom token.line tokens

def print (tokens : List Token) : String := String.ofList (printFrom 0 tokens)

@[simp] theorem printFrom_singleton (line : Nat) (token : Token) :
    printFrom line [token] = token.print line := List.append_nil _

/-- Tokens that can be read, from `line` on and each on the line of the one before or below it, and
the end of the input behind them. -/
inductive Printable : Nat → List Token → Prop where
  | last {line last : Nat} (below : line ≤ last) : Printable line [.endOfInput last]
  | cons {line : Nat} {token : Token} {tokens : List Token} (scannable : token.Scannable)
      (below : line ≤ token.line) (rest : Printable token.line tokens) :
      Printable line (token :: tokens)

theorem Token.Scannable.symbol_ne {token : Token} (h : token.Scannable) :
    token.symbol ≠ .endOfInput := by
  cases h with
  | fixed _ _ hEnd => exact hEnd
  | identifier | whole | fraction | string => exact nofun

theorem Token.Scannable.print_eq {token : Token} (h : token.Scannable) (line : Nat) :
    token.print line = List.replicate (token.line - line) '\n' ++ ' ' :: token.text.toList := by
  rw [print, if_neg h.symbol_ne]

theorem Token.print_endOfInput (line last : Nat) :
    (endOfInput last).print line = List.replicate (last - line) '\n' := by
  rw [print, if_pos (symbol_endOfInput last), List.append_nil, line_endOfInput]

theorem Separated.lineFeeds {text : List Char} (h : Separated text) (count : Nat) :
    Separated (List.replicate count '\n' ++ text) := by
  cases count with
  | zero => exact h
  | succ count =>
    intro c hHead
    cases hHead
    exact .inr rfl

theorem Printable.separated {line : Nat} {tokens : List Token} (h : Printable line tokens) :
    Separated (printFrom line tokens) := by
  cases h with
  | @last line last _ =>
    have hFeeds := separated_nil.lineFeeds (last - line)
    rwa [printFrom_singleton, Token.print_endOfInput, ← List.append_nil (List.replicate _ _)]
  | cons hToken _ _ =>
    rw [printFrom, hToken.print_eq, List.append_assoc, List.cons_append]
    apply Separated.lineFeeds
    intro c hHead
    cases hHead
    exact .inl rfl

theorem Munches.lineFeeds {line last count : Nat} {text left : List Char} {answer : Answer}
    (h : Munches (line + count) text answer last left) :
    Munches line (List.replicate count '\n' ++ text) answer last left := by
  induction count generalizing line with
  | zero => exact h
  | succ count ih =>
    have hLine : line + ['\n'].count '\n' + count = line + (count + 1) := by
      rw [List.count_singleton_self]
      omega
    refine .skipped (.matched (LexicalRule.longest_lineFeed _) rfl) (ih ?_)
    rwa [hLine]

theorem Gap.isBlank_head_of_matches {rule : LexicalRule} {text : List Char}
    (h : rule.Matches text) (hKind : rule.kind? text ≠ none) :
    ∃ c cs, text = c :: cs ∧ isBlank c = false := by
  obtain ⟨c, cs, hText, hStart⟩ := h.start_eq
  refine ⟨c, cs, hText, ?_⟩
  by_contra hBlank
  rw [Bool.not_eq_false] at hBlank
  have hSame : rule.start = LexicalRule.blanks.start :=
    hStart.symm.trans (LexicalRule.Start.of_isBlank hBlank)
  cases LexicalRule.eq_of_start_eq hSame nofun nofun
  exact hKind rfl

theorem Munches.blank {line last : Nat} {c : Char} {cs left : List Char} {answer : Answer}
    (hBlank : Gap.isBlank c = false) (h : Munches line (c :: cs) answer last left) :
    Munches line (' ' :: c :: cs) answer last left := by
  have hText : [' '] ++ c :: cs = ' ' :: c :: cs := rfl
  have hFront : ∀ d ∈ [' '], Gap.isBlank d = true := by simp [Gap.isBlank]
  have hLongest : LexicalRule.blanks.Longest ((' ' :: c :: cs).takeWhile Gap.isBlank)
      ((' ' :: c :: cs).dropWhile Gap.isBlank) := LexicalRule.longest_blanks rfl
  obtain ⟨hTake, hDrop⟩ := LexicalRule.span_eq_of_stop hText hFront hBlank
  rw [hTake, hDrop] at hLongest
  exact .skipped (.matched hLongest hText) h

theorem Lexeme.answer_token (token : Token) (rest : List Char) :
    (mk (.ok token.symbol) token.text.toList rest).answer token.line = .ok token := by
  change Except.ok (Token.ofText token.symbol (String.ofList token.text.toList) token.line) = _
  rw [String.ofList_toList, Token.ofText_self]

theorem Token.Scannable.munches {token : Token} (h : token.Scannable) {line : Nat}
    (hLine : line ≤ token.line) {rest : List Char} (hRest : Separated rest) :
    Munches line (token.print line ++ rest) (.ok token) token.line rest := by
  have hTaken : Munches token.line (token.text.toList ++ rest)
      ((Lexeme.mk (.ok token.symbol) token.text.toList rest).answer token.line) token.line rest :=
    .taken (h.longestMatch hRest)
  rw [Lexeme.answer_token] at hTaken
  obtain ⟨rule, hMatched, hKind⟩ := h.exists_rule
  obtain ⟨c, cs, hText, hBlank⟩ :=
    Gap.isBlank_head_of_matches hMatched (hKind ▸ Option.some_ne_none _)
  rw [h.print_eq, List.append_assoc]
  apply Munches.lineFeeds
  rw [Nat.add_sub_cancel' hLine]
  rw [hText] at hTaken ⊢
  exact .blank hBlank hTaken

theorem munches_endOfInput {line last : Nat} (h : line ≤ last) :
    Munches line ((Token.endOfInput last).print line) (.ok (.endOfInput last)) last [] := by
  rw [Token.print_endOfInput, ← List.append_nil (List.replicate _ _)]
  apply Munches.lineFeeds
  rw [Nat.add_sub_cancel' h]
  exact .atEnd last

namespace Scanner

theorem next_of_munches {line last : Nat} {text rest : List Char} {answer : Answer}
    (h : Munches line text answer last rest) (finished : Bool) :
    (Scanner.mk text line finished).next = (answer, ⟨rest, last, finished⟩) := by
  obtain ⟨hAnswer, hLine, hRest⟩ := (munches_next finished text line).unique h
  have hFinished := finished_next ⟨text, line, finished⟩
  generalize (Scanner.mk text line finished).next = found at hAnswer hLine hRest hFinished
  obtain ⟨other, left, reached, ended⟩ := found
  cases hAnswer
  cases hLine
  cases hRest
  cases hFinished
  rfl

theorem next_eq_of_munches {scanner next : Scanner} {answer : Answer}
    (h : Munches scanner.line scanner.rest answer next.line next.rest)
    (hFinished : next.finished = scanner.finished) : scanner.next = (answer, next) := by
  obtain ⟨rest, line, finished⟩ := next
  subst hFinished
  exact next_of_munches h scanner.finished

theorem readAll_printFrom {line : Nat} {tokens : List Token} (h : Printable line tokens)
    (finished : Bool) : (Scanner.mk (printFrom line tokens) line finished).readAll =
      (tokens, none) := by
  induction h with
  | @last line last hBelow =>
    have hMunches := munches_endOfInput hBelow
    rw [printFrom_singleton,
      readAll_of_token (congrArg Prod.fst (next_of_munches hMunches finished)),
      if_pos (Token.symbol_endOfInput last)]
  | cons hToken hBelow hRest ih =>
    have hNext := next_of_munches (hToken.munches hBelow hRest.separated) finished
    rw [printFrom, readAll_of_token (congrArg Prod.fst hNext), if_neg hToken.symbol_ne, hNext, ih]

theorem scannable_of_next {scanner : Scanner} {token : Token} (h : scanner.next.1 = .ok token)
    (hEnd : token.symbol ≠ .endOfInput) : token.Scannable := by
  obtain hLast | ⟨front, found, hAnswer, hMatch, -⟩ :=
    scanner.munches.endOfInput_or_longestMatch
  · cases h.symm.trans hLast
    exact absurd (Token.symbol_endOfInput _) hEnd
  · obtain ⟨hKind, hToken⟩ := Lexeme.answer_eq_ok (hAnswer.symm.trans h)
    rw [hKind] at hMatch
    rw [hToken]
    exact hMatch.scannable _

theorem line_of_next {scanner : Scanner} {token : Token} (h : scanner.next.1 = .ok token) :
    scanner.line ≤ token.line ∧ token.line = scanner.next.2.line := by
  obtain ⟨gap, lexeme, -, -, -, -, hLast, hLine⟩ := scanner.munches.exists_gap
  have hToken : token.line = scanner.next.2.line := by
    change Answer.line scanner.next.1 = scanner.next.2.line at hLine
    rw [h] at hLine
    exact hLine
  have hReached : scanner.next.2.line = scanner.line + gap.count '\n' := hLast
  omega

theorem printable_readAll {scanner : Scanner} (h : scanner.readAll.2 = none) :
    Printable scanner.line scanner.readAll.1 := by
  fun_induction readAll scanner with
  | case1 => cases h
  | case2 scanner token hToken hEnd =>
    rw [Token.eq_endOfInput hEnd]
    exact .last (line_of_next hToken).1
  | case3 scanner token hToken hEnd tokens rest hRest ih =>
    obtain ⟨hBelow, hReached⟩ := line_of_next hToken
    rw [hRest, ← hReached] at ih
    exact .cons (scannable_of_next hToken hEnd) hBelow (ih h)

end Scanner

theorem printable_of_tokenize {source : String} {tokens : List Token}
    (h : tokenize source = .ok tokens) : Printable 0 tokens := by
  have hRead := readAll_of_tokenize h
  have hPrintable := Scanner.printable_readAll (congrArg Prod.snd hRead)
  rwa [hRead] at hPrintable

theorem tokenize_print_of_printable {tokens : List Token} (h : Printable 0 tokens) :
    tokenize (print tokens) = .ok tokens := by
  have hScanner : Scanner.ofString (print tokens) = ⟨printFrom 0 tokens, 0, false⟩ := by
    rw [Scanner.ofString, print, String.toList_ofList]
  rw [tokenize, hScanner, Scanner.readAll_printFrom h]

/-- Scanning gives back what is printed, and only printable tokens; so that printing what has been
scanned leads to the same tokens again. -/
theorem tokenize_print :
    (∀ tokens, tokenize (print tokens) = .ok tokens ↔ Printable 0 tokens) ∧
    (∀ source tokens, tokenize source = .ok tokens →
      Printable 0 tokens ∧ tokenize (print tokens) = tokenize source) := by
  constructor
  · intro tokens
    exact ⟨printable_of_tokenize, tokenize_print_of_printable⟩
  · intro source tokens hTokens
    have hPrintable := printable_of_tokenize hTokens
    rw [hTokens]
    exact ⟨hPrintable, tokenize_print_of_printable hPrintable⟩

def crowded : String := "begin// one\n\n\tx_1:=\"// :\r\"\n/1.50\n\n"

def crowdedTokens : List Token :=
  [.fixed .beginWord 0, .ofText .identifier "x_1" 2, .fixed .becomes 2,
    .ofText .stringConstant "\"// :\r\"" 2, .fixed .divide 3, .ofText .numberConstant "1.50" 3,
    .endOfInput 5]

theorem crowded_tokenize_print :
    tokenize crowded = .ok crowdedTokens ∧ Printable 0 crowdedTokens ∧
      print crowdedTokens = " begin\n\n x_1 := \"// :\r\"\n / 1.50\n\n" ∧
      tokenize (print crowdedTokens) = tokenize crowded := by
  have hTokens : tokenize crowded = .ok crowdedTokens := by decide +kernel
  have hText : print crowdedTokens = " begin\n\n x_1 := \"// :\r\"\n / 1.50\n\n" := by
    decide +kernel
  obtain ⟨hPrintable, hAgain⟩ := tokenize_print.2 crowded crowdedTokens hTokens
  exact ⟨hTokens, hPrintable, hText, hAgain⟩

end TallyCheck
