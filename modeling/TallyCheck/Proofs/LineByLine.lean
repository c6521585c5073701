import TallyCheck.Proofs.Printing
import TallyCheck.Proofs.Tiling

/-! # Scanning line by line

No lexical rule goes on over a line feed, and the one that matches a line feed matches nothing more.
So what stands before a line feed is scanned as if the text ended there, and what stands behind it
as if the text began there, but for the lines counted.
-/
namespace TallyCheck
set_option autoImplicit false

namespace LexicalRule

variable {rule : LexicalRule} {text lexeme rest front behind : List Char}

theorem Matches.eq_of_feed_mem (h : rule.Matches text) (hMem : '\n' ∈ text) : text = ['\n'] := by
  have hKind : rule.kind? text = none := by
    by_contra hSome
    exact h.feed_not_mem hSome hMem
  cases h with
  | lineFeed => rfl
  | blanks _ hInner => exact absurd (hInner '\n' hMem) (by decide)
  | comment hInner => simp [hInner] at hMem
  | fixed | word | whole | fraction | closed | unclosed => cases hKind

/-- Of a text that goes on behind a line feed, a rule matches no more than of the text before it. -/
theorem Matches.exists_cut (h : rule.Matches front) (hNe : text ≠ []) {back : List Char}
    (hText : front ++ behind = text ++ '\n' :: back) : ∃ cut, front ++ cut = text := by
  rcases List.append_eq_append_iff.mp hText with ⟨cut, hCut, -⟩ | ⟨beyond, hFront, hBeyond⟩
  · exact ⟨cut, hCut.symm⟩
  · cases beyond with
    | nil => exact ⟨[], by rw [hFront, List.append_nil, List.append_nil]⟩
    | cons c more =>
      obtain rfl : '\n' = c := (List.cons.inj hBeyond).1
      have hAlone : front = ['\n'] := h.eq_of_feed_mem (by simp [hFront])
      rw [hAlone] at hFront
      have hLength := congrArg List.length hFront
      have hPos := List.length_pos_iff.mpr hNe
      simp only [List.length_append, List.length_cons, List.length_nil] at hLength
      omega

theorem Longest.append_line (h : rule.Longest lexeme rest) (back : List Char) :
    rule.Longest lexeme (rest ++ '\n' :: back) where
  matched := h.matched
  longest other front behind hText hOther := by
    obtain ⟨c, cs, hLexeme, -⟩ := h.matched.start_eq
    have hNe : lexeme ++ rest ≠ [] := by simp [hLexeme]
    rw [← List.append_assoc] at hText
    obtain ⟨cut, hCut⟩ := hOther.exists_cut hNe hText
    exact h.longest other front cut hCut hOther

theorem Unmatched.append_line (h : Unmatched text) (hNe : text ≠ []) (back : List Char) :
    Unmatched (text ++ '\n' :: back) := by
  intro rule front behind hText hMatches
  obtain ⟨cut, hCut⟩ := hMatches.exists_cut hNe hText
  exact h rule front cut hCut hMatches

end LexicalRule

/-- The fault when a line feed follows what was the end of the text.  Half an operator shows it. -/
def Fault.beforeLine : Fault → Fault
  | incompleteOperator expected none => incompleteOperator expected (some '\n')
  | fault => fault

def ScanError.beforeLine (error : ScanError) : ScanError :=
  { error with fault := error.fault.beforeLine }

theorem Fault.ofUnmatched_beforeLine (c : Char) (cs back : List Char) :
    ofUnmatched c (cs ++ '\n' :: back).head? = (ofUnmatched c cs.head?).beforeLine := by
  unfold ofUnmatched
  cases cs <;> split_ifs <;> rfl

theorem LexicalRule.kind?_beforeLine (rule : LexicalRule) (text : List Char) :
    (rule.kind? text).map (Except.mapError Fault.beforeLine) = rule.kind? text := by
  cases rule with
  | number | string =>
    rw [kind?]
    split_ifs <;> rfl
  | _ => rfl

theorem LongestMatch.append_line {text lexeme rest : List Char}
    {kind : Option (Except Fault Symbol)} (h : LongestMatch text kind lexeme rest)
    (back : List Char) :
    LongestMatch (text ++ '\n' :: back) (kind.map (Except.mapError Fault.beforeLine)) lexeme
      (rest ++ '\n' :: back) := by
  have hNe := h.text_ne_nil
  cases h with
  | @matched rule _ _ hLongest hCut =>
    rw [rule.kind?_beforeLine]
    exact .matched (hLongest.append_line back) (by rw [← hCut, List.append_assoc])
  | @unmatched c _ hNone hCut =>
    have hMatch : LongestMatch (text ++ '\n' :: back) _ [c] (rest ++ '\n' :: back) :=
      .unmatched (hNone.append_line hNe back) (by rw [hCut, List.cons_append])
    rwa [Fault.ofUnmatched_beforeLine] at hMatch

theorem LongestMatch.symbol_ne {text : List Char} {found : Lexeme} {line : Nat} {token : Token}
    (h : LongestMatch text (some found.kind) found.text found.rest)
    (hAnswer : found.answer line = .ok token) : token.symbol ≠ .endOfInput := by
  have hSpans := h.spans line
  rw [hAnswer] at hSpans
  generalize found.text = span at hSpans
  cases hSpans with
  | token hEnd => exact hEnd

namespace Munches

variable {line last : Nat} {text left : List Char} {answer : Answer}

theorem append_line (h : Munches line text answer last left)
    (hMore : ∀ token, answer = .ok token → token.symbol ≠ .endOfInput) (back : List Char) :
    Munches line (text ++ '\n' :: back) (answer.mapError ScanError.beforeLine) last
      (left ++ '\n' :: back) := by
  induction h with
  | atEnd line => exact absurd rfl (hMore _ rfl)
  | skipped hSkip _ ih => exact .skipped (hSkip.append_line back) (ih hMore)
  | @taken line text found hTake =>
    obtain ⟨kind, lexeme, rest⟩ := found
    have hLine : LongestMatch (text ++ '\n' :: back) (some (kind.mapError Fault.beforeLine)) lexeme
        (rest ++ '\n' :: back) := hTake.append_line back
    have hTaken : Munches line (text ++ '\n' :: back)
        ((Lexeme.mk (kind.mapError Fault.beforeLine) lexeme (rest ++ '\n' :: back)).answer line)
        line (rest ++ '\n' :: back) := .taken hLine
    cases kind with
    | ok symbol => exact hTaken
    | error fault => exact hTaken

theorem append_line_of_end {number final : Nat} {back rest : List Char} {other : Answer}
    (h : Munches line text (.ok (.endOfInput number)) last left)
    (hNext : Munches (last + 1) back other final rest) :
    Munches line (text ++ '\n' :: back) other final rest := by
  generalize hEnd : (Except.ok (Token.endOfInput number) : Answer) = answer at h
  induction h with
  | atEnd line => exact .skipped (.matched (LexicalRule.longest_lineFeed back) rfl) hNext
  | skipped hSkip _ ih => exact .skipped (hSkip.append_line back) (ih hNext hEnd)
  | taken hTake => exact absurd rfl (hTake.symbol_ne hEnd.symm)

end Munches

def Token.down (lines : Nat) (token : Token) : Token := { token with line := token.line + lines }

def ScanError.down (lines : Nat) (error : ScanError) : ScanError :=
  { error with line := error.line + lines }

def Answer.down (lines : Nat) : Answer → Answer
  | .ok token => .ok (token.down lines)
  | .error error => .error (error.down lines)

theorem Lexeme.answer_down (found : Lexeme) (line lines : Nat) :
    found.answer (line + lines) = Answer.down lines (found.answer line) := by
  obtain ⟨kind, text, rest⟩ := found
  cases kind <;> rfl

theorem Munches.down {line last : Nat} {text left : List Char} {answer : Answer}
    (h : Munches line text answer last left) (lines : Nat) :
    Munches (line + lines) text (Answer.down lines answer) (last + lines) left := by
  induction h with
  | atEnd line => exact .atEnd (line + lines)
  | skipped hSkip _ ih =>
    rw [Nat.add_right_comm] at ih
    exact .skipped hSkip ih
  | @taken line text found hTake =>
    rw [← Lexeme.answer_down]
    exact .taken hTake

namespace Scanner

theorem readAll_congr {scanner other : Scanner} (h : scanner.next = other.next) :
    scanner.readAll = other.readAll := by
  cases hAnswer : other.next.1 with
  | error error => rw [readAll_of_error hAnswer, readAll_of_error (h ▸ hAnswer)]
  | ok token => rw [readAll_of_token hAnswer, readAll_of_token (h ▸ hAnswer), h]

def down (lines : Nat) (scanner : Scanner) : Scanner :=
  { scanner with line := scanner.line + lines }

theorem next_down (scanner : Scanner) (lines : Nat) :
    (scanner.down lines).next = (Answer.down lines scanner.next.1, scanner.next.2.down lines) :=
  next_eq_of_munches (scanner.munches.down lines) scanner.finished_next

theorem readAll_down (scanner : Scanner) (lines : Nat) :
    (scanner.down lines).readAll =
      (scanner.readAll.1.map (Token.down lines), scanner.readAll.2.map (ScanError.down lines)) := by
  fun_induction readAll scanner with
  | case1 scanner error hError =>
    have hNext := congrArg Prod.fst (scanner.next_down lines)
    rw [hError] at hNext
    exact readAll_of_error hNext
  | case2 scanner token hToken hEnd =>
    have hNext := congrArg Prod.fst (scanner.next_down lines)
    rw [hToken] at hNext
    exact (readAll_of_token hNext).trans (if_pos hEnd)
  | case3 scanner token hToken hEnd tokens error hRest ih =>
    have hNext := scanner.next_down lines
    rw [hToken] at hNext
    rw [hRest] at ih
    refine (readAll_of_token (congrArg Prod.fst hNext)).trans ((if_neg hEnd).trans ?_)
    rw [hNext, ih]
    rfl

/-- The scanner with a line feed and more text behind its own. -/
def before (back : List Char) (scanner : Scanner) : Scanner :=
  { scanner with rest := scanner.rest ++ '\n' :: back }

theorem next_before {scanner : Scanner}
    (h : ∀ token, scanner.next.1 = .ok token → token.symbol ≠ .endOfInput) (back : List Char) :
    (scanner.before back).next =
      (scanner.next.1.mapError ScanError.beforeLine, scanner.next.2.before back) :=
  next_eq_of_munches (scanner.munches.append_line h back) scanner.finished_next

theorem next_before_of_error {scanner : Scanner} {error : ScanError}
    (h : scanner.next.1 = .error error) (back : List Char) :
    (scanner.before back).next.1 = .error error.beforeLine := by
  rw [next_before (by simp [h]), h]
  rfl

theorem next_before_of_token {scanner : Scanner} {token : Token} (h : scanner.next.1 = .ok token)
    (hEnd : token.symbol ≠ .endOfInput) (back : List Char) :
    (scanner.before back).next = (.ok token, scanner.next.2.before back) := by
  rw [next_before (by simpa [h] using hEnd), h]
  rfl

/-- The scanner that has come to the line behind its text. -/
def behind (back : List Char) (scanner : Scanner) : Scanner where
  rest := back
  line := scanner.line + scanner.rest.count '\n' + 1
  finished := scanner.finished

theorem behind_next (scanner : Scanner) (back : List Char) :
    scanner.next.2.behind back = scanner.behind back := by
  simp only [behind, line_next, finished_next]

theorem next_before_of_end {scanner : Scanner} {token : Token} (h : scanner.next.1 = .ok token)
    (hEnd : token.symbol = .endOfInput) (back : List Char) :
    (scanner.before back).next = (scanner.behind back).next := by
  have hLine := scanner.line_next
  rw [(next_of_end h hEnd).2, List.count_nil, Nat.add_zero] at hLine
  have hMunches := scanner.munches
  rw [h, Token.eq_endOfInput hEnd, hLine] at hMunches
  have hBehind := (scanner.behind back).munches
  exact next_eq_of_munches (hMunches.append_line_of_end hBehind)
    (scanner.behind back).finished_next

theorem readAll_before_of_error {scanner : Scanner} {error : ScanError}
    (h : scanner.readAll.2 = some error) (back : List Char) :
    (scanner.before back).readAll = (scanner.readAll.1, some error.beforeLine) := by
  fun_induction readAll scanner with
  | case1 scanner error hError =>
    cases h
    exact readAll_of_error (next_before_of_error hError back)
  | case2 => cases h
  | case3 scanner token hToken hEnd tokens rest hRest ih =>
    have hNext := next_before_of_token hToken hEnd back
    rw [hRest] at ih
    rw [readAll_of_token (congrArg Prod.fst hNext), if_neg hEnd, hNext, ih h]

theorem readAll_before_of_end {scanner : Scanner} (h : scanner.readAll.2 = none)
    (back : List Char) :
    (scanner.before back).readAll =
      (Token.beforeEnd scanner.readAll.1 ++ (scanner.behind back).readAll.1,
        (scanner.behind back).readAll.2) := by
  fun_induction readAll scanner with
  | case1 => cases h
  | case2 scanner token hToken hEnd =>
    rw [readAll_congr (next_before_of_end hToken hEnd back)]
    simp [Token.beforeEnd, hEnd]
  | case3 scanner token hToken hEnd tokens rest hRest ih =>
    have hNext := next_before_of_token hToken hEnd back
    rw [hRest] at ih
    rw [readAll_of_token (congrArg Prod.fst hNext), if_neg hEnd, hNext, ih h, behind_next]
    simp [Token.beforeEnd, hEnd]

end Scanner

/-- A text that goes on behind a line feed is scanned to the tokens of both parts, those of the
second on the lines where they then stand.  What is wrong with the first is wrong with the whole;
half an operator at its end is followed by the line feed. -/
theorem tokenize_append_line (front back : String) :
    tokenize (front ++ "\n" ++ back) = do
      let tokens ← (tokenize front).mapError ScanError.beforeLine
      let lines := front.toList.count '\n' + 1
      let more ← (tokenize back).mapError (ScanError.down lines)
      return Token.beforeEnd tokens ++ more.map (Token.down lines) := by
  have hWhole : Scanner.ofString (front ++ "\n" ++ back) =
      (Scanner.ofString front).before back.toList := by
    simp [Scanner.ofString, Scanner.before]
  have hBehind : (Scanner.ofString front).behind back.toList =
      (Scanner.ofString back).down (front.toList.count '\n' + 1) := by
    simp [Scanner.ofString, Scanner.behind, Scanner.down]
  cases hFront : tokenize front with
  | error error =>
    have hRead := Scanner.readAll_before_of_error (readAll_of_tokenize_error hFront) back.toList
    rw [tokenize, hWhole, hRead]
    rfl
  | ok tokens =>
    have hTokens := readAll_of_tokenize hFront
    have hRead := Scanner.readAll_before_of_end (congrArg Prod.snd hTokens) back.toList
    rw [hTokens, hBehind, Scanner.readAll_down] at hRead
    rw [tokenize, hWhole, hRead]
    cases hBack : tokenize back with
    | error error =>
      rw [readAll_of_tokenize_error hBack]
      rfl
    | ok more =>
      rw [readAll_of_tokenize hBack]
      rfl

example : tokenize ("x :" ++ "\n" ++ "= 1") =
    .error ⟨.incompleteOperator .becomes (some '\n'), 0⟩ := by
  decide +kernel

end TallyCheck
