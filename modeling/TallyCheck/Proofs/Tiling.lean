import TallyCheck.Proofs.Spelling
import TallyCheck.Proofs.Stream

/-! # What the scanner cuts a text into

Asked until it answers end-of-input, past all errors, the scanner cuts a text into tiles: a gap, and
the characters that one answer is read from.  Behind the last tile there is only a gap, so that no
character is lost or read twice.
-/
namespace TallyCheck
set_option autoImplicit false

/-- A gap in front of `behind`: blanks, line feeds, and comments that run to the end of their
line. -/
inductive IsGap (behind : List Char) : List Char → Prop where
  | nil : IsGap behind []
  | blank {c : Char} {gap : List Char} (mem : c ∈ [' ', '\t', '\r', '\x0c'])
      (rest : IsGap behind gap) : IsGap behind (c :: gap)
  | lineFeed {gap : List Char} (rest : IsGap behind gap) : IsGap behind ('\n' :: gap)
  | comment {body gap : List Char} (inner : '\n' ∉ body)
      (ends : ∀ c ∈ (gap ++ behind).head?, c = '\n') (rest : IsGap behind gap) :
      IsGap behind ('/' :: '/' :: (body ++ gap))

/-- What an answer that is not the end of the input is read from, in front of `behind`. -/
inductive Answer.Spans (behind : List Char) : Answer → List Char → Prop where
  | token {token : Token} (ne : token.symbol ≠ .endOfInput) :
      Spans behind (.ok token) token.text.toList
  | malformedNumber (number : String) (line : Nat) :
      Spans behind (.error ⟨.malformedNumber number, line⟩) number.toList
  | unexpectedCharacter (c : Char) (line : Nat) :
      Spans behind (.error ⟨.unexpectedCharacter c, line⟩) [c]
  | colon (line : Nat) :
      Spans behind (.error ⟨.incompleteOperator .becomes behind.head?, line⟩) [':']
  | exclamationMark (line : Nat) :
      Spans behind (.error ⟨.incompleteOperator .notEqual behind.head?, line⟩) ['!']
  /-- From the quote up to the end of the line or of the text. -/
  | unterminatedString {body : List Char} (line : Nat) (quote : '"' ∉ body) (feed : '\n' ∉ body)
      (ends : ∀ c ∈ behind.head?, c = '\n') :
      Spans behind (.error ⟨.unterminatedString, line⟩) ('"' :: body)

theorem IsGap.blanks_append {behind gap blanks : List Char} (h : IsGap behind gap)
    (hBlanks : ∀ c ∈ blanks, Gap.isBlank c = true) : IsGap behind (blanks ++ gap) := by
  induction blanks with
  | nil => exact h
  | cons c cs ih =>
    obtain ⟨hFirst, hOthers⟩ := List.forall_mem_cons.mp hBlanks
    exact .blank (by simpa [Gap.isBlank, or_assoc] using hFirst) (ih hOthers)

namespace LongestMatch

variable {text lexeme rest : List Char} {kind : Option (Except Fault Symbol)}

theorem not_matches_append (h : LongestMatch text kind lexeme rest) {c : Char}
    (hHead : c ∈ rest.head?) (rule : LexicalRule) : ¬ rule.Matches (lexeme ++ [c]) := by
  obtain ⟨others, rfl⟩ := List.head?_eq_some_iff.mp hHead
  intro hMatches
  cases h with
  | matched hLongest _ =>
    have hLength := hLongest.longest rule (lexeme ++ [c]) others (by simp) hMatches
    rw [List.length_append] at hLength
    exact absurd hLength (Nat.not_succ_le_self _)
  | @unmatched first _ hNone hCut =>
    exact hNone rule [first, c] others hCut.symm hMatches

theorem isGap_append {behind gap : List Char} (h : LongestMatch text none lexeme (gap ++ behind))
    (hGap : IsGap behind gap) : IsGap behind (lexeme ++ gap) := by
  have hStops (c : Char) (hHead : c ∈ (gap ++ behind).head?) :=
    h.not_matches_append hHead .comment
  generalize hKind : (none : Option (Except Fault Symbol)) = kind at h
  cases h with
  | unmatched => cases hKind
  | matched hLongest _ =>
    cases hLongest.matched with
    | blanks _ hInner => exact hGap.blanks_append hInner
    | lineFeed => exact .lineFeed hGap
    | @comment body hInner =>
      refine .comment hInner (fun c hHead => ?_) hGap
      by_contra hFeed
      have hMore : '\n' ∉ body ++ [c] := by simp [hInner, Ne.symm hFeed]
      exact hStops c hHead (.comment hMore)
    | fixed | word | whole | fraction | closed | unclosed => cases hKind

theorem unterminatedString {body : List Char} (h : LongestMatch text kind ('"' :: body) rest)
    (hInner : ∀ c ∈ body, isStringChar c = true) : ∀ c ∈ rest.head?, c = '\n' := by
  intro c hHead
  by_contra hFeed
  by_cases hQuote : c = '"'
  · subst hQuote
    exact h.not_matches_append hHead .string (.closed hInner)
  · have hMore : ∀ d ∈ body ++ [c], isStringChar d = true := by
      intro d hMem
      rcases List.mem_append.mp hMem with hMem | hMem
      · exact hInner d hMem
      · rw [List.mem_singleton.mp hMem]
        simp [isStringChar, hQuote, hFeed]
    exact h.not_matches_append hHead .string (.unclosed hMore)

theorem spans {found : Lexeme} (h : LongestMatch text (some found.kind) found.text found.rest)
    (line : Nat) : Answer.Spans found.rest (found.answer line) found.text := by
  have hRead := (h.readFrom line).1
  cases hAnswer : found.answer line with
  | ok token =>
    rw [hAnswer] at hRead
    have hText : found.text = token.text.toList := hRead
    rw [hText]
    refine .token fun hEnd => h.lexeme_ne_nil ?_
    rw [hText, Token.eq_endOfInput hEnd]
    rfl
  | error error =>
    have hKind := Lexeme.answer_eq_error hAnswer
    rw [hAnswer] at hRead
    obtain ⟨fault, number⟩ := error
    cases fault with
    | unexpectedCharacter c =>
      have hText : found.text = [c] := hRead
      rw [hText]
      exact .unexpectedCharacter c number
    | malformedNumber text =>
      have hText : found.text = text.toList := hRead
      rw [hText]
      exact .malformedNumber text number
    | incompleteOperator expected sign =>
      rw [hKind] at h
      obtain ⟨rfl, ⟨rfl, hText⟩ | ⟨rfl, hText⟩⟩ := h.incompleteOperator
      · rw [hText]
        exact .colon number
      · rw [hText]
        exact .exclamationMark number
    | unterminatedString =>
      obtain ⟨body, hText, hInner⟩ := hRead
      rw [hText] at h ⊢
      refine .unterminatedString number ?_ ?_ (h.unterminatedString hInner)
      · exact fun hMem => absurd (hInner _ hMem) (by decide)
      · exact fun hMem => absurd (hInner _ hMem) (by decide)

end LongestMatch

namespace Munches

variable {line last : Nat} {text left : List Char} {answer : Answer}

theorem line_add_count (h : Munches line text answer last left) :
    last + left.count '\n' = line + text.count '\n' := by
  induction h with
  | atEnd => rfl
  | skipped hSkip _ ih => rw [ih, ← hSkip.append_eq, List.count_append, Nat.add_assoc]
  | @taken line text found hTake =>
    have hFeed := (hTake.readFrom line).2
    rw [← hTake.append_eq, List.count_append, List.count_eq_zero.mpr hFeed, Nat.zero_add]

theorem exists_span (h : Munches line text answer last left) :
    (answer = .ok (.endOfInput last) ∧ left = [] ∧ IsGap [] text) ∨
      ∃ gap span, text = gap ++ (span ++ left) ∧ IsGap (span ++ left) gap ∧ span ≠ [] ∧
        answer.Spans left span := by
  induction h with
  | atEnd => exact .inl ⟨rfl, rfl, .nil⟩
  | @skipped line last text skipped rest left answer hSkip _ ih =>
    rcases ih with ⟨hAnswer, hLeft, hGap⟩ | ⟨gap, span, hRest, hGap, hNe, hSpan⟩
    · refine .inl ⟨hAnswer, hLeft, ?_⟩
      rw [← hSkip.append_eq]
      rw [← List.append_nil rest] at hSkip
      exact hSkip.isGap_append hGap
    · refine .inr ⟨skipped ++ gap, span, ?_, ?_, hNe, hSpan⟩
      · rw [List.append_assoc, ← hRest, hSkip.append_eq]
      · rw [hRest] at hSkip
        exact hSkip.isGap_append hGap
  | @taken line text found hTake =>
    exact .inr ⟨[], found.text, hTake.append_eq.symm, .nil, hTake.lexeme_ne_nil, hTake.spans line⟩

end Munches

structure Tile where
  gap : List Char
  span : List Char

namespace Tile

def text (tile : Tile) : List Char := tile.gap ++ tile.span

theorem length_lt {tile : Tile} (h : tile.span ≠ []) (left : List Char) :
    left.length < (tile.text ++ left).length := by
  have hSpan := List.length_pos_iff.mpr h
  rw [text, List.length_append, List.length_append]
  omega

end Tile

namespace Scanner

/-- Asked again after `index` answers, the scanner passes over `tile` and stands before `left`. -/
structure Cuts (scanner : Scanner) (index : Nat) (tile : Tile) (left : List Char) : Prop where
  left_eq : (scanner.after (index + 1)).rest = left
  gap : IsGap (tile.span ++ left) tile.gap
  span_ne_nil : tile.span ≠ []
  spans : (scanner.answer index).Spans left tile.span

/-- The answers of a scanner cut the text that it stands before into `tiles`, with `last` behind
them. -/
structure Tiles (scanner : Scanner) (tiles : List Tile) (last : List Char) : Prop where
  rest_eq : scanner.rest = tiles.flatMap Tile.text ++ last
  /-- Before the first end-of-input there is at most one answer for each character. -/
  length_le : tiles.length ≤ scanner.rest.length
  cuts : ∀ before tile behind, tiles = before ++ tile :: behind →
    scanner.Cuts before.length tile (behind.flatMap Tile.text ++ last)
  last_gap : IsGap [] last
  ended : ∀ index, tiles.length ≤ index →
    scanner.answer index = .ok (.endOfInput (scanner.line + scanner.rest.count '\n'))

theorem Cuts.succ {scanner : Scanner} {index : Nat} {tile : Tile} {left : List Char}
    (h : scanner.next.2.Cuts index tile left) : scanner.Cuts (index + 1) tile left where
  left_eq := by
    rw [← after_next]
    exact h.left_eq
  gap := h.gap
  span_ne_nil := h.span_ne_nil
  spans := by
    rw [answer_succ]
    exact h.spans

theorem next_of_rest_eq_nil {scanner : Scanner} (h : scanner.rest = []) :
    scanner.next = (.ok (.endOfInput scanner.line), scanner) := by
  obtain ⟨rest, line, finished⟩ := scanner
  subst h
  rfl

theorem answer_of_rest_eq_nil {scanner : Scanner} (h : scanner.rest = []) (index : Nat) :
    scanner.answer index = .ok (.endOfInput scanner.line) := by
  have hNext := next_of_rest_eq_nil h
  induction index with
  | zero => exact congrArg Prod.fst hNext
  | succ index ih =>
    rw [answer_succ, hNext]
    exact ih

theorem next_of_end {scanner : Scanner} {token : Token} (h : scanner.next.1 = .ok token)
    (hEnd : token.symbol = .endOfInput) :
    token = .endOfInput scanner.next.2.line ∧ scanner.next.2.rest = [] := by
  have hMunches := scanner.munches
  rw [h] at hMunches
  rcases hMunches.exists_span with ⟨hAnswer, hLeft, -⟩ | ⟨gap, span, -, -, -, hSpans⟩
  · exact ⟨Except.ok.inj hAnswer, hLeft⟩
  · cases hSpans with
    | token hNe => exact absurd hEnd hNe

theorem line_next (scanner : Scanner) : scanner.next.2.line + scanner.next.2.rest.count '\n' =
    scanner.line + scanner.rest.count '\n' :=
  scanner.munches.line_add_count

namespace Tiles

variable {scanner : Scanner}

theorem of_endOfInput (hAnswer : scanner.next.1 = .ok (.endOfInput scanner.next.2.line))
    (hRest : scanner.next.2.rest = []) (hGap : IsGap [] scanner.rest) :
    Tiles scanner [] scanner.rest where
  rest_eq := rfl
  length_le := Nat.zero_le _
  cuts before tile behind hSplit :=
    absurd hSplit.symm (List.append_ne_nil_of_right_ne_nil _ (List.cons_ne_nil _ _))
  last_gap := hGap
  ended index _ := by
    have hLine := scanner.line_next
    rw [hRest] at hLine
    rw [← hLine]
    cases index with
    | zero => exact hAnswer
    | succ index => exact (scanner.answer_succ index).trans (answer_of_rest_eq_nil hRest index)

theorem cons {tile : Tile} {tiles : List Tile} {last : List Char}
    (hCut : scanner.Cuts 0 tile scanner.next.2.rest)
    (hRest : scanner.rest = tile.text ++ scanner.next.2.rest)
    (h : Tiles scanner.next.2 tiles last) : Tiles scanner (tile :: tiles) last where
  rest_eq := by
    rw [hRest, h.rest_eq, List.flatMap_cons, List.append_assoc]
  length_le := by
    rw [hRest]
    exact Nat.lt_of_le_of_lt h.length_le (tile.length_lt hCut.span_ne_nil _)
  cuts before other behind hSplit := by
    cases before with
    | nil =>
      cases hSplit
      rw [← h.rest_eq]
      exact hCut
    | cons first before =>
      cases hSplit
      exact (h.cuts before other behind rfl).succ
  last_gap := h.last_gap
  ended index hIndex := by
    cases index with
    | zero => cases hIndex
    | succ index =>
      rw [answer_succ, h.ended index (Nat.le_of_succ_le_succ hIndex), scanner.line_next]

end Tiles

/-- Wherever a scanner stands, at the beginning of a source or behind answers of any kind, there is
an end to its answers, and nothing but gaps is left out of the tiles that they are read from. -/
theorem exists_tiles (scanner : Scanner) : ∃ tiles last, Tiles scanner tiles last := by
  induction hLength : scanner.rest.length using Nat.strong_induction_on generalizing scanner with
  | _ length ih =>
    rcases (munches_next scanner.finished scanner.rest scanner.line).exists_span with
      ⟨hAnswer, hRest, hGap⟩ | ⟨gap, span, hRest, hGap, hNe, hSpans⟩
    · exact ⟨[], scanner.rest, .of_endOfInput hAnswer hRest hGap⟩
    · have hCut : scanner.Cuts 0 ⟨gap, span⟩ scanner.next.2.rest := ⟨rfl, hGap, hNe, hSpans⟩
      have hText : scanner.rest = Tile.text ⟨gap, span⟩ ++ scanner.next.2.rest :=
        hRest.trans (List.append_assoc _ _ _).symm
      have hShorter : scanner.next.2.rest.length < length := by
        rw [← hLength, hText]
        exact Tile.length_lt hNe _
      obtain ⟨tiles, last, hTiles⟩ := ih _ hShorter scanner.next.2 rfl
      exact ⟨⟨gap, span⟩ :: tiles, last, .cons hCut hText hTiles⟩

end Scanner

end TallyCheck
