import Mathlib.Tactic.SplitIfs
import TallyCheck.Proofs.DiagnosticLines
import TallyCheck.Proofs.Expected
import TallyCheck.Text.Quoted

/-! # Quoted text that is read back

Whatever stands behind it, what is written for a character shows which it is, and it does not begin
like the quote that ends the text.  So no two texts are quoted alike; and a quoted text stands on
one line.
-/
namespace TallyCheck.Text
set_option autoImplicit false

def hexValue (digit : Char) : Nat :=
  if digit.isDigit then digit.toNat - '0'.toNat else digit.toNat - 'a'.toNat + 10

def ofHex (digits : List Char) : Nat :=
  digits.foldl (fun number digit => 16 * number + hexValue digit) 0

theorem hexValue_digitChar : ∀ digit < 16, hexValue digit.digitChar = digit := by decide

theorem isAlphanum_digitChar : ∀ digit < 16, digit.digitChar.isAlphanum = true := by decide

theorem ofHex_append_singleton (digits : List Char) (digit : Char) :
    ofHex (digits ++ [digit]) = 16 * ofHex digits + hexValue digit :=
  List.foldl_append

theorem ofHex_toDigits (number : Nat) : ofHex (Nat.toDigits 16 number) = number := by
  induction number using Nat.strong_induction_on with
  | _ number ih =>
    rw [Nat.toDigits_eq_if (by decide)]
    split
    · rename_i hDigit
      have hValue := hexValue_digitChar number hDigit
      simpa [ofHex] using hValue
    · have hValue := hexValue_digitChar (number % 16) (Nat.mod_lt _ (by decide))
      rw [ofHex_append_singleton, ih _ (by omega), hValue, Nat.div_add_mod]

theorem isAlphanum_of_mem_toDigits {number : Nat} {c : Char} (h : c ∈ Nat.toDigits 16 number) :
    c.isAlphanum = true := by
  induction number using Nat.strong_induction_on with
  | _ number ih =>
    rw [Nat.toDigits_eq_if (by decide)] at h
    split at h
    · rename_i hDigit
      rw [List.mem_singleton.mp h]
      exact isAlphanum_digitChar number hDigit
    · rcases List.mem_append.mp h with hFront | hLast
      · exact ih _ (by omega) hFront
      · rw [List.mem_singleton.mp hLast]
        exact isAlphanum_digitChar _ (Nat.mod_lt _ (by decide))

/-- The character for which stands what follows a backslash, and what is left behind it. -/
def readEscape? : List Char → Option (Char × List Char)
  | [] => none
  | 't' :: cs => some ('\t', cs)
  | 'n' :: cs => some ('\n', cs)
  | 'r' :: cs => some ('\r', cs)
  | '0' :: cs => some ('\x00', cs)
  | 'u' :: cs =>
    let code := (cs.drop 1).takeWhile (· ≠ '}')
    some (Char.ofNat (ofHex code), (cs.drop (code.length + 2)))
  | c :: cs => some (c, cs)

/-- The character that comes next in a quoted text, and what is left behind it; none where the text
is over. -/
def readCharacter? : List Char → Option (Char × List Char)
  | [] => none
  | c :: cs =>
    if c = '"' then none
    else if c = '\\' then readEscape? cs
    else some (c, cs)

theorem readCharacter?_escapeCode (c : Char) (rest : List Char) :
    readCharacter? (escapeCode c ++ rest) = some (c, rest) := by
  have hBrace : '}' ∉ Nat.toDigits 16 c.toNat := by
    intro hMem
    cases isAlphanum_of_mem_toDigits hMem
  have hText : escapeCode c ++ rest =
      '\\' :: 'u' :: '{' :: (Nat.toDigits 16 c.toNat ++ '}' :: rest) := by
    simp [escapeCode]
  rw [hText, readCharacter?, if_neg (by decide), if_pos rfl, readEscape?]
  simp only [List.drop_succ_cons, List.drop_zero, takeWhile_append_mark hBrace, ofHex_toDigits,
    Char.ofNat_toNat]
  simp

theorem readCharacter?_escape (c : Char) (rest : List Char) :
    readCharacter? (escape c ++ rest) = some (c, rest) := by
  unfold escape
  split_ifs with hSelf hTab hFeed hReturn hZero hCode
  · rcases hSelf with rfl | rfl <;> rfl
  · rw [hTab]
    rfl
  · rw [hFeed]
    rfl
  · rw [hReturn]
    rfl
  · rw [hZero]
    rfl
  · exact readCharacter?_escapeCode c rest
  · rw [not_or] at hSelf
    rw [List.singleton_append, readCharacter?, if_neg hSelf.1, if_neg hSelf.2]

theorem escape_append_inj {c other : Char} {front back : List Char}
    (h : escape c ++ front = escape other ++ back) : c = other ∧ front = back := by
  have hRead := congrArg readCharacter? h
  rw [readCharacter?_escape, readCharacter?_escape] at hRead
  cases hRead
  exact ⟨rfl, rfl⟩

theorem escape_append_ne_quote (c : Char) (front back : List Char) :
    escape c ++ front ≠ '"' :: back := by
  intro h
  have hRead := congrArg readCharacter? h
  rw [readCharacter?_escape] at hRead
  cases hRead

theorem newline_not_mem_escape (c : Char) : '\n' ∉ escape c := by
  intro hMem
  unfold escape at hMem
  split_ifs at hMem with hSelf hTab hFeed hReturn hZero hCode
  · rcases hSelf with rfl | rfl <;> simp at hMem
  · simp at hMem
  · simp at hMem
  · simp at hMem
  · simp at hMem
  · have hDigit : '\n' ∈ Nat.toDigits 16 c.toNat := by
      simpa [escapeCode] using hMem
    cases isAlphanum_of_mem_toDigits hDigit
  · exact hFeed (List.mem_singleton.mp hMem).symm

theorem flatMap_escape_inj {left right : List Char} {front back : List Char}
    (h : left.flatMap escape ++ '"' :: front = right.flatMap escape ++ '"' :: back) :
    left = right ∧ front = back := by
  induction left generalizing right with
  | nil =>
    cases right with
    | nil => exact ⟨rfl, List.tail_eq_of_cons_eq h⟩
    | cons other right =>
      rw [List.flatMap_cons, List.append_assoc] at h
      exact absurd h.symm (escape_append_ne_quote _ _ _)
  | cons c left ih =>
    cases right with
    | nil =>
      rw [List.flatMap_cons, List.append_assoc] at h
      exact absurd h (escape_append_ne_quote _ _ _)
    | cons other right =>
      rw [List.flatMap_cons, List.flatMap_cons, List.append_assoc, List.append_assoc] at h
      obtain ⟨rfl, hRest⟩ := escape_append_inj h
      obtain ⟨rfl, hBehind⟩ := ih hRest
      exact ⟨rfl, hBehind⟩

theorem toList_quote (text : String) :
    (quote text).toList = '"' :: (text.toList.flatMap escape ++ ['"']) := String.toList_ofList

theorem quote_injective {left right : String} (h : quote left = quote right) : left = right := by
  have hList := congrArg String.toList h
  rw [toList_quote, toList_quote] at hList
  have hTexts := flatMap_escape_inj (List.tail_eq_of_cons_eq hList)
  exact String.toList_inj.mp hTexts.1

theorem lineFeeds_quote (text : String) : lineFeeds (quote text) = 0 := by
  rw [lineFeeds, toList_quote, List.count_eq_zero]
  intro hMem
  simp only [List.mem_cons, List.mem_append, List.mem_flatMap, List.not_mem_nil, or_false,
    Char.reduceEq, false_or] at hMem
  obtain ⟨c, -, hFeed⟩ := hMem
  exact newline_not_mem_escape c hFeed

end TallyCheck.Text
