/-! # Text between lexemes

Blanks, line feeds, and comments, which run from two slashes to the end of their line.  Skipping
them counts the line feeds; what stands behind a gap is not looked at.
-/
namespace TallyCheck.Gap
set_option autoImplicit false

/-- A line feed is no blank: it ends comments and is counted. -/
def isBlank (c : Char) : Bool := c = ' ' || c = '\t' || c = '\r' || c = '\x0c'

/-- The line reached and the text left behind a gap that begins on `line`, inside a comment or
not. -/
def skip (comment : Bool) (line : Nat) : List Char → Nat × List Char
  | [] => (line, [])
  | c :: cs =>
    if c = '\n' then skip false (line + 1) cs
    else if comment || isBlank c then skip comment line cs
    else if c = '/' ∧ cs.head? = some '/' then skip true line cs
    else (line, c :: cs)

theorem skip_suffix (comment : Bool) (line : Nat) (text : List Char) :
    ∃ gap, text = gap ++ (skip comment line text).2 ∧
      (skip comment line text).1 = line + gap.count '\n' := by
  fun_induction skip comment line text with
  | case1 => exact ⟨[], rfl, rfl⟩
  | case2 comment line cs ih =>
    obtain ⟨gap, hText, hLine⟩ := ih
    refine ⟨'\n' :: gap, by rw [List.cons_append, ← hText], ?_⟩
    rw [hLine, List.count_cons_self]
    omega
  | case3 comment line c cs hFeed _ ih | case4 comment line c cs hFeed _ _ ih =>
    obtain ⟨gap, hText, hLine⟩ := ih
    refine ⟨c :: gap, by rw [List.cons_append, ← hText], ?_⟩
    rw [hLine, List.count_cons_of_ne hFeed]
  | case5 => exact ⟨[], rfl, rfl⟩

theorem skip_length_le (comment : Bool) (line : Nat) (text : List Char) :
    (skip comment line text).2.length ≤ text.length := by
  obtain ⟨gap, hText, -⟩ := skip_suffix comment line text
  have hLength := congrArg List.length hText
  rw [List.length_append] at hLength
  omega

theorem skip_append {comment : Bool} {front : List Char}
    (h : ∀ c ∈ front, c ≠ '\n' ∧ (comment || isBlank c) = true) (line : Nat) (rest : List Char) :
    skip comment line (front ++ rest) = skip comment line rest := by
  induction front with
  | nil => rfl
  | cons c cs ih =>
    obtain ⟨hFeed, hSkipped⟩ := h c List.mem_cons_self
    rw [List.cons_append, skip, if_neg hFeed, if_pos hSkipped]
    exact ih fun d hMem => h d (List.mem_cons_of_mem c hMem)

theorem skip_dropWhile (line : Nat) (cs : List Char) :
    skip true line (cs.dropWhile (· ≠ '\n')) = skip false line (cs.dropWhile (· ≠ '\n')) := by
  have hHead := List.head?_dropWhile_not (· ≠ '\n') cs
  cases hRest : cs.dropWhile (· ≠ '\n') with
  | nil => rfl
  | cons c rest =>
    rw [hRest] at hHead
    have hFeed : c = '\n' := by simpa using hHead
    rw [skip, if_pos hFeed, skip, if_pos hFeed]

end TallyCheck.Gap
