import TallyCheck.Proofs.Cause

/-! # Line numbers

Asked again and again, past errors and past the end, the scanner reads a text from front to back,
and the line of each answer is the number of line feeds in front of the lexeme that it is read from.
-/
namespace TallyCheck
set_option autoImplicit false

namespace Scanner

/-- The scanner has read `passed` of a source and counted its line feeds. -/
structure Stands (source passed : List Char) (scanner : Scanner) : Prop where
  split : source = passed ++ scanner.rest
  line_eq : scanner.line = passed.count '\n'

theorem Stands.next {source passed : List Char} {scanner : Scanner}
    (h : Stands source passed scanner) :
    ∃ gap lexeme, scanner.rest = gap ++ (lexeme ++ scanner.next.2.rest) ∧
      Answer.ReadFrom scanner.next.1 lexeme ∧ (lexeme = [] → scanner.next.2.rest = []) ∧
      Answer.line scanner.next.1 = (passed ++ gap).count '\n' ∧
      Stands source (passed ++ gap ++ lexeme) scanner.next.2 := by
  obtain ⟨gap, lexeme, hRest, hRead, hFeed, hNone, hLast, hLine⟩ := scanner.munches.exists_gap
  have hCount : scanner.next.2.line = (passed ++ gap).count '\n' := by
    rw [List.count_append, ← h.line_eq]
    exact hLast
  refine ⟨gap, lexeme, hRest, hRead, hNone, hLine.trans hCount, ?_, ?_⟩
  · rw [List.append_assoc, List.append_assoc]
    exact h.split.trans (congrArg (passed ++ ·) hRest)
  · rw [List.count_append, List.count_eq_zero.mpr hFeed]
    exact hCount

theorem exists_stands_after (source : String) (index : Nat) :
    ∃ passed, Stands source.toList passed ((ofString source).after index) := by
  induction index with
  | zero => exact ⟨[], rfl, rfl⟩
  | succ index ih =>
    obtain ⟨passed, hStands⟩ := ih
    obtain ⟨gap, lexeme, -, -, -, -, hNext⟩ := hStands.next
    exact ⟨_, hNext⟩

/-- Where the answer to a question is read: from `lexeme`, behind `before`, which reaches beyond
whatever earlier answers were read from. -/
structure Reads (source : String) (index : Nat) (before lexeme : List Char) : Prop where
  split : source.toList = before ++ (lexeme ++ ((ofString source).after (index + 1)).rest)
  onward : lexeme ++ ((ofString source).after (index + 1)).rest <:+
    ((ofString source).after index).rest
  readFrom : Answer.ReadFrom ((ofString source).answer index) lexeme
  atEnd : lexeme = [] → ((ofString source).after (index + 1)).rest = []

theorem exists_reads_line (source : String) (index : Nat) :
    ∃ before lexeme, Reads source index before lexeme ∧
      Answer.line ((ofString source).answer index) = before.count '\n' := by
  obtain ⟨passed, hStands⟩ := exists_stands_after source index
  obtain ⟨gap, lexeme, hRest, hRead, hNone, hLine, hNext⟩ := hStands.next
  refine ⟨passed ++ gap, lexeme, ?_, hLine⟩
  exact
    { split := hNext.split.trans (List.append_assoc _ _ _)
      onward := ⟨gap, hRest.symm⟩
      readFrom := hRead
      atEnd := hNone }

theorem Reads.unique {source : String} {index : Nat} {before lexeme other text : List Char}
    (h : Reads source index before lexeme) (hOther : Reads source index other text) :
    before = other ∧ lexeme = text := by
  have hSame : before ++ lexeme = other ++ text := by
    have hSplit := h.split.symm.trans hOther.split
    rw [← List.append_assoc, ← List.append_assoc] at hSplit
    exact List.append_cancel_right hSplit
  have hEnds : lexeme <:+ other ++ text := ⟨before, hSame⟩
  obtain rfl : lexeme = text :=
    Answer.ReadFrom.unique h.readFrom hOther.readFrom hEnds (List.suffix_append _ _)
  exact ⟨List.append_cancel_right hSame, rfl⟩

theorem Reads.line_eq {source : String} {index : Nat} {before lexeme : List Char}
    (h : Reads source index before lexeme) :
    Answer.line ((ofString source).answer index) = before.count '\n' := by
  obtain ⟨other, text, hOther, hLine⟩ := exists_reads_line source index
  rwa [(h.unique hOther).1]

theorem line_of_endOfInput {source : String} {index : Nat} {token : Token}
    (h : (ofString source).answer index = .ok token) (hEnd : token.symbol = .endOfInput) :
    token.line = source.toList.count '\n' := by
  obtain ⟨before, lexeme, hReads, hLine⟩ := exists_reads_line source index
  have hRead := hReads.readFrom
  rw [h] at hRead hLine
  have hNil : lexeme = [] := by
    change lexeme = token.text.toList at hRead
    rw [hRead, Token.eq_endOfInput hEnd]
    rfl
  have hWhole := hReads.split
  rw [hReads.atEnd hNil, hNil, List.append_nil, List.append_nil] at hWhole
  rw [hWhole]
  exact hLine

/-- The line of an answer is the number of line feeds before the lexeme that it is read from; that
of the end of the input is the number of all.  The line of a failure is counted from one. -/
theorem line_numbers_exact (source : String) :
    (∀ index, ∃ before lexeme, Reads source index before lexeme) ∧
    (∀ index before lexeme, Reads source index before lexeme →
      Answer.line ((ofString source).answer index) = before.count '\n') ∧
    (∀ index token, (ofString source).answer index = .ok token → token.symbol = .endOfInput →
      token.line = source.toList.count '\n') ∧
    ∀ {τ : Type} [Observer τ] (observer : τ) (error : ParseError),
      (∀ (token : Token) (message : String) (heard : τ),
        (Observer.refuse token message heard).token? = some token) →
      (analyseText source observer).1 = .error error →
      error.About (stoppingAnswer source) ∧
        ∀ before lexeme, Reads source (acceptedCount source) before lexeme →
          error.line? = some (before.count '\n' + 1) := by
  refine ⟨?_, fun _ _ _ hReads => hReads.line_eq, fun _ _ => line_of_endOfInput, ?_⟩
  · intro index
    obtain ⟨before, lexeme, hReads, -⟩ := exists_reads_line source index
    exact ⟨before, lexeme, hReads⟩
  · intro τ _ observer error hRefuse hError
    have hAbout := about_of_analyseText hRefuse hError
    refine ⟨hAbout, ?_⟩
    intro before lexeme hReads
    rw [← hReads.line_eq]
    exact hAbout.line?

def strayLines : String := "begin // one\n\tx := 1.\n\n\"s\n: end\n"

theorem strayLines_line_numbers :
    Reads strayLines 3 "begin // one\n\tx := ".toList "1.".toList ∧
    (ofString strayLines).answer 3 = .error ⟨.malformedNumber "1.", 1⟩ ∧
    (ofString strayLines).answer 9 = .ok (.endOfInput 5) ∧
    (analyseText strayLines ()).1 = .error (.scan ⟨.malformedNumber "1.", 1⟩) ∧
    Answer.line ((ofString strayLines).answer 3) =
      ("begin // one\n\tx := ".toList).count '\n' ∧
    (Token.endOfInput 5).line = strayLines.toList.count '\n' ∧
    (ParseError.scan ⟨.malformedNumber "1.", 1⟩).line? =
      some (("begin // one\n\tx := ".toList).count '\n' + 1) := by
  have hNumber : (ofString strayLines).answer 3 = .error ⟨.malformedNumber "1.", 1⟩ := by
    decide +kernel
  have hEnd : (ofString strayLines).answer 9 = .ok (.endOfInput 5) := by decide +kernel
  have hRun : (analyseText strayLines ()).1 = .error (.scan ⟨.malformedNumber "1.", 1⟩) := by
    decide +kernel
  have hCount : acceptedCount strayLines = 3 := by decide +kernel
  have hReads : Reads strayLines 3 "begin // one\n\tx := ".toList "1.".toList :=
    { split := by decide +kernel
      onward := by decide +kernel
      readFrom := by
        rw [hNumber]
        rfl
      atEnd := by decide +kernel }
  obtain ⟨-, hLines, hEnds, hErrors⟩ := line_numbers_exact strayLines
  obtain ⟨-, hLine⟩ := hErrors () _ (fun _ _ _ => rfl) hRun
  exact ⟨hReads, hNumber, hEnd, hRun, hLines 3 _ _ hReads, hEnds 9 _ hEnd rfl,
    hLine _ _ (hCount ▸ hReads)⟩

end Scanner
end TallyCheck
