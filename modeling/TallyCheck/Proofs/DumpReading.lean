import Mathlib.Data.List.Forall2
import TallyCheck.Proofs.CheckStreams
import TallyCheck.Proofs.Escapes
import TallyCheck.Proofs.TraceReading

/-! # What a dump says of a text

A dump has one line for each token that the stream of the scanner yields, and no other tokens have
these lines.  Where the text is accepted, the trace shows the same tokens but for the last, each
on a line whose number is one less.
-/
namespace TallyCheck
set_option autoImplicit false

namespace Symbol

def ofLabel? (text : String) : Option Symbol :=
  all.find? fun symbol => symbol.label = text

theorem ofLabel?_label (symbol : Symbol) : ofLabel? symbol.label = some symbol := by
  cases symbol <;> decide

theorem label_injective {left right : Symbol} (h : left.label = right.label) : left = right := by
  have hRight := ofLabel?_label right
  rw [← h, ofLabel?_label] at hRight
  exact Option.some.inj hRight

theorem blank_not_mem_label (symbol : Symbol) : ' ' ∉ symbol.label.toList := by
  cases symbol <;> decide

theorem lineFeeds_label (symbol : Symbol) : lineFeeds symbol.label = 0 := by
  cases symbol <;> decide

end Symbol

theorem append_blank_inj {word other front back : List Char} (hWord : ' ' ∉ word)
    (hOther : ' ' ∉ other) (h : word ++ ' ' :: front = other ++ ' ' :: back) :
    word = other ∧ front = back := by
  have hTaken := congrArg (List.takeWhile (· ≠ ' ')) h
  rw [takeWhile_append_mark hWord, takeWhile_append_mark hOther] at hTaken
  subst hTaken
  exact ⟨rfl, List.tail_eq_of_cons_eq (List.append_cancel_left h)⟩

namespace DumpCommand

theorem toList_line (token : Token) :
    (line token).toList = token.symbol.label.toList ++ ' ' :: ("@ ".toList ++
      ((toString (token.line + 1)).toList ++ ' ' :: ("= ".toList ++
        (Text.quote token.text).toList))) := by
  have hAt : " @ ".toList = ' ' :: "@ ".toList := by decide
  have hEquals : " = ".toList = ' ' :: "= ".toList := by decide
  rw [line]
  simp only [String.toList_append, hAt, hEquals, List.append_assoc, List.cons_append]

theorem line_injective {left right : Token} (h : line left = line right) : left = right := by
  have hList := congrArg String.toList h
  rw [toList_line, toList_line] at hList
  obtain ⟨hLabel, hRest⟩ := append_blank_inj left.symbol.blank_not_mem_label
    right.symbol.blank_not_mem_label hList
  obtain ⟨hNumber, hQuoted⟩ := append_blank_inj (blank_not_mem_toString _)
    (blank_not_mem_toString _) (List.append_cancel_left hRest)
  have hSymbol : left.symbol = right.symbol := Symbol.label_injective (String.toList_inj.mp hLabel)
  have hLine : left.line + 1 = right.line + 1 := by
    rw [← ofDigitChars_toString (left.line + 1), hNumber, ofDigitChars_toString]
  have hText : left.text = right.text :=
    Text.quote_injective (String.toList_inj.mp (List.append_cancel_left hQuoted))
  calc
    left = .ofText left.symbol left.text left.line := left.ofText_self.symm
    _ = .ofText right.symbol right.text right.line := by rw [hSymbol, hText, Nat.succ.inj hLine]
    _ = right := right.ofText_self

example : line (.ofText .stringConstant "\" @ 2 = \"" 0) =
    "StringConstant @ 1 = \"\\\" @ 2 = \\\"\"" := by
  decide +kernel

theorem lineFeeds_line (token : Token) : lineFeeds (line token) = 0 := by
  have hWords : lineFeeds " @ " = 0 ∧ lineFeeds " = " = 0 := by decide
  simp only [line, lineFeeds_append, Symbol.lineFeeds_label, lineFeeds_toString,
    Text.lineFeeds_quote, hWords]

end DumpCommand

/-- The tokens that the stream of a scanner yields, one after the other, and the error with which it
ends if it does not end with them. -/
inductive Scanner.Yields : Scanner → List Token → Option ScanError → Prop where
  | over {scanner : Scanner} (h : scanner.pull.1 = none) : Yields scanner [] none
  | error {scanner : Scanner} {error : ScanError} (h : scanner.pull.1 = some (.error error)) :
      Yields scanner [] (some error)
  | token {scanner : Scanner} {token : Token} {tokens : List Token} {error : Option ScanError}
      (h : scanner.pull.1 = some (.ok token)) (rest : Yields scanner.pull.2 tokens error) :
      Yields scanner (token :: tokens) error

namespace Scanner

theorem yields_readAll {scanner : Scanner} (h : scanner.finished = false) :
    scanner.Yields scanner.readAll.1 scanner.readAll.2 := by
  fun_induction readAll scanner with
  | case1 scanner error hError =>
    refine .error ?_
    rw [pull_of_unfinished h, hError]
  | case2 scanner token hToken hEnd =>
    have hEnds : endsStream scanner.next.1 = true := by
      rw [hToken]
      exact decide_eq_true hEnd
    refine .token ?_ (.over ?_)
    · rw [pull_of_unfinished h, hToken]
    · rw [pull_of_unfinished h, if_pos hEnds, pull_of_finished rfl]
  | case3 scanner token hToken hEnd tokens error hRead ih =>
    have hEnds : ¬ endsStream scanner.next.1 = true := by
      rw [hToken]
      simpa [endsStream] using hEnd
    have hRest := ih ((finished_next scanner).trans h)
    rw [hRead] at hRest
    refine .token ?_ ?_
    · rw [pull_of_unfinished h, hToken]
    · rwa [pull_of_unfinished h, if_neg hEnds]

end Scanner

/-- The text is the one to dump: that of the file, or of the standard input if none is named. -/
def DumpCommand.IsGiven (source : String) (arguments : List String) (files : Files)
    (standardInput : ByteArray) : Prop :=
  match arguments with
  | file :: _ => files.readText file = .ok source
  | [] => Text.decode? standardInput = some source

/-- The outcome of a dump of the text, whose stream yields the tokens and ends with the error if
there is one. -/
structure Outcome.Dumps (source : String) (tokens : List Token) (error : Option ScanError)
    (outcome : Outcome) : Prop where
  yields : (Scanner.ofString source).Yields tokens error
  last : error = none → ∃ front token, tokens = front ++ [token] ∧ token.symbol = .endOfInput
  lines_eq : textLines outcome.stdout = tokens.map DumpCommand.line
  only : ∀ others : List Token, textLines outcome.stdout = others.map DumpCommand.line →
    others = tokens
  exit_zero_iff : outcome.exit = 0 ↔ ∃ tokens, tokenize source = .ok tokens

/-- A line of a dump and a line of a trace that show the same symbol, with the same text if it is a
literal, where the dump counts lines from one and the trace from zero. -/
def ShowSame (dumped traced : String) : Prop :=
  ∃ (symbol : Symbol) (text : String) (number : Nat),
    dumped = symbol.label ++ " @ " ++ toString (number + 1) ++ " = " ++ Text.quote text ∧
      traced = "TOKEN " ++
        (if symbol.isLiteral then symbol.name ++ " '" ++ text ++ "'" else symbol.name) ++
          " on line " ++ toString number

theorem Token.showSame (token : Token) :
    ShowSame (DumpCommand.line token) (Event.terminal token).render :=
  ⟨token.symbol, token.text, token.line, rfl, rfl⟩

namespace DumpCommand

variable {source : String}

theorem stdout_dump (source : String) :
    (dump source).stdout = unlines ((Scanner.ofString source).readAll.1.map line) := by
  unfold dump
  split
  rename_i tokens error hRead
  rw [hRead]
  cases error <;> rfl

theorem exit_dump_eq_zero_iff (source : String) :
    (dump source).exit = 0 ↔ ∃ tokens, tokenize source = .ok tokens := by
  unfold dump tokenize
  split
  rename_i tokens error hRead
  rw [hRead]
  cases error <;> simp

theorem textLines_stdout_dump (source : String) :
    textLines (dump source).stdout = (Scanner.ofString source).readAll.1.map line := by
  rw [stdout_dump]
  apply textLines_unlines
  intro shown hMem
  obtain ⟨token, -, rfl⟩ := List.mem_map.mp hMem
  exact lineFeeds_line token

theorem dumps_dump (source : String) :
    (dump source).Dumps source (Scanner.ofString source).readAll.1
      (Scanner.ofString source).readAll.2 where
  yields := Scanner.yields_readAll rfl
  last hNone := by
    obtain ⟨front, last, hTokens, hLast, -⟩ := Scanner.exists_readAll_eq hNone
    exact ⟨front, last, hTokens, hLast⟩
  lines_eq := textLines_stdout_dump source
  only others hOthers := by
    rw [textLines_stdout_dump] at hOthers
    exact (List.map_injective_iff.mpr (fun _ _ => line_injective) hOthers).symm
  exit_zero_iff := exit_dump_eq_zero_iff source

theorem run_eq_dump {arguments : List String} {files : Files} {standardInput : ByteArray}
    (h : IsGiven source arguments files standardInput) :
    run arguments files standardInput = dump source := by
  cases arguments with
  | nil =>
    have hText : Text.decode? standardInput = some source := h
    simp only [run, hText]
  | cons file arguments =>
    have hText : files.readText file = .ok source := h
    simp only [run, hText]

theorem forall₂_showSame_of_accepted (h : (recordText source).1 = .ok ()) :
    (dump source).exit = 0 ∧
      List.Forall₂ ShowSame (textLines (dump source).stdout).dropLast
        ((Event.trace (recordText source).2).filter isTokenLine) := by
  obtain ⟨ending, hEnd, hRecord⟩ := exists_record_stream source
  obtain rfl : ending = .succeeded := by
    rw [hRecord] at h
    exact Ending.result_eq_ok_iff.mp h
  obtain ⟨tokens, hTokens, hTaken⟩ := terminals_of_succeeded hEnd
  have hTraced : (Event.trace (recordText source).2).filter isTokenLine =
      tokens.dropLast.map fun token => (Event.terminal token).render := by
    rw [Event.filter_isTokenLine_trace, hRecord, Ending.terminals_record, hTaken]
  have hDumped : (textLines (dump source).stdout).dropLast = tokens.dropLast.map line := by
    rw [textLines_stdout_dump, readAll_of_tokenize hTokens, List.map_dropLast]
  rw [exit_dump_eq_zero_iff, hTraced, hDumped, List.forall₂_map_left_iff,
    List.forall₂_map_right_iff, List.forall₂_same]
  exact ⟨⟨tokens, hTokens⟩, fun token _ => token.showSame⟩

end DumpCommand

namespace Command

variable {files : Files} {file source : String}

theorem run_trace_eq_outcome (h : files.readText file = .ok source) (standardInput : ByteArray) :
    trace.run [file] files standardInput = Record.outcome (recordText source) := by
  change TraceCommand.run [file] files = _
  simp only [TraceCommand.run, h]
  exact TraceCommand.trace_eq_outcome source

theorem exit_run_trace_eq_zero_iff (h : files.readText file = .ok source)
    (standardInput : ByteArray) :
    (trace.run [file] files standardInput).exit = 0 ↔ (recordText source).1 = .ok () := by
  rw [run_trace_eq_outcome h, ← Record.shown_true, Record.exit_shown]
  split
  · rename_i hOk
    simp [hOk]
  · rename_i hError
    simp [hError]

theorem textLines_run_trace (h : files.readText file = .ok source) (standardInput : ByteArray) :
    textLines (trace.run [file] files standardInput).stdout =
      Event.trace (recordText source).2 := by
  rw [run_trace_eq_outcome h, ← Record.shown_true, Record.stdout_shown, if_pos rfl]
  exact textLines_unlines (lineFeeds_of_mem_trace_recordText source)

/-- A dump has a line for each token that the text yields, and the tokens can be read from it.
Where the trace of the text succeeds, so does the dump, and shows the tokens that the trace
shows. -/
theorem run_dump_faithful {source : String} {arguments : List String} {files : Files}
    {standardInput : ByteArray}
    (hGiven : DumpCommand.IsGiven source arguments files standardInput) :
    let outcome := dump.run arguments files standardInput
    (∃ tokens error, outcome.Dumps source tokens error) ∧
      ∀ (others : Files) (file : String) (otherInput : ByteArray),
        others.readText file = .ok source →
        (trace.run [file] others otherInput).exit = 0 →
        outcome.exit = 0 ∧
          List.Forall₂ ShowSame (textLines outcome.stdout).dropLast
            ((textLines (trace.run [file] others otherInput).stdout).filter isTokenLine) := by
  intro outcome
  have hOutcome : outcome = DumpCommand.dump source := DumpCommand.run_eq_dump hGiven
  rw [hOutcome]
  refine ⟨⟨_, _, DumpCommand.dumps_dump source⟩, ?_⟩
  intro others file otherInput hRead hExit
  rw [exit_run_trace_eq_zero_iff hRead] at hExit
  rw [textLines_run_trace hRead]
  exact DumpCommand.forall₂_showSame_of_accepted hExit

def tabbedAssignment : String := "begin\n  x := \"\t\\\"\nend"

def tabbedFile : Files := fun path =>
  if path = "tabbed.tly" then .ok tabbedAssignment.toUTF8 else .error .notFound

theorem tabbedFile_run_dump_faithful :
    DumpCommand.IsGiven tabbedAssignment [] tabbedFile tabbedAssignment.toUTF8 ∧
      tabbedFile.readText "tabbed.tly" = .ok tabbedAssignment ∧
      (trace.run ["tabbed.tly"] tabbedFile .empty).exit = 0 ∧
      let outcome := dump.run [] tabbedFile tabbedAssignment.toUTF8
      outcome.exit = 0 ∧
        List.Forall₂ ShowSame (textLines outcome.stdout).dropLast
          ((textLines (trace.run ["tabbed.tly"] tabbedFile .empty).stdout).filter
            isTokenLine) := by
  have hGiven : DumpCommand.IsGiven tabbedAssignment [] tabbedFile tabbedAssignment.toUTF8 :=
    Text.decode?_toUTF8 tabbedAssignment
  have hRead : tabbedFile.readText "tabbed.tly" = .ok tabbedAssignment := by
    have hBytes : tabbedFile "tabbed.tly" = .ok tabbedAssignment.toUTF8 := rfl
    simp only [Files.readText, hBytes, Text.decode?_toUTF8]
  have hExit : (trace.run ["tabbed.tly"] tabbedFile .empty).exit = 0 := by
    rw [exit_run_trace_eq_zero_iff hRead]
    decide +kernel
  exact ⟨hGiven, hRead, hExit, (run_dump_faithful hGiven).2 _ _ _ hRead hExit⟩

end Command
end TallyCheck
