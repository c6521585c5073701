import TallyCheck.Command
import TallyCheck.Proofs.Cause
import TallyCheck.Proofs.Writing

/-! # Two front ends

Asked for the trace and the context, the checking command answers like the tracing command: both
show the one analysis of a text, which the first records and the second writes down as it goes.
-/
namespace TallyCheck
set_option autoImplicit false

/-- What is to be shown of a recorded analysis. -/
def Record.outcome (record : Record) : Outcome :=
  let output := unlines (Event.trace record.2)
  match record.1 with
  | .ok () => ⟨0, output, .text ""⟩
  | .error error => ⟨1, output, .text (error.report ++ "\n")⟩

theorem Record.exit_outcome (record : Record) :
    (outcome record).exit = 0 ∨ (outcome record).exit = 1 := by
  unfold outcome
  split
  · exact .inl rfl
  · exact .inr rfl

theorem Record.stderr_outcome (record : Record) :
    ∃ text, (outcome record).stderr = .text text := by
  unfold outcome
  split
  · exact ⟨_, rfl⟩
  · exact ⟨_, rfl⟩

theorem unlines_indented (first : String) (lines : List String) :
    unlines (first :: lines.map fun line => "  " ++ line) =
      first ++ String.join (lines.map fun line => "\n  " ++ line) ++ "\n" := by
  have hIndent : "\n  " = "\n" ++ "  " := by decide
  induction lines generalizing first with
  | nil => simp
  | cons line lines ih =>
    rw [List.map_cons, unlines_cons, ih, List.map_cons, String.join_cons, hIndent]
    simp only [String.append_assoc]

/-- One line for each enclosing production, innermost first. -/
def ParseError.contextLines (error : ParseError) : List String :=
  error.productions.reverse.map fun production => "while parsing " ++ production.bracketed

theorem ParseError.report_eq_unlines (error : ParseError) :
    error.report ++ "\n" =
      unlines (error.diagnostic :: error.contextLines.map fun line => "  " ++ line) := by
  have hIndent : "\n  while parsing " = "\n  " ++ "while parsing " := by decide
  rw [unlines_indented, report, contextLines, List.map_map, hIndent]
  simp only [Function.comp_def, String.append_assoc]

theorem Ending.result_writer (writer : TraceWriter) (recording : Recording) (ending : Ending) :
    ending.result writer = ending.result recording := by
  cases ending <;> rfl

theorem analyseText_writer (source : String) :
    analyseText source (TraceWriter.ofOutlet Outlet.unlimited) =
      ((recordText source).1, .ofText (unlines (Event.trace (recordText source).2))) := by
  obtain ⟨events, ending, hRecord, -, hAnalysis⟩ := exists_ending source
  have hWritten := hAnalysis (TraceWriter.ofText "")
  simp only [TraceWriter.notifyAll_ofText, String.empty_append] at hWritten
  rw [hRecord]
  exact hWritten.trans (Prod.ext (ending.result_writer _ _) rfl)

theorem trace_ne_nil_of_succeeded {source : String} (h : (recordText source).1 = .ok ()) :
    Event.trace (recordText source).2 ≠ [] := by
  obtain ⟨events, ending, hRecord, -⟩ := exists_ending source
  rw [hRecord] at h ⊢
  cases ending with
  | succeeded =>
    rw [Ending.record, Event.trace_append]
    exact List.append_ne_nil_of_right_ne_nil _ (List.cons_ne_nil _ _)
  | rejected | faulted => cases h

theorem recordText_ne_alreadyRun (source : String) :
    (recordText source).1 ≠ .error .alreadyRun := by
  obtain ⟨events, ending, hRecord, -⟩ := exists_ending source
  rw [hRecord]
  intro h
  cases ending with
  | succeeded | faulted => cases h
  | rejected => cases Ending.token?_of_result h

theorem Outlet.text_toUTF8 (text : String) :
    Outlet.text { Outlet.unlimited with written := text.toUTF8 } = text := by
  rw [Outlet.text, Text.decodeCut?_toUTF8, Option.getD_some]

namespace TraceCommand

theorem trace_eq_outcome (source : String) : trace source = Record.outcome (recordText source) := by
  have hText := Outlet.text_toUTF8 (unlines (Event.trace (recordText source).2))
  rw [trace, analyseText_writer, Record.outcome]
  cases (recordText source).1 with
  | ok => simp only [TraceWriter.close_ofText, hText]
  | error error => simp only [TraceWriter.close_ofText, hText]

end TraceCommand

theorem CheckRequest.check_of_readText {request : CheckRequest} {files : Files} {source : String}
    (h : files.readText request.file = .ok source) :
    request.check files = request.checkText source := by
  rw [check, h]

namespace CheckRequest

section Outcomes

variable (request : CheckRequest) {source : String}

/-- The trace kept of an analysis of `source`. -/
def keptTrace (source : String) : List String :=
  if request.keepTrace then Event.trace (recordText source).2 else []

theorem checkText_of_ok (h : (recordText source).1 = .ok ()) :
    request.checkText source =
      .ok ⟨request.file, request.keptTrace source, acceptedCount source⟩ := by
  revert h
  unfold checkText keptTrace acceptedCount recordText
  rcases analyseText source Recording.empty with ⟨result, recording⟩
  rintro rfl
  rfl

theorem checkText_of_scan {error : ScanError} (h : (recordText source).1 = .error (.scan error)) :
    request.checkText source = .error (.scan request.file error (request.keptTrace source)) := by
  revert h
  unfold checkText keptTrace recordText
  rcases analyseText source Recording.empty with ⟨result, recording⟩
  rintro rfl
  rfl

theorem checkText_of_error {error : ParseError} (h : (recordText source).1 = .error error)
    (hScan : ∀ fault, error ≠ .scan fault) :
    request.checkText source =
      .error (.grammar request.file error.diagnostic error.chain (request.keptTrace source)) := by
  have hFirst : error ≠ .alreadyRun := by
    rintro rfl
    exact recordText_ne_alreadyRun source h
  revert h
  unfold checkText keptTrace recordText
  rcases analyseText source Recording.empty with ⟨result, recording⟩
  rintro rfl
  cases error with
  | scan fault => exact absurd rfl (hScan fault)
  | alreadyRun => exact absurd rfl hFirst
  | unexpectedToken | context => rfl

end Outcomes

end CheckRequest

/-- What the checking command shows of a recorded analysis: without the trace at most its last
line. -/
def Record.shown (withTrace withContext : Bool) (record : Record) : Outcome :=
  match record.1 with
  | .ok () =>
    ⟨0, unlines (if withTrace then Event.trace record.2 else [Event.success.render]), .text ""⟩
  | .error error =>
    let context := if withContext then error.contextLines.map fun line => "  " ++ line else []
    ⟨1, unlines (if withTrace then Event.trace record.2 else []),
      .text (unlines (error.diagnostic :: context))⟩

theorem Record.shown_true (record : Record) : record.shown true true = record.outcome := by
  obtain ⟨result, events⟩ := record
  cases result with
  | ok => rfl
  | error error => simp only [shown, outcome, ParseError.report_eq_unlines, if_true]

namespace CheckCommand

theorem report_checkText_of_error {request : CheckRequest} {source : String} {error : ParseError}
    (h : (recordText source).1 = .error error) (withContext : Bool) (file : String) :
    report withContext file (request.checkText source) =
      (1, request.keptTrace source,
        error.diagnostic ::
          if withContext then error.contextLines.map fun line => "  " ++ line else []) := by
  cases error with
  | scan error =>
    rw [request.checkText_of_scan h]
    rfl
  | unexpectedToken | alreadyRun | context =>
    rw [request.checkText_of_error h nofun]
    simp only [report, CheckFailure.contextLines_grammar_chain]
    rfl

theorem report_checkText_of_ok {request : CheckRequest} {source : String}
    (h : (recordText source).1 = .ok ()) (withContext : Bool) (file : String) :
    report withContext file (request.checkText source) =
      (0, if request.keepTrace then Event.trace (recordText source).2 else [Event.success.render],
        []) := by
  have hTrace : (Event.trace (recordText source).2).isEmpty = false := by
    simpa using trace_ne_nil_of_succeeded h
  rw [request.checkText_of_ok h]
  cases hKeep : request.keepTrace with
  | false => simp [report, successLines, CheckRequest.keptTrace, hKeep]
  | true => simp [report, successLines, CheckRequest.keptTrace, hKeep, hTrace]

theorem check_eq_shown {files : Files} {file source : String} {flags : List Flag}
    (hRead : files.readText file = .ok source) (hVerbose : .verbose ∉ flags) :
    check flags file files =
      (recordText source).shown (flags.contains .trace) (flags.contains .context) := by
  have hCheck : CheckRequest.check ⟨file, flags.contains .trace⟩ files =
      CheckRequest.checkText ⟨file, flags.contains .trace⟩ source :=
    CheckRequest.check_of_readText hRead
  have hSilent : flags.contains .verbose = false := by simpa using hVerbose
  unfold Record.shown
  cases hResult : (recordText source).1 with
  | ok =>
    simp only [check, hCheck, hSilent, report_checkText_of_ok hResult]
    rfl
  | error error =>
    simp only [check, hCheck, hSilent, report_checkText_of_error hResult]
    rfl

theorem check_eq_outcome {files : Files} {file source : String}
    (hRead : files.readText file = .ok source) :
    check [.context, .trace] file files = Record.outcome (recordText source) := by
  rw [check_eq_shown hRead (by decide), ← Record.shown_true]
  rfl

end CheckCommand

theorem Invocation.ofArguments_trace_context {file : String} (hNonempty : file ≠ "")
    (hDash : file.toList.head? ≠ some '-') :
    ofArguments ["-t", "-c", file] = .check [.context, .trace] file := by
  have hFile : ∀ options : Options, options.addArgument file = options.addFile file := by
    intro options
    unfold Options.addArgument
    split
    · rename_i hList
      rw [hList] at hDash
      exact absurd rfl hDash
    · rename_i hList
      rw [hList] at hDash
      exact absurd rfl hDash
    · rfl
  have hEnds : file ≠ "--" := by
    rintro rfl
    exact hDash rfl
  have hFlags : ofArguments ["-t", "-c", file] =
      Options.read ⟨[.context, .trace], none⟩ false [file] := rfl
  rw [hFlags]
  simp [Options.read, hEnds, hFile, Options.addFile, hNonempty]

namespace Command

/-- With a trace and the context asked for, the checking command leaves behind what the tracing
command does.  A path that begins with a dash would be read as flags, and an empty one is
refused. -/
theorem run_check_eq_run_trace {files : Files} {file : String} {bytes : ByteArray}
    (hRead : files file = .ok bytes) (hText : (Text.decode? bytes).isSome = true)
    (hNonempty : file ≠ "") (hDash : file.toList.head? ≠ some '-')
    (standardInput : ByteArray) :
    let outcome := check.run ["-t", "-c", file] files standardInput
    outcome = trace.run [file] files standardInput ∧ (outcome.exit = 0 ∨ outcome.exit = 1) ∧
      ∃ text, outcome.stderr = .text text := by
  intro outcome
  obtain ⟨source, hSource⟩ := Option.isSome_iff_exists.mp hText
  have hReadText : files.readText file = .ok source := by
    simp only [Files.readText, hRead, hSource]
  have hCheck : outcome = Record.outcome (recordText source) := by
    change CheckCommand.run ["-t", "-c", file] files = _
    rw [CheckCommand.run, Invocation.ofArguments_trace_context hNonempty hDash]
    exact CheckCommand.check_eq_outcome hReadText
  have hTrace : trace.run [file] files standardInput = Record.outcome (recordText source) := by
    change TraceCommand.run [file] files = _
    simp only [TraceCommand.run, hReadText]
    exact TraceCommand.trace_eq_outcome source
  rw [hCheck, hTrace]
  exact ⟨rfl, Record.exit_outcome _, Record.stderr_outcome _⟩

def unclosedFile : Files := fun path =>
  if path = "unclosed.tly" then .ok "begin x := (1".toUTF8 else .error .notFound

theorem unclosedFile_run_check_eq_run_trace :
    unclosedFile "unclosed.tly" = .ok "begin x := (1".toUTF8 ∧
      check.run ["-t", "-c", "unclosed.tly"] unclosedFile .empty =
        trace.run ["unclosed.tly"] unclosedFile .empty := by
  have hRead : unclosedFile "unclosed.tly" = .ok "begin x := (1".toUTF8 := rfl
  have hText := Option.isSome_of_eq_some (Text.decode?_toUTF8 "begin x := (1")
  exact ⟨hRead, (run_check_eq_run_trace hRead hText (by decide) (by decide) .empty).1⟩

end Command
end TallyCheck
