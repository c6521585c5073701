import TallyCheck.Check
import TallyCheck.Command.Options
import TallyCheck.Command.Outcome

/-! # The checking command

Says whether a file is well formed, with its trace and the context of an error on request.  Exit
code one stands for a file that is not, two for one that cannot be checked.
-/
namespace TallyCheck.CheckCommand
set_option autoImplicit false

def versionText : String := "tallyc 0.1.0\n"

def helpText : String := unlines
  ["Tally syntax checker - validates Tally source against the language grammar",
    "",
    "Usage: tallyc [OPTIONS] <FILE>",
    "",
    "Arguments:",
    "  <FILE>  Input Tally source file",
    "",
    "Options:",
    "  -t, --trace    Print the parse trace (BEGIN/END/TOKEN events)",
    "  -c, --context  On a syntax error, also list the productions being parsed",
    "  -v, --verbose  Enable verbose logging",
    "  -h, --help     Print help",
    "  -V, --version  Print version"]

/-- A report without a trace is shown by the last line that a trace would have. -/
def successLines (report : CheckReport) : List String :=
  if report.trace.isEmpty then [Event.success.render] else report.trace

/-- The message on a file that could not be checked, with what led to it. -/
def uncheckedMessage (file : String) (failure : CheckFailure) : String :=
  let cause := match failure with
    | .unreadable failure => ": " ++ failure.message
    | _ => ""
  "tallyc: cannot check " ++ file ++ ": " ++ failure.display ++ cause

def report (withContext : Bool) (file : String) :
    Except CheckFailure CheckReport → Nat × List String × List String
  | .ok report => (0, successLines report, [])
  | .error failure =>
    match failure with
    | .unreadable _ | .fileNotFound _ | .internal _ => (2, [], [uncheckedMessage file failure])
    | .scan _ _ _ | .grammar _ _ _ _ =>
      let context := if withContext then failure.contextLines.map fun line => "  " ++ line else []
      (1, failure.trace, failure.display :: context)

/-- Log lines begin when the file has been read. -/
def logs : Except CheckFailure CheckReport → Bool
  | .error (.unreadable _) | .error (.fileNotFound _) => false
  | _ => true

def check (flags : List Flag) (file : String) (files : Files) : Outcome :=
  let request : CheckRequest := ⟨file, flags.contains .trace⟩
  let result := request.check files
  let (exit, output, errors) := report (flags.contains .context) file result
  let errorText := unlines errors
  let verbose := flags.contains .verbose && logs result
  ⟨exit, unlines output, if verbose then .logged errorText else .text errorText⟩

def run (arguments : List String) (files : Files) : Outcome :=
  match Invocation.ofArguments arguments with
  | .check flags file => check flags file files
  | .help => ⟨0, helpText, .text ""⟩
  | .version => ⟨0, versionText, .text ""⟩
  | .refused => ⟨2, "", .usage⟩

end TallyCheck.CheckCommand
