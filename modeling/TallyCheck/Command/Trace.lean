import TallyCheck.Analysis
import TallyCheck.Command.Outcome
import TallyCheck.FileTree
import TallyCheck.TraceWriter

/-! # The tracing command

Writes the trace of a file while the file is analysed, and the error with its context if there is
one.
-/
namespace TallyCheck.TraceCommand
set_option autoImplicit false

def usageText : String := unlines
  ["Usage: tally-parser <file.tly>", "", "Check a Tally file and print its parse trace"]

def failed (message : String) : Outcome := ⟨1, "", .text (message ++ "\n")⟩

def trace (source : String) : Outcome :=
  let (result, writer) := analyseText source (TraceWriter.ofOutlet Outlet.unlimited)
  match writer.close with
  | .error failure =>
    ⟨1, writer.outlet.text, .text ("Error writing trace: " ++ failure.message ++ "\n")⟩
  | .ok outlet =>
    match result with
    | .ok () => ⟨0, outlet.text, .text ""⟩
    | .error error => ⟨1, outlet.text, .text (error.report ++ "\n")⟩

def run (arguments : List String) (files : Files) : Outcome :=
  match arguments with
  | [file] =>
    match files.readText file with
    | .ok source => trace source
    | .error failure => failed ("Error reading file '" ++ file ++ "': " ++ failure.message)
  | _ => ⟨1, "", .text usageText⟩

end TallyCheck.TraceCommand
