import TallyCheck.Command.Outcome
import TallyCheck.FileTree
import TallyCheck.Scanner
import TallyCheck.Text.Quoted

/-! # The dumping command

Lists the tokens of a file, or of the standard input, one on a line, up to the first scan error.
-/
namespace TallyCheck.DumpCommand
set_option autoImplicit false

/-- Lines are shown counted from one in a dump. -/
def line (token : Token) : String :=
  token.symbol.label ++ " @ " ++ toString (token.line + 1) ++ " = " ++ Text.quote token.text

def dump (source : String) : Outcome :=
  let (tokens, error) := (Scanner.ofString source).readAll
  let output := unlines (tokens.map line)
  match error with
  | none => ⟨0, output, .text ""⟩
  | some error => ⟨1, output, .text (error.message ++ "\n")⟩

/-- Arguments behind the file are not looked at. -/
def run (arguments : List String) (files : Files) (standardInput : ByteArray) : Outcome :=
  match arguments with
  | file :: _ =>
    match files.readText file with
    | .ok source => dump source
    | .error failure =>
      ⟨1, "", .text ("Error reading file '" ++ file ++ "': " ++ failure.message ++ "\n")⟩
  | [] =>
    match Text.decode? standardInput with
    | some source => dump source
    | none => ⟨1, "", .text ("Error reading stdin: " ++ ReadFailure.notText.message ++ "\n")⟩

end TallyCheck.DumpCommand
