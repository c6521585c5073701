import TallyCheck.Command

/-! # The program

The first argument names the command, and the others are its own.  Nothing is decided here: a file
or the standard input is read, and the outcome is written.
-/
namespace TallyCheck.Program
set_option autoImplicit false

def readFailure : IO.Error → ReadFailure
  | .inappropriateType _ code _ => if code = 21 then .isADirectory else .notADirectory
  | .invalidArgument _ _ _ => .nameTooLong
  | _ => .notFound

def readFile (path : String) : IO (Except ReadFailure ByteArray) :=
  try return .ok (← IO.FS.readBinFile path)
  catch error => return .error (readFailure error)

partial def readToEnd (stream : IO.FS.Stream) (bytes : ByteArray) : IO ByteArray := do
  let chunk ← stream.read 65536
  if chunk.isEmpty then return bytes else readToEnd stream (bytes ++ chunk)

def errorText : ErrorOutput → String
  | .text text | .logged text => text
  | .usage => "Usage: tallyc [OPTIONS] <FILE>\n"

def runCommand (command : Command) (arguments : List String) : IO UInt32 := do
  let (files, standardInput) ← match command.file? arguments with
    | some path =>
      let reading ← readFile path
      pure ((fun _ => reading : Files), ByteArray.empty)
    | none =>
      let bytes ← if command = .dump then readToEnd (← IO.getStdin) .empty else pure .empty
      pure ((fun _ => .error .notFound : Files), bytes)
  let outcome := command.run arguments files standardInput
  (← IO.getStdout).putStr outcome.stdout
  (← IO.getStderr).putStr (errorText outcome.stderr)
  return outcome.exit.toUInt32

end TallyCheck.Program

open TallyCheck in
def main (arguments : List String) : IO UInt32 := do
  match arguments with
  | [] => IO.eprintln "Usage: (tallyc | tally-parser | tally-lexer) [ARGUMENTS]"; return 2
  | name :: rest =>
    match Command.ofName? name with
    | some command => Program.runCommand command rest
    | none => IO.eprintln ("No such command: " ++ name); return 2
