import TallyCheck.Command.Check
import TallyCheck.Command.Dump
import TallyCheck.Command.Trace

/-! # The three commands

A command is called by its name, reads at most one file or the standard input, and leaves an
outcome.
-/
namespace TallyCheck
set_option autoImplicit false

inductive Command where
  | check | trace | dump
  deriving DecidableEq

namespace Command

def all : List Command := [check, trace, dump]

def name : Command → String
  | check => "tallyc"
  | trace => "tally-parser"
  | dump => "tally-lexer"

def ofName? (text : String) : Option Command := all.find? fun command => command.name = text

def run (command : Command) (arguments : List String) (files : Files)
    (standardInput : ByteArray) : Outcome :=
  match command with
  | check => CheckCommand.run arguments files
  | trace => TraceCommand.run arguments files
  | dump => DumpCommand.run arguments files standardInput

/-- The one file that a command reads, if it reads any. -/
def file? (command : Command) (arguments : List String) : Option String :=
  match command with
  | check =>
    match Invocation.ofArguments arguments with
    | .check _ file => some file
    | _ => none
  | trace =>
    match arguments with
    | [file] => some file
    | _ => none
  | dump => arguments.head?

end Command
end TallyCheck
