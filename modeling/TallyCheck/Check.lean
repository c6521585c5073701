import TallyCheck.Analysis
import TallyCheck.FileTree
import TallyCheck.Recording

/-! # Checking a file

A file is read, scanned and analysed.  The outcome names the file and, on request, holds the trace
up to where the check ended.
-/
namespace TallyCheck
set_option autoImplicit false

structure CheckRequest where
  file : String
  keepTrace : Bool

structure CheckReport where
  file : String
  trace : List String
  /-- How many terminals were accepted. -/
  terminals : Nat

inductive CheckFailure where
  | unreadable (failure : ReadFailure)
  | fileNotFound (file : String)
  | scan (file : String) (error : ScanError) (trace : List String)
  | grammar (file : String) (diagnostic : String) (context : List ErrorLink) (trace : List String)
  | internal (message : String)

namespace CheckFailure

def display : CheckFailure → String
  | unreadable failure => "I/O error: " ++ failure.message
  | fileNotFound file => "File not found: " ++ file
  | scan _ error _ => error.message
  | grammar _ diagnostic _ _ => diagnostic
  | internal message => "Internal analyser error: " ++ message

def trace : CheckFailure → List String
  | scan _ _ trace | grammar _ _ _ trace => trace
  | _ => []

/-- The productions of the chain from its end, where the innermost stands. -/
def contextLines : CheckFailure → List String
  | grammar _ _ context _ => (context.reverse.filterMap ErrorLink.production).map
      fun production => "while parsing " ++ production.bracketed
  | _ => []

theorem contextLines_grammar_chain (file diagnostic : String) (error : ParseError)
    (trace : List String) :
    (grammar file diagnostic error.chain trace).contextLines =
      error.productions.reverse.map fun production => "while parsing " ++ production.bracketed := by
  rw [contextLines, List.filterMap_reverse, error.filterMap_production_chain]

end CheckFailure

namespace CheckRequest

def checkText (request : CheckRequest) (source : String) : Except CheckFailure CheckReport :=
  let (result, recording) := analyseText source Recording.empty
  let trace := if request.keepTrace then Event.trace recording.events else []
  match result with
  | .ok () => .ok ⟨request.file, trace, (Event.terminals recording.events).length⟩
  | .error (.scan error) => .error (.scan request.file error trace)
  | .error .alreadyRun => .error (.internal ParseError.alreadyRun.display)
  | .error error => .error (.grammar request.file error.diagnostic error.chain trace)

/-- Where a path leads nowhere there is no file; a directory, or a file that is no text, is there
but cannot be read. -/
def check (request : CheckRequest) (files : Files) : Except CheckFailure CheckReport :=
  match files.readText request.file with
  | .ok source => request.checkText source
  | .error .isADirectory => .error (.unreadable .isADirectory)
  | .error .notText => .error (.unreadable .notText)
  | .error _ => .error (.fileNotFound request.file)

end CheckRequest
end TallyCheck
