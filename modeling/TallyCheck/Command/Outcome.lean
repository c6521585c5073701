/-! # Outcomes of commands

What a command leaves behind: its exit code and what it writes.
-/
namespace TallyCheck
set_option autoImplicit false

inductive ErrorOutput where
  | text (text : String)
  | usage
  /-- The text, among log lines of which nothing is said here. -/
  | logged (text : String)
  deriving DecidableEq

structure Outcome where
  exit : Nat
  stdout : String
  stderr : ErrorOutput
  deriving DecidableEq

/-- A text of several lines, each with its line feed. -/
def unlines (lines : List String) : String := String.join (lines.map fun line => line ++ "\n")

@[simp] theorem unlines_nil : unlines [] = "" := rfl

@[simp] theorem unlines_cons (line : String) (lines : List String) :
    unlines (line :: lines) = line ++ "\n" ++ unlines lines := String.join_cons

theorem unlines_append (front back : List String) :
    unlines (front ++ back) = unlines front ++ unlines back := by
  rw [unlines, List.map_append, String.join_append, unlines, unlines]

end TallyCheck
