import TallyCheck.Event

/-! # Recordings

An observer that keeps every event, and one that answers an error with an error fixed beforehand.
-/
namespace TallyCheck
set_option autoImplicit false

structure Recording where
  log : Array Event
  deriving DecidableEq

namespace Recording

def empty : Recording := ⟨#[]⟩

def events (recording : Recording) : List Event := recording.log.toList

def push (event : Event) (recording : Recording) : Recording := ⟨recording.log.push event⟩

@[simp] theorem events_empty : empty.events = [] := rfl

@[simp] theorem events_push (event : Event) (recording : Recording) :
    (push event recording).events = recording.events ++ [event] := by
  simp [push, events]

def succeeded (recording : Recording) : Bool := recording.events.contains .success

instance : Observer Recording where
  notify := push

end Recording

/-- A recording that ends every rejection with the same error. -/
structure Substituting where
  recording : Recording
  answer : ParseError

instance : Observer Substituting where
  notify event observer := { observer with recording := observer.recording.push event }
  refuse _ _ observer := observer.answer

end TallyCheck
