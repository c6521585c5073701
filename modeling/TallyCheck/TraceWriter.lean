import TallyCheck.Event
import TallyCheck.Text.Decoding

/-! # Trace writers

An observer that writes each traced event as a line to an outlet.  An outlet may take only so many
bytes.  The first failure is kept and later events are dropped; the analysis never sees it.
-/
namespace TallyCheck
set_option autoImplicit false

inductive WriteFailure where
  | closed
  | flushFailed
  deriving DecidableEq

def WriteFailure.message : WriteFailure → String
  | .closed => "closed"
  | .flushFailed => "flush failed"

/-- An outlet that takes `limit` bytes in all, or any number without a limit. -/
structure Outlet where
  limit : Option Nat
  flushFails : Bool
  written : ByteArray

namespace Outlet

def unlimited : Outlet := ⟨none, false, .empty⟩

/-- As much of the bytes as fits is written in any case. -/
def write (bytes : ByteArray) (outlet : Outlet) : Except WriteFailure Unit × Outlet :=
  match outlet.limit with
  | none => (.ok (), { outlet with written := outlet.written ++ bytes })
  | some limit =>
    let room := limit - outlet.written.size
    if bytes.size ≤ room then (.ok (), { outlet with written := outlet.written ++ bytes })
    else (.error .closed, { outlet with written := outlet.written ++ bytes.extract 0 room })

def flush (outlet : Outlet) : Except WriteFailure Unit :=
  if outlet.flushFails then .error .flushFailed else .ok ()

/-- What has been written, without a character that the limit cut short. -/
def text (outlet : Outlet) : String := (Text.decodeCut? outlet.written).getD ""

end Outlet

structure TraceWriter where
  outlet : Outlet
  failure : Option WriteFailure

namespace TraceWriter

def ofOutlet (outlet : Outlet) : TraceWriter := ⟨outlet, none⟩

def writeLine (line : String) (writer : TraceWriter) : TraceWriter :=
  match writer.failure with
  | some _ => writer
  | none =>
    match writer.outlet.write (line ++ "\n").toUTF8 with
    | (.ok (), outlet) => { writer with outlet }
    | (.error failure, outlet) => ⟨outlet, some failure⟩

def tokenLine (token : Token) : String :=
  "TOKEN " ++ token.render ++ " on line " ++ toString token.line

instance : Observer TraceWriter where
  notify
    | .terminal token, writer => writer.writeLine (tokenLine token)
    | .commence production, writer => writer.writeLine ("BEGIN " ++ production.name)
    | .finish production, writer => writer.writeLine ("END " ++ production.name)
    | .success, writer => writer.writeLine "SUCCESS"
    | .error _ _, writer => writer

/-- The lines written are those that a recorded trace shows. -/
theorem notify_eq (event : Event) (writer : TraceWriter) :
    Observer.notify event writer =
      if event.isTraced then writer.writeLine event.render else writer := by
  cases event <;> rfl

/-- The outlet, unless it has failed before or fails to flush now. -/
def close (writer : TraceWriter) : Except WriteFailure Outlet :=
  match writer.failure with
  | some failure => .error failure
  | none =>
    match writer.outlet.flush with
    | .ok () => .ok writer.outlet
    | .error failure => .error failure

end TraceWriter
end TallyCheck
