import TallyCheck.Command.Outcome
import TallyCheck.Proofs.Feed
import TallyCheck.TraceWriter

/-! # What a trace writer has written

A text reaches its outlet in any pieces as it would in one, up to the first piece that does not fit.
So the trace of the events a writer has heard of, line by line, is written like one text; and over
an outlet without a limit the whole of it is.
-/
namespace TallyCheck
set_option autoImplicit false

namespace Outlet

theorem write_append_of_ok {outlet next : Outlet} {front : ByteArray}
    (h : outlet.write front = (.ok (), next)) (back : ByteArray) :
    next.write back = outlet.write (front ++ back) := by
  obtain ⟨limit, flushFails, written⟩ := outlet
  cases limit with
  | none =>
    cases h
    simp only [write, ByteArray.append_assoc]
  | some limit =>
    simp only [write] at h
    split at h
    · rename_i hFront
      cases h
      simp only [write, ByteArray.size_append]
      have hRoom : limit - (written.size + front.size) = limit - written.size - front.size :=
        Nat.sub_add_eq _ _ _
      have hFits : back.size ≤ limit - written.size - front.size ↔
          front.size + back.size ≤ limit - written.size := by omega
      rw [hRoom]
      simp only [hFits, ByteArray.append_assoc]
      split
      · rfl
      · have hWhole := ByteArray.extract_zero_max_size (a := front) (i := limit - written.size)
        rw [Nat.max_eq_left hFront] at hWhole
        rw [ByteArray.extract_append, hWhole, Nat.zero_sub]
    · cases h

theorem write_append_of_error {outlet next : Outlet} {front : ByteArray} {failure : WriteFailure}
    (h : outlet.write front = (.error failure, next)) (back : ByteArray) :
    outlet.write (front ++ back) = (.error failure, next) := by
  obtain ⟨limit, flushFails, written⟩ := outlet
  cases limit with
  | none => cases h
  | some limit =>
    simp only [write] at h
    split at h
    · cases h
    · rename_i hFront
      cases h
      have hNone : limit - written.size - front.size = 0 := by omega
      have hBoth : ¬ (front ++ back).size ≤ limit - written.size := by
        rw [ByteArray.size_append]
        omega
      simp only [write, if_neg hBoth]
      rw [ByteArray.extract_append, hNone, Nat.zero_sub, ByteArray.extract_same,
        ByteArray.append_empty]

end Outlet

namespace TraceWriter

/-- A text in one piece; a line is written with its line feed. -/
def writeText (text : String) (writer : TraceWriter) : TraceWriter :=
  match writer.failure with
  | some _ => writer
  | none =>
    match writer.outlet.write text.toUTF8 with
    | (.ok (), outlet) => { writer with outlet }
    | (.error failure, outlet) => ⟨outlet, some failure⟩

theorem writeLine_eq_writeText (line : String) (writer : TraceWriter) :
    writer.writeLine line = writer.writeText (line ++ "\n") := rfl

theorem writeText_empty (writer : TraceWriter) : writer.writeText "" = writer := by
  obtain ⟨⟨limit, flushFails, written⟩, failure⟩ := writer
  have hNone : ("" : String).toUTF8 = ByteArray.empty := rfl
  cases failure with
  | some failure => rfl
  | none =>
    cases limit with
    | none => simp only [writeText, Outlet.write, hNone, ByteArray.append_empty]
    | some limit =>
      simp only [writeText, Outlet.write, hNone, ByteArray.append_empty, ByteArray.size_empty,
        Nat.zero_le, if_true]

theorem writeText_append (front back : String) (writer : TraceWriter) :
    (writer.writeText front).writeText back = writer.writeText (front ++ back) := by
  obtain ⟨outlet, failure⟩ := writer
  have hBytes : (front ++ back).toUTF8 = front.toUTF8 ++ back.toUTF8 := String.toByteArray_append
  cases failure with
  | some failure => rfl
  | none =>
    rcases hFront : outlet.write front.toUTF8 with ⟨answer, next⟩
    cases answer with
    | ok =>
      have hBack := Outlet.write_append_of_ok hFront back.toUTF8
      simp only [writeText, hFront, hBytes, hBack]
    | error failure =>
      have hBack := Outlet.write_append_of_error hFront back.toUTF8
      simp only [writeText, hFront, hBytes, hBack]

theorem foldl_writeText (pieces : List String) (writer : TraceWriter) :
    pieces.foldl (fun current piece => current.writeText piece) writer =
      writer.writeText (String.join pieces) := by
  induction pieces generalizing writer with
  | nil => exact (writeText_empty writer).symm
  | cons piece pieces ih => rw [List.foldl_cons, ih, writeText_append, String.join_cons]

theorem notify_eq_writeText (event : Event) (writer : TraceWriter) :
    Observer.notify event writer = writer.writeText (unlines (Event.trace [event])) := by
  rw [notify_eq]
  cases hTraced : event.isTraced with
  | false =>
    rw [Event.trace, List.filter_cons_of_neg (Bool.eq_false_iff.mp hTraced)]
    exact (writeText_empty writer).symm
  | true =>
    rw [Event.trace, List.filter_cons_of_pos hTraced, List.filter_nil, List.map_singleton,
      unlines_cons, unlines_nil, String.append_empty]
    exact writeLine_eq_writeText _ writer

theorem notifyAll_eq_writeText (events : List Event) (writer : TraceWriter) :
    Observer.notifyAll events writer = writer.writeText (unlines (Event.trace events)) := by
  induction events generalizing writer with
  | nil => exact (writeText_empty writer).symm
  | cons event events ih =>
    calc
      _ = Observer.notifyAll events (Observer.notify event writer) := rfl
      _ = (writer.writeText (unlines (Event.trace [event]))).writeText
          (unlines (Event.trace events)) := by rw [ih, notify_eq_writeText]
      _ = writer.writeText (unlines (Event.trace ([event] ++ events))) := by
        rw [writeText_append, Event.trace_append, unlines_append]

def ofText (text : String) : TraceWriter :=
  ofOutlet { Outlet.unlimited with written := text.toUTF8 }

theorem notifyAll_ofText (events : List Event) (text : String) :
    Observer.notifyAll events (ofText text) = ofText (text ++ unlines (Event.trace events)) := by
  have hBytes : (text ++ unlines (Event.trace events)).toUTF8 =
      text.toUTF8 ++ (unlines (Event.trace events)).toUTF8 := String.toByteArray_append
  rw [notifyAll_eq_writeText, ofText, ofText, hBytes]
  rfl

theorem close_ofText (text : String) :
    (ofText text).close = .ok { Outlet.unlimited with written := text.toUTF8 } := rfl

end TraceWriter
end TallyCheck
