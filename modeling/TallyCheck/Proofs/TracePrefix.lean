import TallyCheck.Proofs.Observation
import TallyCheck.Proofs.Writing

/-! # Traces over limited outlets

An outlet that takes so many bytes and no more holds the beginning of the trace that a recording
would show.  What becomes of the outlet is no concern of the analysis.
-/
namespace TallyCheck
set_option autoImplicit false

def Event.traceBytes (events : List Event) : ByteArray := (unlines (trace events)).toUTF8

def Outlet.limited (limit : Nat) (flushFails : Bool) : Outlet := ⟨some limit, flushFails, .empty⟩

namespace TraceWriter

/-- What has become of a writer over an empty outlet that takes `limit` bytes, where the whole
trace of `events` was to be written. -/
structure Conveys (limit : Nat) (flushFails : Bool) (events : List Event) (writer : TraceWriter) :
    Prop where
  written_eq : writer.outlet.written =
    (Event.traceBytes events).extract 0 (min limit (Event.traceBytes events).size)
  /-- A failure to write comes before one to flush. -/
  close_eq : writer.close =
    if limit < (Event.traceBytes events).size then .error .closed
    else if flushFails then .error .flushFailed else .ok writer.outlet
  /-- The pieces in which lines reach the outlet make no difference. -/
  pieces_eq : ∀ pieces : List String, String.join pieces = unlines (Event.trace events) →
    pieces.foldl (fun current piece => current.writeText piece)
      (ofOutlet (.limited limit flushFails)) = writer

theorem writeText_limited (limit : Nat) (flushFails : Bool) (text : String) :
    (ofOutlet (.limited limit flushFails)).writeText text =
      ⟨⟨some limit, flushFails, text.toUTF8.extract 0 (min limit text.toUTF8.size)⟩,
        if limit < text.toUTF8.size then some .closed else none⟩ := by
  simp only [ofOutlet, Outlet.limited, writeText, Outlet.write, ByteArray.size_empty, Nat.sub_zero,
    ByteArray.empty_append]
  by_cases hFits : text.toUTF8.size ≤ limit
  · rw [if_pos hFits, if_neg (Nat.not_lt.mpr hFits), Nat.min_eq_right hFits,
      ByteArray.extract_zero_size]
  · have hLimit := Nat.lt_of_not_le hFits
    rw [if_neg hFits, if_pos hLimit, Nat.min_eq_left (Nat.le_of_lt hLimit)]

def ofRecording (outlet : Outlet) (recording : Recording) : TraceWriter :=
  (ofOutlet outlet).writeText (unlines (Event.trace recording.events))

theorem ofRecording_empty (outlet : Outlet) : ofRecording outlet .empty = ofOutlet outlet :=
  writeText_empty (ofOutlet outlet)

theorem conveys_ofRecording (limit : Nat) (flushFails : Bool) (recording : Recording) :
    Conveys limit flushFails recording.events
      (ofRecording (.limited limit flushFails) recording) where
  written_eq := by
    rw [ofRecording, writeText_limited]
    rfl
  close_eq := by
    rw [ofRecording, writeText_limited, ← Event.traceBytes]
    by_cases hOver : limit < (Event.traceBytes recording.events).size
    · rw [if_pos hOver, if_pos hOver]
      rfl
    · rw [if_neg hOver, if_neg hOver]
      cases flushFails <;> rfl
  pieces_eq pieces hJoin := by rw [foldl_writeText, hJoin, ofRecording]

theorem reveals_ofRecording (outlet : Outlet) : Observer.Reveals (ofRecording outlet) where
  notify event recording := by
    have hEvents : (Observer.notify event recording).events = recording.events ++ [event] :=
      Recording.events_push event recording
    rw [ofRecording, hEvents, notify_eq_writeText, ofRecording, writeText_append,
      Event.trace_append, unlines_append]
  refuse _ _ _ := rfl

end TraceWriter

/-- Over any source, whatever its outlet takes and does, the writer holds the beginning of the
trace recorded, and the analysis under it is the one under a recording and under no observer. -/
theorem Analysis.runWithin_conveys {σ : Type} [TokenSource σ] (source : σ)
    (steps limit : Nat) (flushFails : Bool) :
    let recorded := (Analysis.new source Recording.empty).runWithin steps
    let written :=
      (Analysis.new source (TraceWriter.ofOutlet (.limited limit flushFails))).runWithin steps
    let unobserved := (Analysis.new source ()).runWithin steps
    (recorded = none ∧ written = none ∧ unobserved = none) ∨
      ∃ (result : Except ParseError Unit) (last : σ) (status : Status) (recording : Recording)
          (writer : TraceWriter),
        recorded = some (result, ⟨last, recording, status⟩) ∧
        written = some (result, ⟨last, writer, status⟩) ∧
        unobserved = some (result, ⟨last, (), status⟩) ∧
        writer.Conveys limit flushFails recording.events := by
  intro recorded written unobserved
  have hWriter := TraceWriter.reveals_ofRecording (.limited limit flushFails)
  have hUnit := Observer.reveals_unit (τ := Recording) fun _ _ _ => rfl
  have hWritten := hWriter.runWithin steps (Analysis.new source Recording.empty)
  have hUnobserved := hUnit.runWithin steps (Analysis.new source Recording.empty)
  simp only [Analysis.seen, Analysis.new, TraceWriter.ofRecording_empty] at hWritten hUnobserved
  cases hRecorded : recorded with
  | none =>
    refine .inl ⟨rfl, ?_, ?_⟩
    · exact hWritten.trans (congrArg _ hRecorded)
    · exact hUnobserved.trans (congrArg _ hRecorded)
  | some outcome =>
    obtain ⟨result, last, recording, status⟩ := outcome
    refine .inr ⟨result, last, status, recording, _, rfl, ?_, ?_,
      TraceWriter.conveys_ofRecording limit flushFails recording⟩
    · exact hWritten.trans (congrArg _ hRecorded)
    · exact hUnobserved.trans (congrArg _ hRecorded)

end TallyCheck
