import TallyCheck.Analysis

/-! # One analysis, several observers

An analysis hears from its observer only when a token is rejected.  Where two observers answer a
rejection alike, it takes the same course under both, and if one of them can be told from the other
event by event, it can still be told from the other at the end.
-/
namespace TallyCheck
set_option autoImplicit false

/-- `view` tells what one observer has become from what another has become of the same events. -/
structure Observer.Reveals {τ υ : Type} [Observer τ] [Observer υ] (view : τ → υ) : Prop where
  notify : ∀ (event : Event) (observer : τ),
    view (Observer.notify event observer) = Observer.notify event (view observer)
  refuse : ∀ (token : Token) (message : String) (observer : τ),
    Observer.refuse token message (view observer) = Observer.refuse token message observer

theorem Observer.reveals_unit {τ : Type} [Observer τ]
    (h : ∀ (token : Token) (message : String) (observer : τ),
      Observer.refuse token message observer = .unexpectedToken token message) :
    Observer.Reveals fun _ : τ => () where
  notify _ _ := rfl
  refuse token message observer := (h token message observer).symm

section Views

variable {σ τ υ : Type}

def Run.seen (view : τ → υ) (run : Run σ τ) : Run σ υ :=
  { run with observer := view run.observer }

def Ended.seen (view : τ → υ) (ended : Ended σ τ) : Ended σ υ :=
  { ended with observer := view ended.observer }

def Progress.seen (view : τ → υ) : Progress σ τ → Progress σ υ
  | .going next => .going (next.seen view)
  | .ended last => .ended (last.seen view)

def Analysis.seen (view : τ → υ) (analysis : Analysis σ τ) : Analysis σ υ :=
  { analysis with observer := view analysis.observer }

variable [Observer τ] [Observer υ] {view : τ → υ}

namespace Observer.Reveals

theorem notifyAll (h : Reveals view) (events : List Event) (observer : τ) :
    view (Observer.notifyAll events observer) = Observer.notifyAll events (view observer) := by
  induction events generalizing observer with
  | nil => rfl
  | cons event events ih =>
    calc
      _ = Observer.notifyAll events (view (Observer.notify event observer)) := ih _
      _ = Observer.notifyAll (event :: events) (view observer) := by
        rw [h.notify]
        rfl

theorem meet (h : Reveals view) (token : Token) (source : σ) (observer : τ)
    (goals : List Goal) :
    Run.meet token source (view observer) goals =
      (Run.meet token source observer goals).seen view := by
  unfold Run.meet
  rcases predict token.symbol goals with ⟨events, verdict⟩
  cases verdict with
  | accept rest => simp only [Progress.seen, Run.seen, h.notify, h.notifyAll]
  | complete => simp only [Progress.seen, Ended.seen, h.notify, h.notifyAll]
  | reject expected rest =>
    simp only [Progress.seen, Ended.seen, h.notify, ← h.notifyAll, h.refuse]

theorem step [TokenSource σ] (h : Reveals view) (run : Run σ τ) :
    (run.seen view).step = run.step.seen view := by
  obtain ⟨source, observer, goals⟩ := run
  change (Run.mk source (view observer) goals).step = _
  unfold Run.step
  rcases TokenSource.next source with ⟨answer, next⟩
  cases answer with
  | error error => rfl
  | ok token => exact h.meet token next observer goals

theorem finishWithin [TokenSource σ] (h : Reveals view) (limit : Nat) (run : Run σ τ) :
    (run.seen view).finishWithin limit = (run.finishWithin limit).map (Ended.seen view) := by
  induction limit generalizing run with
  | zero => rfl
  | succ limit ih =>
    rw [Run.finishWithin, Run.finishWithin, h.step]
    cases run.step with
    | going next => exact ih next
    | ended ended => rfl

theorem runWithin [TokenSource σ] (h : Reveals view) (limit : Nat) (analysis : Analysis σ τ) :
    (analysis.seen view).runWithin limit =
      (analysis.runWithin limit).map fun outcome => (outcome.1, outcome.2.seen view) := by
  obtain ⟨source, observer, status⟩ := analysis
  cases status with
  | notStarted =>
    have hFinish := h.finishWithin limit (Run.start source observer)
    change Option.map _ (((Run.start source observer).seen view).finishWithin limit) = _
    rw [hFinish, Analysis.runWithin]
    simp only [Option.map_map]
    rfl
  | running | succeeded | failed => rfl

end Observer.Reveals
end Views
end TallyCheck
