import TallyCheck.Prediction
import TallyCheck.TokenSource

/-! # Runs

A run asks its source for a token, follows the grammar up to that token, reports what happens to
its observer, and goes on with the goals that are left.  It ends with the first error of the
source, the first token rejected, or the end of the input.
-/
namespace TallyCheck
set_option autoImplicit false

structure Run (σ τ : Type) where
  source : σ
  observer : τ
  goals : List Goal

structure Ended (σ τ : Type) where
  result : Except ParseError Unit
  source : σ
  observer : τ

inductive Progress (σ τ : Type) where
  | going (run : Run σ τ)
  | ended (ended : Ended σ τ)

namespace Run

variable {σ τ : Type}

def start (source : σ) (observer : τ) : Run σ τ :=
  ⟨source, observer, [.phrase (.nonterminal .statementPart)]⟩

/-- A token is rejected with the observer's error, in the context of the productions still open. -/
def meet [Observer τ] (token : Token) (source : σ) (observer : τ) (goals : List Goal) :
    Progress σ τ :=
  let prediction := predict token.symbol goals
  let current := Observer.notifyAll prediction.events observer
  match prediction.verdict with
  | .accept rest => .going ⟨source, Observer.notify (.terminal token) current, rest⟩
  | .complete => .ended ⟨.ok (), source, Observer.notify .success current⟩
  | .reject expected rest =>
    let message := expected.message token.symbol
    let error := Observer.refuse token message current
    .ended ⟨.error (error.withinAll (Goal.enclosing rest)), source,
      Observer.notify (.error token message) current⟩

def step [TokenSource σ] [Observer τ] (run : Run σ τ) : Progress σ τ :=
  match TokenSource.next run.source with
  | (.error error, source) => .ended ⟨.error (.scan error), source, run.observer⟩
  | (.ok token, source) => meet token source run.observer run.goals

theorem next_of_step_going [TokenSource σ] [Observer τ] {run next : Run σ τ}
    (h : run.step = .going next) :
    ∃ token, (TokenSource.next run.source).1 = .ok token ∧ token.symbol ≠ .endOfInput ∧
      next.source = (TokenSource.next run.source).2 := by
  revert h
  unfold step meet
  split
  · exact nofun
  · rename_i token source hNext
    simp only
    split
    · rename_i rest hAccept
      intro h
      cases h
      exact ⟨token, by rw [hNext], predict_accept_ne_endOfInput hAccept, by rw [hNext]⟩
    · exact nofun
    · exact nofun

theorem remaining_lt_of_step_going [FiniteSource σ] [Observer τ] {run next : Run σ τ}
    (h : run.step = .going next) :
    FiniteSource.remaining next.source < FiniteSource.remaining run.source := by
  obtain ⟨token, hToken, hEnd, hSource⟩ := next_of_step_going h
  rw [hSource]
  exact FiniteSource.remaining_lt run.source token hToken hEnd

def finish [FiniteSource σ] [Observer τ] (run : Run σ τ) : Ended σ τ :=
  match _h : run.step with
  | .going next => next.finish
  | .ended ended => ended
termination_by FiniteSource.remaining run.source
decreasing_by exact remaining_lt_of_step_going _h

theorem finish_of_going [FiniteSource σ] [Observer τ] {run next : Run σ τ}
    (h : run.step = .going next) : run.finish = next.finish := by
  rw [finish.eq_def]
  split
  · rename_i other hOther
    cases h.symm.trans hOther
    rfl
  · rename_i ended hEnded
    cases h.symm.trans hEnded

theorem finish_of_ended [FiniteSource σ] [Observer τ] {run : Run σ τ} {ended : Ended σ τ}
    (h : run.step = .ended ended) : run.finish = ended := by
  rw [finish.eq_def]
  split
  · rename_i next hNext
    cases h.symm.trans hNext
  · rename_i other hOther
    cases h.symm.trans hOther
    rfl

/-- The run over any source, if it ends within `limit` tokens. -/
def finishWithin [TokenSource σ] [Observer τ] : Nat → Run σ τ → Option (Ended σ τ)
  | 0, _ => none
  | limit + 1, run =>
    match run.step with
    | .going next => next.finishWithin limit
    | .ended ended => some ended

theorem finishWithin_eq_finish [FiniteSource σ] [Observer τ] (limit : Nat) (run : Run σ τ)
    (h : FiniteSource.remaining run.source < limit) :
    run.finishWithin limit = some run.finish := by
  induction limit generalizing run with
  | zero => exact absurd h (Nat.not_lt_zero _)
  | succ limit ih =>
    rw [finishWithin]
    cases hStep : run.step with
    | going next =>
      have hLt := remaining_lt_of_step_going hStep
      rw [finish_of_going hStep]
      exact ih next (by omega)
    | ended ended => rw [finish_of_ended hStep]

end Run
end TallyCheck
