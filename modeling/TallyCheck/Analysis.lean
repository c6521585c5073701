import TallyCheck.Analysis.Run

/-! # Analyses

An analysis holds a source and an observer, and runs once.
-/
namespace TallyCheck
set_option autoImplicit false

inductive Status where
  | notStarted | running | succeeded | failed
  deriving DecidableEq

def Ended.status {σ τ : Type} (ended : Ended σ τ) : Status :=
  match ended.result with
  | .ok () => .succeeded
  | .error _ => .failed

structure Analysis (σ τ : Type) where
  source : σ
  observer : τ
  status : Status

namespace Analysis

variable {σ τ : Type}

def new (source : σ) (observer : τ) : Analysis σ τ := ⟨source, observer, .notStarted⟩

def started (analysis : Analysis σ τ) : Analysis σ τ := { analysis with status := .running }

def concluded (analysis : Analysis σ τ) (ended : Ended σ τ) : Analysis σ τ :=
  { analysis with source := ended.source, observer := ended.observer, status := ended.status }

/-- An analysis that has been called before is left as it is. -/
def run [FiniteSource σ] [Observer τ] (analysis : Analysis σ τ) :
    Except ParseError Unit × Analysis σ τ :=
  match analysis.status with
  | .notStarted =>
    let running := analysis.started
    let ended := (Run.start running.source running.observer).finish
    (ended.result, running.concluded ended)
  | .running | .succeeded | .failed => (.error .alreadyRun, analysis)

/-- The same over any source, if the run ends within `limit` tokens. -/
def runWithin [TokenSource σ] [Observer τ] (limit : Nat) (analysis : Analysis σ τ) :
    Option (Except ParseError Unit × Analysis σ τ) :=
  match analysis.status with
  | .notStarted =>
    let running := analysis.started
    ((Run.start running.source running.observer).finishWithin limit).map fun ended =>
      (ended.result, running.concluded ended)
  | .running | .succeeded | .failed => some (.error .alreadyRun, analysis)

end Analysis

def analyseText {τ : Type} [Observer τ] (source : String) (observer : τ) :
    Except ParseError Unit × τ :=
  let ended := (Run.start (Padded.ofProducer (Scanner.ofString source)) observer).finish
  (ended.result, ended.observer)

end TallyCheck
