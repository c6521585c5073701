import TallyCheck.Grammar.Nonterminal
import TallyCheck.ScanError

/-! # Parse errors

The cause of a failed parse and the productions it passed through on the way out.  A scan error is
passed on as it is, without the productions around it.
-/
namespace TallyCheck
set_option autoImplicit false

inductive ParseError where
  | scan (error : ScanError)
  | unexpectedToken (token : Token) (message : String)
  | alreadyRun
  | context (production : Nonterminal) (cause : ParseError)
  deriving DecidableEq

/-- One link of a chain of errors; the last has no production. -/
structure ErrorLink where
  production : Option Nonterminal
  message : String
  deriving DecidableEq

namespace ParseError

def within (production : Nonterminal) : ParseError → ParseError
  | scan error => scan error
  | alreadyRun => alreadyRun
  | error => context production error

/-- The error of several enclosing productions, the innermost of which comes first. -/
def withinAll (productions : List Nonterminal) (error : ParseError) : ParseError :=
  productions.foldl (fun inner production => inner.within production) error

def innermost : ParseError → ParseError
  | context _ cause => cause.innermost
  | error => error

/-- The enclosing productions, outermost first. -/
def productions : ParseError → List Nonterminal
  | context production cause => production :: cause.productions
  | _ => []

def depth : ParseError → Nat
  | context _ cause => cause.depth + 1
  | _ => 0

/-- What an error is put down to.  A scan error stands for itself, with nothing behind it. -/
def cause? : ParseError → Option ParseError
  | context _ cause => some cause
  | _ => none

/-- The errors met by going from each error to its cause. -/
def causes : ParseError → List ParseError
  | context _ cause => cause :: cause.causes
  | _ => []

def display : ParseError → String
  | scan error => error.message
  | unexpectedToken token message =>
    "SYNTAX ERROR on line " ++ toString (token.line + 1) ++ ": " ++ message ++
      " (Encountered token: " ++ token.symbol.name ++ " '" ++ token.text ++ "')"
  | alreadyRun => "syntax analysis has already been run"
  | context production _ => "Error while parsing " ++ production.bracketed

def diagnostic (error : ParseError) : String := error.innermost.display

def token? (error : ParseError) : Option Token :=
  match error.innermost with
  | unexpectedToken token _ => some token
  | _ => none

def message? (error : ParseError) : Option String :=
  match error.innermost with
  | unexpectedToken _ message => some message
  | _ => none

def line? (error : ParseError) : Option Nat :=
  match error.innermost with
  | unexpectedToken token _ => some (token.line + 1)
  | scan error => some (error.line + 1)
  | _ => none

/-- The enclosing productions, outermost first, and the cause. -/
def chain (error : ParseError) : List ErrorLink :=
  error.productions.map (fun production =>
    ⟨some production, "Error while parsing " ++ production.bracketed⟩) ++
    [⟨none, error.diagnostic⟩]

/-- The diagnostic and, indented below it, the enclosing productions, innermost first. -/
def report (error : ParseError) : String :=
  error.diagnostic ++ String.join (error.productions.reverse.map fun production =>
    "\n  while parsing " ++ production.bracketed)

theorem depth_eq_length_productions (error : ParseError) :
    error.depth = error.productions.length := by
  induction error with
  | context production cause ih => simp [depth, productions, ih]
  | _ => rfl

theorem filterMap_production_chain (error : ParseError) :
    error.chain.filterMap ErrorLink.production = error.productions := by
  rw [chain, List.filterMap_append, List.filterMap_map]
  exact (List.append_nil _).trans List.filterMap_some

@[simp] theorem innermost_within (production : Nonterminal) (error : ParseError) :
    (error.within production).innermost = error.innermost := by
  cases error <;> rfl

@[simp] theorem innermost_withinAll (productions : List Nonterminal) (error : ParseError) :
    (error.withinAll productions).innermost = error.innermost := by
  induction productions generalizing error with
  | nil => rfl
  | cons production productions ih => exact (ih _).trans (innermost_within production error)

@[simp] theorem token?_withinAll (productions : List Nonterminal) (error : ParseError) :
    (error.withinAll productions).token? = error.token? := by
  rw [token?, token?, innermost_withinAll]

@[simp] theorem message?_withinAll (productions : List Nonterminal) (error : ParseError) :
    (error.withinAll productions).message? = error.message? := by
  rw [message?, message?, innermost_withinAll]

end ParseError
end TallyCheck
