import TallyCheck.ParseError

/-! # Events of an analysis

What an analysis reports while it runs, and the lines of the trace that shows it.  An error is
reported but has no line in the trace.
-/
namespace TallyCheck
set_option autoImplicit false

inductive Event where
  | terminal (token : Token)
  | commence (production : Nonterminal)
  | finish (production : Nonterminal)
  | success
  | error (token : Token) (message : String)
  deriving DecidableEq

namespace Event

def isTraced : Event → Bool
  | error _ _ => false
  | _ => true

/-- Lines are shown counted from zero in a trace. -/
def render : Event → String
  | terminal token => "TOKEN " ++ token.render ++ " on line " ++ toString token.line
  | commence production => "BEGIN " ++ production.name
  | finish production => "END " ++ production.name
  | success => "SUCCESS"
  | error token message => (ParseError.unexpectedToken token message).display

def token? : Event → Option Token
  | terminal token => some token
  | _ => none

def terminals (events : List Event) : List Token := events.filterMap token?

@[simp] theorem terminals_nil : terminals [] = [] := rfl

@[simp] theorem terminals_append (front back : List Event) :
    terminals (front ++ back) = terminals front ++ terminals back :=
  List.filterMap_append

@[simp] theorem terminals_terminal_cons (token : Token) (events : List Event) :
    terminals (.terminal token :: events) = token :: terminals events := rfl

@[simp] theorem terminals_commence_cons (category : Nonterminal) (events : List Event) :
    terminals (.commence category :: events) = terminals events := rfl

@[simp] theorem terminals_finish_cons (category : Nonterminal) (events : List Event) :
    terminals (.finish category :: events) = terminals events := rfl

def trace (events : List Event) : List String :=
  (events.filter isTraced).map render

theorem trace_append (front back : List Event) :
    trace (front ++ back) = trace front ++ trace back := by
  rw [trace, List.filter_append, List.map_append, trace, trace]

/-- The productions open after the events, innermost first, when `stack` was open before; none if
a production finishes that is not the innermost. -/
def replay (stack : List Nonterminal) : List Event → Option (List Nonterminal)
  | [] => some stack
  | commence production :: events => replay (production :: stack) events
  | finish production :: events =>
    match stack with
    | [] => none
    | innermost :: outer => if innermost = production then replay outer events else none
  | _ :: events => replay stack events

/-- The productions left open by a list of events, outermost first. -/
def stillOpen (events : List Event) : Option (List Nonterminal) :=
  (replay [] events).map List.reverse

end Event

class Observer (τ : Type) where
  notify : Event → τ → τ
  /-- The error with which an analysis ends after an error event. -/
  refuse : Token → String → τ → ParseError :=
    fun token message _ => .unexpectedToken token message

instance : Observer Unit where
  notify _ _ := ()

def Observer.notifyAll {τ : Type} [Observer τ] (events : List Event) (observer : τ) : τ :=
  events.foldl (fun current event => notify event current) observer

end TallyCheck
