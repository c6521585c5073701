import TallyCheck.Grammar.First
import TallyCheck.Grammar.Production

/-! # Expectations

What would have been accepted where a token is rejected, and how the rejection is worded.
-/
namespace TallyCheck
set_option autoImplicit false

/-- The names from the second on of three or more, the last behind a conjunction. -/
def Symbol.enumerate : List Symbol → String
  | [] => ""
  | [last] => "or " ++ last.name
  | symbol :: symbols => symbol.name ++ ", " ++ enumerate symbols

/-- A list of symbols in words: nothing, one name, two names, or an enumeration. -/
def Symbol.describe : List Symbol → String
  | [] => ""
  | [only] => only.name
  | [left, right] => left.name ++ " or " ++ right.name
  | symbols => enumerate symbols

namespace Choice

/-- The symbols listed where no branch is taken, from a table beside the branches. -/
def listed : Choice → List Symbol
  | statement => Nonterminal.statement.first
  | conditionalOperator => Nonterminal.conditionalOperator.first
  | assignmentValue => assignmentValues.flatten
  | conditionOperand => conditionOperands.flatten
  | factor => Nonterminal.factor.first

theorem listed_eq_leads (choice : Choice) : choice.listed = choice.leads := by
  cases choice <;> decide

end Choice

inductive Expectation where
  | symbol (symbol : Symbol)
  | choice (choice : Choice)
  deriving DecidableEq

namespace Expectation

def symbols : Expectation → List Symbol
  | symbol expected => [expected]
  | choice expected => expected.leads

def message : Expectation → Symbol → String
  | symbol expected, found => "Expected token " ++ expected.name ++ " but found " ++ found.name
  | choice .statement, _ =>
    "Invalid start of " ++ Nonterminal.statement.bracketed ++ "; expecting " ++
      Symbol.describe Choice.statement.listed
  | choice .conditionalOperator, _ =>
    "Expected a conditional operator (" ++
      " ".intercalate (Choice.conditionalOperator.listed.map Symbol.name) ++ ")"
  | choice .assignmentValue, _ => within .assignmentValue .assignmentStatement
  | choice .conditionOperand, _ => within .conditionOperand .condition
  | choice .factor, _ => within .factor .factor
where
  within (expected : Choice) (category : Nonterminal) : String :=
    "Expected " ++ Symbol.describe expected.listed ++ " in " ++ category.bracketed

end Expectation
end TallyCheck
