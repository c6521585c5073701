/-! # Nonterminals of the Tally grammar

The fifteen syntactic categories, in the order in which they are listed everywhere.
-/
namespace TallyCheck
set_option autoImplicit false

inductive Nonterminal where
  | statementPart | statementList | statement
  | assignmentStatement | ifStatement | whileStatement | procedureStatement | untilStatement
  | forStatement
  | argumentList | condition | conditionalOperator | expression | term | factor
  deriving DecidableEq, Repr

namespace Nonterminal

def all : List Nonterminal :=
  [statementPart, statementList, statement, assignmentStatement, ifStatement, whileStatement,
    procedureStatement, untilStatement, forStatement, argumentList, condition,
    conditionalOperator, expression, term, factor]

theorem mem_all (category : Nonterminal) : category ∈ all := by
  cases category <;> decide

def name : Nonterminal → String
  | statementPart => "StatementPart"
  | statementList => "StatementList"
  | statement => "Statement"
  | assignmentStatement => "AssignmentStatement"
  | ifStatement => "IfStatement"
  | whileStatement => "WhileStatement"
  | procedureStatement => "ProcedureStatement"
  | untilStatement => "UntilStatement"
  | forStatement => "ForStatement"
  | argumentList => "ArgumentList"
  | condition => "Condition"
  | conditionalOperator => "ConditionalOperator"
  | expression => "Expression"
  | term => "Term"
  | factor => "Factor"

def ofName? (text : String) : Option Nonterminal :=
  all.find? fun category => category.name = text

@[simp] theorem ofName?_name (category : Nonterminal) : ofName? category.name = some category := by
  cases category <;> decide

theorem name_injective {left right : Nonterminal} (h : left.name = right.name) : left = right := by
  have hRight := ofName?_name right
  rw [← h, ofName?_name] at hRight
  exact Option.some.inj hRight

def bracketed (category : Nonterminal) : String := "<" ++ category.name ++ ">"

end Nonterminal
end TallyCheck
