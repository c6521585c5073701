import TallyCheck.Grammar.Nonterminal
import TallyCheck.Symbol

/-! # Leading symbols

A table of the symbols that can begin each nonterminal, one list for each of its alternatives, and
such tables for the two places where alternatives stand inside a production.
-/
namespace TallyCheck
set_option autoImplicit false

namespace Nonterminal

def alternatives : Nonterminal → List (List Symbol)
  | statementPart => [[.beginWord]]
  | statementList => [[.identifier, .ifWord, .whileWord, .callWord, .doWord, .forWord]]
  | statement => [[.identifier], [.ifWord], [.whileWord], [.callWord], [.doWord], [.forWord]]
  | assignmentStatement => [[.identifier]]
  | ifStatement => [[.ifWord]]
  | whileStatement => [[.whileWord]]
  | procedureStatement => [[.callWord]]
  | untilStatement => [[.doWord]]
  | forStatement => [[.forWord]]
  | argumentList => [[.identifier]]
  | condition => [[.identifier]]
  | conditionalOperator =>
    [[.greaterThan], [.greaterEqual], [.equal], [.notEqual], [.lessThan], [.lessEqual]]
  | expression => [[.identifier, .numberConstant, .leftParen]]
  | term => [[.identifier, .numberConstant, .leftParen]]
  | factor => [[.identifier], [.numberConstant], [.leftParen]]

def first (category : Nonterminal) : List Symbol := category.alternatives.flatten

def starts (category : Nonterminal) (symbol : Symbol) : Bool :=
  category.alternatives.any fun alternative => symbol ∈ alternative

theorem starts_iff_mem_first (category : Nonterminal) (symbol : Symbol) :
    category.starts symbol = true ↔ symbol ∈ category.first := by
  simp [starts, first]

end Nonterminal

def assignmentValues : List (List Symbol) :=
  [[.stringConstant], [.identifier, .numberConstant, .leftParen]]

def conditionOperands : List (List Symbol) :=
  [[.identifier], [.numberConstant], [.stringConstant]]

end TallyCheck
