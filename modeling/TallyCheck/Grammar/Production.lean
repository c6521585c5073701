import TallyCheck.Grammar.Nonterminal
import TallyCheck.Symbol

/-! # Productions of the Tally grammar

Each nonterminal stands for one sequence of phrases.  A phrase is a grammar symbol, a choice, a
repetition that goes on while one of its separators follows, or an option taken when its leading
symbol follows.  No production mentions end-of-input.  How productions are followed is not said
here.
-/
namespace TallyCheck
set_option autoImplicit false

inductive Part where
  | terminal (symbol : Symbol) (inner : symbol ≠ .endOfInput := by decide)
  | nonterminal (category : Nonterminal)
  deriving DecidableEq

/-- The choices of the grammar.  Statements, conditional operators and factors are nothing else. -/
inductive Choice where
  | statement | conditionalOperator | assignmentValue | conditionOperand | factor
  deriving DecidableEq

/-- One way to go on, taken when one of the leading symbols follows. -/
structure Branch where
  leads : List Symbol
  parts : List Part
  deriving DecidableEq

namespace Choice

def branches : Choice → List Branch
  | statement =>
    [⟨[.identifier], [.nonterminal .assignmentStatement]⟩,
      ⟨[.ifWord], [.nonterminal .ifStatement]⟩,
      ⟨[.whileWord], [.nonterminal .whileStatement]⟩,
      ⟨[.callWord], [.nonterminal .procedureStatement]⟩,
      ⟨[.doWord], [.nonterminal .untilStatement]⟩,
      ⟨[.forWord], [.nonterminal .forStatement]⟩]
  | conditionalOperator =>
    [⟨[.greaterThan], [.terminal .greaterThan]⟩,
      ⟨[.greaterEqual], [.terminal .greaterEqual]⟩,
      ⟨[.equal], [.terminal .equal]⟩,
      ⟨[.notEqual], [.terminal .notEqual]⟩,
      ⟨[.lessThan], [.terminal .lessThan]⟩,
      ⟨[.lessEqual], [.terminal .lessEqual]⟩]
  | assignmentValue =>
    [⟨[.stringConstant], [.terminal .stringConstant]⟩,
      ⟨[.identifier, .numberConstant, .leftParen], [.nonterminal .expression]⟩]
  | conditionOperand =>
    [⟨[.identifier], [.terminal .identifier]⟩,
      ⟨[.numberConstant], [.terminal .numberConstant]⟩,
      ⟨[.stringConstant], [.terminal .stringConstant]⟩]
  | factor =>
    [⟨[.identifier], [.terminal .identifier]⟩,
      ⟨[.numberConstant], [.terminal .numberConstant]⟩,
      ⟨[.leftParen],
        [.terminal .leftParen, .nonterminal .expression, .terminal .rightParen]⟩]

def leads (choice : Choice) : List Symbol := choice.branches.flatMap Branch.leads

def branch? (choice : Choice) (lookahead : Symbol) : Option Branch :=
  choice.branches.find? fun branch => lookahead ∈ branch.leads

theorem branch?_isSome_iff (choice : Choice) (lookahead : Symbol) :
    (choice.branch? lookahead).isSome ↔ lookahead ∈ choice.leads := by
  simp [branch?, leads, List.find?_isSome]

end Choice

def addingOperators : List Symbol := [.plus, .minus]

def multiplyingOperators : List Symbol := [.times, .divide, .modulus]

inductive Phrase where
  | part (part : Part)
  | choice (choice : Choice)
  /-- Any number of items, each behind one of the separators. -/
  | repeated (separators : List Symbol) (item : Part)
    (inner : .endOfInput ∉ separators := by decide)
  /-- Nothing, or an item behind its leading symbol. -/
  | optional (lead : Symbol) (item : Part) (inner : lead ≠ .endOfInput := by decide)
  deriving DecidableEq

namespace Phrase

def terminal (symbol : Symbol) (inner : symbol ≠ .endOfInput := by decide) : Phrase :=
  .part (.terminal symbol inner)

def nonterminal (category : Nonterminal) : Phrase := .part (.nonterminal category)

end Phrase

open Phrase in
def Nonterminal.phrases : Nonterminal → List Phrase
  | .statementPart => [terminal .beginWord, nonterminal .statementList, terminal .endWord]
  | .statementList => [nonterminal .statement, repeated [.semicolon] (.nonterminal .statement)]
  | .statement => [choice .statement]
  | .assignmentStatement => [terminal .identifier, terminal .becomes, choice .assignmentValue]
  | .ifStatement =>
    [terminal .ifWord, nonterminal .condition, terminal .thenWord, nonterminal .statementList,
      optional .elseWord (.nonterminal .statementList), terminal .endWord, terminal .ifWord]
  | .whileStatement =>
    [terminal .whileWord, nonterminal .condition, terminal .loopWord, nonterminal .statementList,
      terminal .endWord, terminal .loopWord]
  | .procedureStatement =>
    [terminal .callWord, terminal .identifier, terminal .leftParen, nonterminal .argumentList,
      terminal .rightParen]
  | .untilStatement =>
    [terminal .doWord, nonterminal .statementList, terminal .untilWord, nonterminal .condition]
  | .forStatement =>
    [terminal .forWord, terminal .leftParen, nonterminal .assignmentStatement,
      terminal .semicolon, nonterminal .condition, terminal .semicolon,
      nonterminal .assignmentStatement, terminal .rightParen, terminal .doWord,
      nonterminal .statementList, terminal .endWord, terminal .loopWord]
  | .argumentList => [terminal .identifier, repeated [.comma] (.terminal .identifier)]
  | .condition =>
    [terminal .identifier, nonterminal .conditionalOperator, choice .conditionOperand]
  | .conditionalOperator => [choice .conditionalOperator]
  | .expression => [nonterminal .term, repeated addingOperators (.nonterminal .term)]
  | .term => [nonterminal .factor, repeated multiplyingOperators (.nonterminal .factor)]
  | .factor => [choice .factor]

end TallyCheck
