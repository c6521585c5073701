import TallyCheck.Grammar.Production

/-! # Derivations

What each nonterminal may be replaced by, with choices made, options taken or left, and
repetitions written out, and the symbol sequences derived in this way.  Nothing here depends on
the symbol that comes next, nor on how an analysis follows the productions.
-/
namespace TallyCheck
set_option autoImplicit false

/-- Any number of items, each behind a separator. -/
inductive Repeats (separators : List Symbol) (item : Part) : List Part → Prop where
  | done : Repeats separators item []
  | more {separator : Symbol} {inner : separator ≠ .endOfInput} {parts : List Part}
      (mem : separator ∈ separators) (rest : Repeats separators item parts) :
      Repeats separators item (.terminal separator inner :: item :: parts)

open TallyCheck.Part in
/-- The productions of the grammar, each by its right-hand sides. -/
inductive Produces : Nonterminal → List Part → Prop where
  | statementPart :
      Produces .statementPart
        [terminal .beginWord, nonterminal .statementList, terminal .endWord]
  | statementList {parts : List Part}
      (more : Repeats [.semicolon] (nonterminal .statement) parts) :
      Produces .statementList (nonterminal .statement :: parts)
  | statement {kind : Nonterminal}
      (mem : kind ∈ [Nonterminal.assignmentStatement, .ifStatement, .whileStatement,
        .procedureStatement, .untilStatement, .forStatement]) :
      Produces .statement [nonterminal kind]
  | stringAssignment :
      Produces .assignmentStatement
        [terminal .identifier, terminal .becomes, terminal .stringConstant]
  | assignment :
      Produces .assignmentStatement
        [terminal .identifier, terminal .becomes, nonterminal .expression]
  | ifThen :
      Produces .ifStatement
        [terminal .ifWord, nonterminal .condition, terminal .thenWord,
          nonterminal .statementList, terminal .endWord, terminal .ifWord]
  | ifThenElse :
      Produces .ifStatement
        [terminal .ifWord, nonterminal .condition, terminal .thenWord,
          nonterminal .statementList, terminal .elseWord, nonterminal .statementList,
          terminal .endWord, terminal .ifWord]
  | whileLoop :
      Produces .whileStatement
        [terminal .whileWord, nonterminal .condition, terminal .loopWord,
          nonterminal .statementList, terminal .endWord, terminal .loopWord]
  | call :
      Produces .procedureStatement
        [terminal .callWord, terminal .identifier, terminal .leftParen,
          nonterminal .argumentList, terminal .rightParen]
  | doUntil :
      Produces .untilStatement
        [terminal .doWord, nonterminal .statementList, terminal .untilWord,
          nonterminal .condition]
  | forLoop :
      Produces .forStatement
        [terminal .forWord, terminal .leftParen, nonterminal .assignmentStatement,
          terminal .semicolon, nonterminal .condition, terminal .semicolon,
          nonterminal .assignmentStatement, terminal .rightParen, terminal .doWord,
          nonterminal .statementList, terminal .endWord, terminal .loopWord]
  | argumentList {parts : List Part} (more : Repeats [.comma] (terminal .identifier) parts) :
      Produces .argumentList (terminal .identifier :: parts)
  | condition {operand : Symbol} {inner : operand ≠ .endOfInput}
      (mem : operand ∈ [Symbol.identifier, .numberConstant, .stringConstant]) :
      Produces .condition
        [terminal .identifier, nonterminal .conditionalOperator, terminal operand inner]
  | conditionalOperator {operator : Symbol} {inner : operator ≠ .endOfInput}
      (mem : operator ∈ [Symbol.greaterThan, .greaterEqual, .equal, .notEqual, .lessThan,
        .lessEqual]) :
      Produces .conditionalOperator [terminal operator inner]
  | expression {parts : List Part}
      (more : Repeats [.plus, .minus] (nonterminal .term) parts) :
      Produces .expression (nonterminal .term :: parts)
  | term {parts : List Part}
      (more : Repeats [.times, .divide, .modulus] (nonterminal .factor) parts) :
      Produces .term (nonterminal .factor :: parts)
  | factor {operand : Symbol} {inner : operand ≠ .endOfInput}
      (mem : operand ∈ [Symbol.identifier, .numberConstant]) :
      Produces .factor [terminal operand inner]
  | parentheses :
      Produces .factor
        [terminal .leftParen, nonterminal .expression, terminal .rightParen]

/-- `Derives parts word`: the parts, one after the other, can be spelled `word`. -/
inductive Derives : List Part → List Symbol → Prop where
  | nil : Derives [] []
  | terminal {symbol : Symbol} {inner : symbol ≠ .endOfInput} {parts : List Part}
      {word : List Symbol} (rest : Derives parts word) :
      Derives (.terminal symbol inner :: parts) (symbol :: word)
  | nonterminal {category : Nonterminal} {body parts : List Part} {front word : List Symbol}
      (production : Produces category body) (inside : Derives body front)
      (rest : Derives parts word) :
      Derives (.nonterminal category :: parts) (front ++ word)

/-- A sentence is what the start production stands for. -/
def Sentence (word : List Symbol) : Prop := Derives [.nonterminal .statementPart] word

end TallyCheck
