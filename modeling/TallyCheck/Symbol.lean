/-! # Symbols of the Tally language

The thirty-one symbols a token can carry, their names in messages and traces, and the words that
are reserved.  The order of declaration is the order of the symbols.
-/
namespace TallyCheck
set_option autoImplicit false

inductive Symbol where
  | beginWord | endWord | ifWord | thenWord | elseWord | whileWord | loopWord | callWord | doWord
  | untilWord | forWord
  | becomes | semicolon | comma | leftParen | rightParen
  | plus | minus | times | divide | modulus
  | equal | notEqual | lessThan | lessEqual | greaterThan | greaterEqual
  | identifier | numberConstant | stringConstant
  | endOfInput
  deriving DecidableEq, Repr

namespace Symbol

def all : List Symbol :=
  [beginWord, endWord, ifWord, thenWord, elseWord, whileWord, loopWord, callWord, doWord,
    untilWord, forWord, becomes, semicolon, comma, leftParen, rightParen, plus, minus, times,
    divide, modulus, equal, notEqual, lessThan, lessEqual, greaterThan, greaterEqual, identifier,
    numberConstant, stringConstant, endOfInput]

theorem mem_all (symbol : Symbol) : symbol ∈ all := by
  cases symbol <;> decide

def index (symbol : Symbol) : Nat := symbol.ctorIdx

theorem all_getElem?_index (symbol : Symbol) : all[symbol.index]? = some symbol := by
  cases symbol <;> rfl

instance : LT Symbol := ⟨fun left right => left.index < right.index⟩

instance (left right : Symbol) : Decidable (left < right) :=
  inferInstanceAs (Decidable (left.index < right.index))

def name : Symbol → String
  | beginWord => "begin"
  | endWord => "end"
  | ifWord => "if"
  | thenWord => "then"
  | elseWord => "else"
  | whileWord => "while"
  | loopWord => "loop"
  | callWord => "call"
  | doWord => "do"
  | untilWord => "until"
  | forWord => "for"
  | becomes => ":="
  | semicolon => ";"
  | comma => ","
  | leftParen => "("
  | rightParen => ")"
  | plus => "+"
  | minus => "-"
  | times => "*"
  | divide => "/"
  | modulus => "%"
  | equal => "="
  | notEqual => "!="
  | lessThan => "<"
  | lessEqual => "<="
  | greaterThan => ">"
  | greaterEqual => ">="
  | identifier => "identifier"
  | numberConstant => "numberConstant"
  | stringConstant => "stringConstant"
  | endOfInput => "end-of-input"

/-- The name of a symbol in a token dump, where punctuation is spelled out. -/
def label : Symbol → String
  | beginWord => "Begin"
  | endWord => "End"
  | ifWord => "If"
  | thenWord => "Then"
  | elseWord => "Else"
  | whileWord => "While"
  | loopWord => "Loop"
  | callWord => "Call"
  | doWord => "Do"
  | untilWord => "Until"
  | forWord => "For"
  | becomes => "Becomes"
  | semicolon => "Semicolon"
  | comma => "Comma"
  | leftParen => "LParen"
  | rightParen => "RParen"
  | plus => "Plus"
  | minus => "Minus"
  | times => "Times"
  | divide => "Divide"
  | modulus => "Modulus"
  | equal => "Equal"
  | notEqual => "NotEqual"
  | lessThan => "LessThan"
  | lessEqual => "LessEqual"
  | greaterThan => "GreaterThan"
  | greaterEqual => "GreaterEqual"
  | identifier => "Identifier"
  | numberConstant => "NumberConstant"
  | stringConstant => "StringConstant"
  | endOfInput => "EndOfInput"

def ofName? (text : String) : Option Symbol :=
  all.find? fun symbol => symbol.name = text

@[simp] theorem ofName?_name (symbol : Symbol) : ofName? symbol.name = some symbol := by
  cases symbol <;> decide

theorem name_injective {left right : Symbol} (h : left.name = right.name) : left = right := by
  have hRight := ofName?_name right
  rw [← h, ofName?_name] at hRight
  exact Option.some.inj hRight

def keywords : List Symbol :=
  [beginWord, endWord, ifWord, thenWord, elseWord, whileWord, loopWord, callWord, doWord,
    untilWord, forWord]

def keyword? : String → Option Symbol
  | "begin" => some beginWord
  | "end" => some endWord
  | "if" => some ifWord
  | "then" => some thenWord
  | "else" => some elseWord
  | "while" => some whileWord
  | "loop" => some loopWord
  | "call" => some callWord
  | "do" => some doWord
  | "until" => some untilWord
  | "for" => some forWord
  | _ => none

theorem keyword?_eq_some_iff (word : String) (symbol : Symbol) :
    keyword? word = some symbol ↔ symbol ∈ keywords ∧ symbol.name = word := by
  constructor
  · intro h
    unfold keyword? at h
    split at h <;> cases h <;> decide
  · rintro ⟨hMem, rfl⟩
    revert hMem
    cases symbol <;> decide

def operators : List Symbol :=
  [becomes, notEqual, lessEqual, greaterEqual, semicolon, comma, leftParen, rightParen, plus,
    minus, times, divide, modulus, equal, lessThan, greaterThan]

/-- A literal's text comes from the source; every other symbol has one text. -/
def isLiteral : Symbol → Bool
  | identifier | numberConstant | stringConstant => true
  | _ => false

def fixedText (symbol : Symbol) : String :=
  if symbol = endOfInput then "" else symbol.name

@[simp] theorem fixedText_endOfInput : fixedText endOfInput = "" := rfl

theorem fixedText_of_ne {symbol : Symbol} (h : symbol ≠ endOfInput) :
    symbol.fixedText = symbol.name := if_neg h

end Symbol
end TallyCheck
