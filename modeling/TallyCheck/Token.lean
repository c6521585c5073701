import TallyCheck.Symbol

/-! # Tokens

A token is a symbol with its text and the line, counted from zero, on which it begins.  Only a
literal has a text of its own.
-/
namespace TallyCheck
set_option autoImplicit false

structure Token where
  symbol : Symbol
  text : String
  line : Nat
  text_eq : symbol.isLiteral = false → text = symbol.fixedText
  deriving DecidableEq

namespace Token

/-- The token of a symbol read as `text`, which only a literal keeps. -/
def ofText (symbol : Symbol) (text : String) (line : Nat) : Token where
  symbol
  text := if symbol.isLiteral then text else symbol.fixedText
  line
  text_eq h := by simp [h]

@[simp] theorem symbol_ofText (symbol : Symbol) (text : String) (line : Nat) :
    (ofText symbol text line).symbol = symbol := rfl

@[simp] theorem line_ofText (symbol : Symbol) (text : String) (line : Nat) :
    (ofText symbol text line).line = line := rfl

theorem text_ofText_of_literal {symbol : Symbol} (h : symbol.isLiteral = true) (text : String)
    (line : Nat) : (ofText symbol text line).text = text := if_pos h

theorem ofText_self (token : Token) : ofText token.symbol token.text token.line = token := by
  obtain ⟨symbol, text, line, hText⟩ := token
  cases hLiteral : symbol.isLiteral with
  | true => simp [ofText, hLiteral]
  | false => simp [ofText, hLiteral, hText hLiteral]

def fixed (symbol : Symbol) (line : Nat) : Token := ofText symbol symbol.fixedText line

def endOfInput (line : Nat) : Token := fixed .endOfInput line

@[simp] theorem symbol_endOfInput (line : Nat) : (endOfInput line).symbol = .endOfInput := rfl

@[simp] theorem line_endOfInput (line : Nat) : (endOfInput line).line = line := rfl

theorem eq_endOfInput {token : Token} (h : token.symbol = .endOfInput) :
    token = endOfInput token.line := by
  obtain ⟨symbol, text, line, hText⟩ := token
  subst h
  simp [endOfInput, fixed, ofText, Symbol.isLiteral, hText rfl]

def render (token : Token) : String :=
  if token.symbol.isLiteral then token.symbol.name ++ " '" ++ token.text ++ "'"
  else token.symbol.name

end Token
end TallyCheck
