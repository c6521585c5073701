import TallyCheck.Token

/-! # Scan errors

What can be wrong where a lexeme should begin, and how a scan error is worded.
-/
namespace TallyCheck
set_option autoImplicit false

inductive Fault where
  | unexpectedCharacter (character : Char)
  | unterminatedString
  /-- The beginning of an operator stands alone; `found` follows it, if anything does. -/
  | incompleteOperator (expected : Symbol) (found : Option Char)
  | malformedNumber (text : String)
  deriving DecidableEq

def Fault.message : Fault → String
  | .unexpectedCharacter c => "unexpected character '" ++ c.toString ++ "'"
  | .unterminatedString => "unterminated string constant"
  | .incompleteOperator expected (some c) =>
    "expected '" ++ expected.name ++ "' but found '" ++ c.toString ++ "'"
  | .incompleteOperator expected none =>
    "expected '" ++ expected.name ++ "' but found end of input"
  | .malformedNumber text => "malformed number '" ++ text ++ "'"

/-- A fault and the line, counted from zero, on which the faulty text begins. -/
structure ScanError where
  fault : Fault
  line : Nat
  deriving DecidableEq

/-- Lines are shown counted from one. -/
def ScanError.message (error : ScanError) : String :=
  "SCAN ERROR on line " ++ toString (error.line + 1) ++ ": " ++ error.fault.message

end TallyCheck
