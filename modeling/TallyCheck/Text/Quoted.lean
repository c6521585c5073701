import TallyCheck.Text.Extending
import TallyCheck.Text.Unprintable

/-! # Quoted text

A text between double quotes on one line, in which the quote, the backslash, and every character
that does not show by itself are written by an escape.
-/
namespace TallyCheck.Text
set_option autoImplicit false

/-- The first range that does not end below the point decides. -/
def inRanges (point : Nat) : List (Nat × Nat) → Bool
  | [] => false
  | (first, last) :: ranges => if point ≤ last then first ≤ point else inRanges point ranges

def isUnprintable (c : Char) : Bool := inRanges c.toNat unprintableRanges

def isExtending (c : Char) : Bool := inRanges c.toNat extendingRanges

/-- A code point in lower-case hexadecimal between braces. -/
def escapeCode (c : Char) : List Char :=
  '\\' :: 'u' :: '{' :: (Nat.toDigits 16 c.toNat ++ ['}'])

def escape (c : Char) : List Char :=
  if c = '"' ∨ c = '\\' then ['\\', c]
  else if c = '\t' then ['\\', 't']
  else if c = '\n' then ['\\', 'n']
  else if c = '\r' then ['\\', 'r']
  else if c = '\x00' then ['\\', '0']
  else if isUnprintable c || isExtending c then escapeCode c
  else [c]

def quote (text : String) : String :=
  String.ofList ('"' :: (text.toList.flatMap escape ++ ['"']))

end TallyCheck.Text
