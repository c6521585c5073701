import TallyCheck.ScanError

/-! # Lexemes

The longest lexeme at the head of a text, cut by its first character: a word, a number, a string,
or a sign.  Gaps are skipped elsewhere.
-/
namespace TallyCheck
set_option autoImplicit false

/-- Letters, digits and the underscore continue a word; only letters begin one. -/
def isWordChar (c : Char) : Bool := c.isAlphanum || c = '_'

/-- A string runs up to a quote and stays on its line. -/
def isStringChar (c : Char) : Bool := c ≠ '"' && c ≠ '\n'

/-- What stands at the head of a text, the characters it takes, and the text behind it. -/
structure Lexeme where
  kind : Except Fault Symbol
  text : List Char
  rest : List Char

namespace Lexeme

/-- The words that are no identifiers. -/
def reservedWords : List (String × Symbol) :=
  [("begin", .beginWord), ("end", .endWord), ("if", .ifWord), ("then", .thenWord),
    ("else", .elseWord), ("while", .whileWord), ("loop", .loopWord), ("call", .callWord),
    ("do", .doWord), ("until", .untilWord), ("for", .forWord)]

/-- One that extends another comes before it. -/
def signs : List (String × Symbol) :=
  [(":=", .becomes), ("!=", .notEqual), ("<=", .lessEqual), (">=", .greaterEqual),
    (";", .semicolon), (",", .comma), ("(", .leftParen), (")", .rightParen), ("+", .plus),
    ("-", .minus), ("*", .times), ("/", .divide), ("%", .modulus), ("=", .equal),
    ("<", .lessThan), (">", .greaterThan)]

def word (c : Char) (cs : List Char) : Lexeme :=
  let text := c :: cs.takeWhile isWordChar
  let reserved := reservedWords.lookup (String.ofList text)
  ⟨.ok (reserved.getD .identifier), text, cs.dropWhile isWordChar⟩

/-- A point must be followed by a digit, but belongs to the number in any case. -/
def number (c : Char) (cs : List Char) : Lexeme :=
  let whole := c :: cs.takeWhile Char.isDigit
  match cs.dropWhile Char.isDigit with
  | '.' :: rest =>
    let text := whole ++ '.' :: rest.takeWhile Char.isDigit
    let kind := if (rest.takeWhile Char.isDigit).isEmpty
      then .error (.malformedNumber (String.ofList text)) else .ok .numberConstant
    ⟨kind, text, rest.dropWhile Char.isDigit⟩
  | rest => ⟨.ok .numberConstant, whole, rest⟩

/-- The string whose opening quote has just been passed. -/
def string (cs : List Char) : Lexeme :=
  let body := cs.takeWhile isStringChar
  match cs.dropWhile isStringChar with
  | '"' :: rest => ⟨.ok .stringConstant, '"' :: (body ++ ['"']), rest⟩
  | rest => ⟨.error .unterminatedString, '"' :: body, rest⟩

/-- A character that begins no sign, or only a longer one, is passed alone. -/
def sign (c : Char) (cs : List Char) : Lexeme :=
  match signs.find? fun sign => sign.1.toList.isPrefixOf (c :: cs) with
  | some (spelling, symbol) =>
    ⟨.ok symbol, spelling.toList, (c :: cs).drop spelling.length⟩
  | none =>
    let fault : Fault := match c with
      | ':' => .incompleteOperator .becomes cs.head?
      | '!' => .incompleteOperator .notEqual cs.head?
      | other => .unexpectedCharacter other
    ⟨.error fault, [c], cs⟩

end Lexeme

def lexeme (c : Char) (cs : List Char) : Lexeme :=
  if c.isAlpha then .word c cs
  else if c.isDigit then .number c cs
  else if c = '"' then .string cs
  else .sign c cs

namespace Lexeme

theorem text_word (c : Char) (cs : List Char) : (word c cs).text ++ (word c cs).rest = c :: cs := by
  simp [word]

theorem text_number (c : Char) (cs : List Char) :
    (number c cs).text ++ (number c cs).rest = c :: cs := by
  unfold number
  split
  · rename_i rest hRest
    simp only [List.cons_append, List.append_assoc, List.takeWhile_append_dropWhile]
    rw [← hRest, List.takeWhile_append_dropWhile]
  · simp

theorem text_string (cs : List Char) : (string cs).text ++ (string cs).rest = '"' :: cs := by
  unfold string
  split
  · rename_i rest hRest
    simp only [List.cons_append, List.append_assoc, List.nil_append]
    rw [← hRest, List.takeWhile_append_dropWhile]
  · simp

theorem lookup_reservedWords (word : String) :
    reservedWords.lookup word = Symbol.keyword? word := by
  fun_cases Symbol.keyword? word with
  | case12 =>
    rw [List.lookup_eq_none_iff]
    simp_all [reservedWords]
  | _ => rfl

theorem kind_word (c : Char) (cs : List Char) :
    (word c cs).kind =
      .ok ((Symbol.keyword? (String.ofList (word c cs).text)).getD .identifier) := by
  rw [← lookup_reservedWords]
  rfl

theorem signs_eq : signs = Symbol.operators.map fun symbol => (symbol.name, symbol) := rfl

theorem find?_signs (text : List Char) :
    (signs.find? fun sign => sign.1.toList.isPrefixOf text) =
      (Symbol.operators.find? fun symbol => symbol.name.toList.isPrefixOf text).map
        fun symbol => (symbol.name, symbol) := by
  rw [signs_eq, List.find?_map]
  rfl

theorem text_sign (c : Char) (cs : List Char) : (sign c cs).text ++ (sign c cs).rest = c :: cs := by
  unfold sign
  split
  · rename_i spelling symbol hFind
    have hHead := List.find?_some hFind
    obtain ⟨rest, hRest⟩ := List.isPrefixOf_iff_prefix.mp hHead
    simp only
    rw [← String.length_toList, ← hRest, List.drop_left]
  · rfl

theorem text_append_rest (c : Char) (cs : List Char) :
    (lexeme c cs).text ++ (lexeme c cs).rest = c :: cs := by
  unfold lexeme
  split
  · exact text_word c cs
  · split
    · exact text_number c cs
    · split
      · subst_vars
        exact text_string cs
      · exact text_sign c cs

theorem spelling_ne_nil_of_sign : ∀ sign ∈ signs, sign.1.toList ≠ [] := by
  decide

theorem text_sign_ne_nil (c : Char) (cs : List Char) : (sign c cs).text ≠ [] := by
  unfold sign
  split
  · rename_i spelling symbol hFind
    exact spelling_ne_nil_of_sign _ (List.mem_of_find?_eq_some hFind)
  · exact List.cons_ne_nil _ _

theorem text_ne_nil (c : Char) (cs : List Char) : (lexeme c cs).text ≠ [] := by
  unfold lexeme
  split
  · exact List.cons_ne_nil _ _
  · split
    · unfold number
      split <;> exact List.cons_ne_nil _ _
    · split
      · unfold string
        split <;> exact List.cons_ne_nil _ _
      · exact text_sign_ne_nil c cs

theorem rest_length_lt (c : Char) (cs : List Char) :
    (lexeme c cs).rest.length < (c :: cs).length := by
  have hLength := congrArg List.length (text_append_rest c cs)
  have hText := List.length_pos_iff.mpr (text_ne_nil c cs)
  rw [List.length_append] at hLength
  omega

end Lexeme
end TallyCheck
