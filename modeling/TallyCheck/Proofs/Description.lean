import TallyCheck.Grammar.Expectation

/-! # Symbols in words

No name holds a blank, so that the description of a list falls apart into words.  A word is a name,
a name with a comma behind it, or the conjunction, and no name is another with a comma behind it.
The list is read back word by word, whichever form its description has; and so are the symbols that
a message names as expected, once its other words have told where they stand.
-/
namespace TallyCheck
set_option autoImplicit false

/-- What stands between the blanks of a text. -/
def words (text : String) : List String := (text.toList.splitOn ' ').map String.ofList

theorem words_append_blank (front back : String) :
    words (front ++ " " ++ back) = words front ++ words back := by
  have hText : (front ++ " " ++ back).toList = front.toList ++ ' ' :: back.toList := by simp
  rw [words, hText, List.splitOn_append_cons_self, List.map_append]
  rfl

theorem words_of_not_mem {word : String} (h : ' ' ∉ word.toList) : words word = [word] := by
  rw [words, List.splitOn_eq_singleton h, List.map_singleton, String.ofList_toList]

theorem takeWhile_append_mark {mark : Char} {word : List Char} (h : mark ∉ word)
    (rest : List Char) : (word ++ mark :: rest).takeWhile (· ≠ mark) = word := by
  have hWord : ∀ c ∈ word, decide (c ≠ mark) = true := by
    intro c hMem
    have hMark : c ≠ mark := fun hEq => h (hEq ▸ hMem)
    exact decide_eq_true hMark
  rw [List.takeWhile_append_of_pos hWord]
  simp

namespace Symbol

theorem blank_not_mem_name (symbol : Symbol) : ' ' ∉ symbol.name.toList := by
  cases symbol <;> decide

theorem takeWhile_name_append (symbol : Symbol) (rest : List Char) :
    (symbol.name.toList ++ ' ' :: rest).takeWhile (· ≠ ' ') = symbol.name.toList :=
  takeWhile_append_mark symbol.blank_not_mem_name rest

theorem words_name (symbol : Symbol) : words symbol.name = [symbol.name] :=
  words_of_not_mem symbol.blank_not_mem_name

/-- The symbol that a word names, if need be without the comma behind the name. -/
def ofWord? (word : String) : Option Symbol :=
  ofName? word <|> ofName? (String.ofList word.toList.dropLast)

theorem ofWord?_name (symbol : Symbol) : ofWord? symbol.name = some symbol := by
  rw [ofWord?, ofName?_name]
  rfl

theorem ofName?_name_comma (symbol : Symbol) : ofName? (symbol.name ++ ",") = none := by
  cases symbol <;> decide

theorem ofWord?_name_comma (symbol : Symbol) : ofWord? (symbol.name ++ ",") = some symbol := by
  have hName : String.ofList (symbol.name ++ ",").toList.dropLast = symbol.name := by
    rw [String.toList_append]
    exact (congrArg String.ofList List.dropLast_concat).trans String.ofList_toList
  rw [ofWord?, ofName?_name_comma, hName, ofName?_name]
  rfl

/-- The symbols that the words of a text name, in order. -/
def ofDescription (text : String) : List Symbol := (words text).filterMap ofWord?

theorem ofDescription_append_blank (front back : String) :
    ofDescription (front ++ " " ++ back) = ofDescription front ++ ofDescription back := by
  rw [ofDescription, words_append_blank, List.filterMap_append]
  rfl

theorem ofDescription_name (symbol : Symbol) : ofDescription symbol.name = [symbol] := by
  rw [ofDescription, words_name, List.filterMap_cons_some symbol.ofWord?_name, List.filterMap_nil]

theorem ofDescription_name_comma (symbol : Symbol) :
    ofDescription (symbol.name ++ ",") = [symbol] := by
  have hBlank : ' ' ∉ (symbol.name ++ ",").toList := by
    simp [symbol.blank_not_mem_name]
  rw [ofDescription, words_of_not_mem hBlank, List.filterMap_cons_some symbol.ofWord?_name_comma,
    List.filterMap_nil]

theorem ofDescription_conjunction : ofDescription "or" = [] := by decide

theorem ofDescription_enumerate (symbols : List Symbol) :
    ofDescription (enumerate symbols) = symbols := by
  fun_induction enumerate symbols with
  | case1 => decide
  | case2 last =>
    have hText : "or " ++ last.name = "or" ++ " " ++ last.name := rfl
    rw [hText, ofDescription_append_blank, ofDescription_conjunction, ofDescription_name]
    rfl
  | case3 symbol symbols _ ih =>
    have hText : symbol.name ++ ", " ++ enumerate symbols =
        symbol.name ++ "," ++ " " ++ enumerate symbols := by
      simp only [String.append_assoc]
      rfl
    rw [hText, ofDescription_append_blank, ofDescription_name_comma, ih]
    rfl

theorem ofDescription_describe (symbols : List Symbol) :
    ofDescription (describe symbols) = symbols := by
  fun_cases describe symbols with
  | case1 => decide
  | case2 only => exact ofDescription_name only
  | case3 left right =>
    have hText : left.name ++ " or " ++ right.name =
        left.name ++ " " ++ ("or" ++ " " ++ right.name) := by
      simp only [String.append_assoc]
      rfl
    rw [hText, ofDescription_append_blank, ofDescription_append_blank, ofDescription_name,
      ofDescription_conjunction, ofDescription_name]
    rfl
  | case4 => exact ofDescription_enumerate symbols

/-- The words between the first character and the last of those listed. -/
def betweenBrackets (list : List String) : List String :=
  words (String.ofList (" ".intercalate list).toList.tail.dropLast)

/-- The words in front of the last two, which say where something was expected. -/
def beforePlace (list : List String) : List String :=
  match list.reverse with
  | _ :: "in" :: others => others.reverse
  | _ => []

/-- The symbols that a message names as expected.  Operators are listed between brackets, without
commas. -/
def named (message : String) : List Symbol :=
  match words message with
  | ["Expected", "token", name, "but", "found", _] => (ofName? name).toList
  | "Invalid" :: "start" :: "of" :: _ :: "expecting" :: list => list.filterMap ofWord?
  | "Expected" :: "a" :: "conditional" :: "operator" :: list =>
    (betweenBrackets list).filterMap ofName?
  | "Expected" :: list => (beforePlace list).filterMap ofWord?
  | _ => []

end Symbol

/-- The message says that the symbol was expected. -/
def Names (message : String) (symbol : Symbol) : Prop := symbol ∈ Symbol.named message

/-- The message is about one token only, and does not list what else could stand in its place. -/
def SaysToken (message : String) : Prop := ["Expected", "token"] <+: words message

namespace Expectation

theorem words_symbol_message (expected found : Symbol) :
    words ((symbol expected).message found) =
      ["Expected", "token", expected.name, "but", "found", found.name] := by
  have hText : (symbol expected).message found =
      "Expected token" ++ " " ++ (expected.name ++ " " ++ ("but found" ++ " " ++ found.name)) := by
    change "Expected token " ++ expected.name ++ " but found " ++ found.name = _
    simp only [String.append_assoc]
    rfl
  rw [hText, words_append_blank, words_append_blank, words_append_blank, Symbol.words_name,
    Symbol.words_name]
  rfl

theorem message_choice (expected : Choice) (found other : Symbol) :
    (choice expected).message found = (choice expected).message other := by
  cases expected <;> rfl

theorem named_choice_message (expected : Choice) (found : Symbol) :
    Symbol.named ((choice expected).message found) = expected.listed := by
  rw [message_choice expected found .endOfInput]
  cases expected <;> decide +kernel

theorem named_message (expected : Expectation) (found : Symbol) :
    Symbol.named (expected.message found) = expected.symbols := by
  cases expected with
  | symbol only =>
    rw [Symbol.named, words_symbol_message]
    simp [symbols]
  | choice choice => rw [named_choice_message, choice.listed_eq_leads, symbols]

theorem saysToken_symbol_message (expected found : Symbol) :
    SaysToken ((symbol expected).message found) := by
  rw [SaysToken, words_symbol_message]
  exact List.prefix_append _ _

end Expectation

theorem names_message_iff {expected : Expectation} {found symbol : Symbol} :
    Names (expected.message found) symbol ↔ symbol ∈ expected.symbols := by
  rw [Names, expected.named_message]

theorem Choice.leads_injective :
    ∀ left right : Choice, left.leads = right.leads → left = right := by
  intro left right
  cases left <;> cases right <;> decide

/-- The description of a list shows its symbols and their order, and so does the message of a
choice show the symbols that it goes on with. -/
theorem Symbol.describe_tells_lists_apart :
    (∀ left right : List Symbol, describe left = describe right ↔ left = right) ∧
      ∀ (left right : Choice) (found other : Symbol),
        (Expectation.choice left).message found = (Expectation.choice right).message other ↔
          left.leads = right.leads := by
  constructor
  · intro left right
    refine ⟨fun h => ?_, congrArg describe⟩
    calc
      left = ofDescription (describe left) := (ofDescription_describe left).symm
      _ = ofDescription (describe right) := by rw [h]
      _ = right := ofDescription_describe right
  · intro left right found other
    constructor
    · intro h
      calc
        left.leads = named ((Expectation.choice left).message found) :=
          (Expectation.named_message (.choice left) found).symm
        _ = named ((Expectation.choice right).message other) := by rw [h]
        _ = right.leads := Expectation.named_message (.choice right) other
    · intro h
      rw [Choice.leads_injective left right h]
      exact Expectation.message_choice right found other

example : Symbol.describe [.comma, .comma, .equal] = ",, ,, or =" := by decide

end TallyCheck
