import TallyCheck.Proofs.Expected
import TallyCheck.Proofs.FrontEnds
import TallyCheck.Proofs.LineNumbers

/-! # The lines of a diagnostic

A diagnostic is put together from names, numbers and lexemes.  None of them holds a line feed, so
that it is a single line, and a report has one more for each production still open.  The exception
is half an operator at the end of a line: the character found behind it is quoted as it is.
-/
namespace TallyCheck
set_option autoImplicit false

/-- How many line feeds a text holds. -/
def lineFeeds (text : String) : Nat := text.toList.count '\n'

@[simp] theorem lineFeeds_append (left right : String) :
    lineFeeds (left ++ right) = lineFeeds left + lineFeeds right := by
  rw [lineFeeds, String.toList_append, List.count_append, lineFeeds, lineFeeds]

theorem isDigit_of_mem_toString {number : Nat} {c : Char} (h : c ∈ (toString number).toList) :
    c.isDigit = true := by
  rw [Nat.toString_eq_repr, Nat.toList_repr] at h
  exact Nat.isDigit_of_mem_toDigits (by decide) (by decide) h

@[simp] theorem lineFeeds_toString (number : Nat) : lineFeeds (toString number) = 0 := by
  rw [lineFeeds, List.count_eq_zero]
  intro hMem
  cases isDigit_of_mem_toString hMem

theorem lineFeeds_of_char (c : Char) : lineFeeds c.toString = if c = '\n' then 1 else 0 := by
  rw [lineFeeds, Char.toString, String.toList_singleton, List.count_singleton]
  simp

theorem lineFeeds_join (pieces : List String) (h : ∀ piece ∈ pieces, lineFeeds piece = 1) :
    lineFeeds (String.join pieces) = pieces.length := by
  induction pieces with
  | nil => rfl
  | cons piece pieces ih =>
    obtain ⟨hPiece, hPieces⟩ := List.forall_mem_cons.mp h
    rw [String.join_cons, lineFeeds_append, ih hPieces, hPiece, List.length_cons, Nat.add_comm]

@[simp] theorem Symbol.lineFeeds_name (symbol : Symbol) : lineFeeds symbol.name = 0 := by
  cases symbol <;> decide

@[simp] theorem Nonterminal.lineFeeds_bracketed (category : Nonterminal) :
    lineFeeds category.bracketed = 0 := by
  cases category <;> decide +kernel

@[simp] theorem Expectation.lineFeeds_message (expected : Expectation) (found : Symbol) :
    lineFeeds (expected.message found) = 0 := by
  cases expected with
  | symbol expected =>
    have hWords : lineFeeds "Expected token " = 0 ∧ lineFeeds " but found " = 0 := by
      decide
    change lineFeeds ("Expected token " ++ expected.name ++ " but found " ++ found.name) = 0
    simp only [lineFeeds_append, Symbol.lineFeeds_name, hWords]
  | choice expected =>
    rw [message_choice expected found .endOfInput]
    cases expected <;> decide +kernel

/-- Half an operator with a line feed behind it. -/
def Fault.quotesFeed : Fault → Bool
  | incompleteOperator _ (some c) => c = '\n'
  | _ => false

theorem Fault.eq_of_quotesFeed {fault : Fault} (h : fault.quotesFeed = true) :
    ∃ expected, fault = .incompleteOperator expected (some '\n') := by
  cases fault with
  | incompleteOperator expected found =>
    cases found with
    | none => cases h
    | some c =>
      obtain rfl := of_decide_eq_true h
      exact ⟨expected, rfl⟩
  | _ => cases h

theorem Fault.lineFeeds_message {fault : Fault} {text : List Char} (h : fault.Concerns text)
    (hText : '\n' ∉ text) : lineFeeds fault.message = if fault.quotesFeed then 1 else 0 := by
  have hQuote : lineFeeds "'" = 0 := by decide
  cases fault with
  | unexpectedCharacter c =>
    obtain rfl := h
    have hWords : lineFeeds "unexpected character '" = 0 := by decide
    have hChar : c ≠ '\n' := Ne.symm (List.ne_of_not_mem_cons hText)
    change lineFeeds ("unexpected character '" ++ c.toString ++ "'") = 0
    simp only [lineFeeds_append, hWords, hQuote, lineFeeds_of_char, if_neg hChar]
  | unterminatedString => decide
  | incompleteOperator expected found =>
    have hWords : lineFeeds "expected '" = 0 := by decide
    cases found with
    | none =>
      have hEnd : lineFeeds "' but found end of input" = 0 := by decide
      change lineFeeds ("expected '" ++ expected.name ++ "' but found end of input") = 0
      simp only [lineFeeds_append, hWords, hEnd, Symbol.lineFeeds_name]
    | some c =>
      have hFound : lineFeeds "' but found '" = 0 := by decide
      change lineFeeds ("expected '" ++ expected.name ++ "' but found '" ++ c.toString ++ "'") =
        if decide (c = '\n') then 1 else 0
      simp only [lineFeeds_append, hWords, hFound, hQuote, Symbol.lineFeeds_name,
        lineFeeds_of_char, Nat.zero_add, Nat.add_zero, decide_eq_true_eq]
  | malformedNumber number =>
    obtain rfl := h
    have hWords : lineFeeds "malformed number '" = 0 := by decide
    have hNumber : lineFeeds number = 0 := List.count_eq_zero.mpr hText
    change lineFeeds ("malformed number '" ++ number ++ "'") = 0
    simp only [lineFeeds_append, hWords, hQuote, hNumber]

namespace ParseError

def quotesFeed (error : ParseError) : Bool :=
  match error.innermost with
  | scan error => error.fault.quotesFeed
  | _ => false

theorem lineFeeds_report (error : ParseError) :
    lineFeeds error.report = error.depth + lineFeeds error.diagnostic := by
  have hPieces : ∀ piece ∈ error.productions.reverse.map fun production =>
      "\n  while parsing " ++ production.bracketed, lineFeeds piece = 1 := by
    intro piece hMem
    obtain ⟨production, -, rfl⟩ := List.mem_map.mp hMem
    have hWords : lineFeeds "\n  while parsing " = 1 := by decide
    rw [lineFeeds_append, hWords, production.lineFeeds_bracketed]
  rw [report, lineFeeds_append, lineFeeds_join _ hPieces, List.length_map, List.length_reverse,
    depth_eq_length_productions, Nat.add_comm]

theorem lineFeeds_diagnostic_of_scan {fault : Fault} {text : List Char} (h : fault.Concerns text)
    (hText : '\n' ∉ text) (line : Nat) :
    lineFeeds (scan ⟨fault, line⟩).diagnostic =
      if (scan ⟨fault, line⟩).quotesFeed then 1 else 0 := by
  have hWords : lineFeeds "SCAN ERROR on line " = 0 ∧ lineFeeds ": " = 0 := by decide
  change lineFeeds ("SCAN ERROR on line " ++ toString (line + 1) ++ ": " ++ fault.message) =
    if fault.quotesFeed then 1 else 0
  simp only [lineFeeds_append, hWords, lineFeeds_toString, Fault.lineFeeds_message h hText,
    Nat.zero_add]

theorem lineFeeds_diagnostic_of_rejected {token : Token} (h : '\n' ∉ token.text.toList)
    (expected : Expectation) (productions : List Nonterminal) :
    let error := (unexpectedToken token (expected.message token.symbol)).withinAll productions
    lineFeeds error.diagnostic = if error.quotesFeed then 1 else 0 := by
  have hWords : lineFeeds "SYNTAX ERROR on line " = 0 ∧ lineFeeds ": " = 0 ∧
      lineFeeds " (Encountered token: " = 0 ∧ lineFeeds " '" = 0 ∧ lineFeeds "')" = 0 := by
    decide
  have hToken : lineFeeds token.text = 0 := List.count_eq_zero.mpr h
  intro error
  have hInnermost : error.innermost = unexpectedToken token (expected.message token.symbol) :=
    innermost_withinAll productions _
  rw [diagnostic, quotesFeed, hInnermost]
  change lineFeeds ("SYNTAX ERROR on line " ++ toString (token.line + 1) ++ ": " ++
    expected.message token.symbol ++ " (Encountered token: " ++ token.symbol.name ++ " '" ++
    token.text ++ "')") = 0
  simp only [lineFeeds_append, hWords, hToken, lineFeeds_toString, Expectation.lineFeeds_message,
    Symbol.lineFeeds_name]

end ParseError

theorem Scanner.exists_lexeme (scanner : Scanner) :
    ∃ lexeme, Answer.ReadFrom scanner.next.1 lexeme ∧ '\n' ∉ lexeme := by
  obtain ⟨gap, lexeme, -, hRead, hFeed, -⟩ := scanner.munches.exists_gap
  exact ⟨lexeme, hRead, hFeed⟩

theorem lineFeeds_diagnostic {source : String} {error : ParseError}
    (h : (recordText source).1 = .error error) :
    lineFeeds error.diagnostic = if error.quotesFeed then 1 else 0 := by
  obtain ⟨events, ending, hRecord, hCaused, -⟩ := exists_ending source
  obtain ⟨lexeme, hRead, hFeed⟩ :
      ∃ lexeme, Answer.ReadFrom (stoppingAnswer source) lexeme ∧ '\n' ∉ lexeme :=
    Scanner.exists_lexeme _
  rw [hRecord] at h
  generalize stoppingAnswer source = answer at hCaused hRead
  cases hCaused with
  | succeeded => cases h
  | faulted fault =>
    cases h
    exact ParseError.lineFeeds_diagnostic_of_scan hRead hFeed fault.line
  | rejected token expected rest =>
    cases h
    have hText : lexeme = token.text.toList := hRead
    rw [hText] at hFeed
    exact ParseError.lineFeeds_diagnostic_of_rejected hFeed expected (Goal.enclosing rest)

theorem exists_half_of_quotesFeed {source : String} {error : ParseError}
    (h : (recordText source).1 = .error error) (hQuotes : error.quotesFeed = true) :
    ∃ before sign after, (sign = ':' ∨ sign = '!') ∧
      source.toList = before ++ sign :: '\n' :: after := by
  obtain ⟨events, ending, hRecord, hCaused, -⟩ := exists_ending source
  rw [hRecord] at h
  cases ending with
  | succeeded => cases h
  | rejected token expected rest =>
    cases h
    rw [ParseError.quotesFeed, ParseError.innermost_withinAll] at hQuotes
    cases hQuotes
  | faulted fault =>
    cases h
    obtain ⟨expected, hFault⟩ := Fault.eq_of_quotesFeed hQuotes
    have hAnswer : stoppingAnswer source =
        .error ⟨.incompleteOperator expected (some '\n'), fault.line⟩ := by
      rw [← hFault]
      generalize stoppingAnswer source = answer at hCaused ⊢
      cases hCaused
      rfl
    obtain ⟨passed, hStands⟩ := Scanner.exists_stands_after source (acceptedCount source)
    obtain ⟨gap, sign, hSign, hRest, hFound⟩ := (munches_next _ _ _).half hAnswer
    obtain ⟨after, hAfter⟩ := List.head?_eq_some_iff.mp hFound
    refine ⟨passed ++ gap, sign, after, hSign, ?_⟩
    rw [List.append_assoc, hStands.split, hRest, hAfter]

namespace CheckCommand

theorem check_of_error {files : Files} {file source : String} {flags : List Flag}
    {error : ParseError} (hRead : files.readText file = .ok source)
    (h : (recordText source).1 = .error error) (hContext : .context ∉ flags)
    (hVerbose : .verbose ∉ flags) :
    (check flags file files).exit = 1 ∧
      (check flags file files).stderr = .text (error.diagnostic ++ "\n") := by
  have hPlain : flags.contains .context = false := by simpa using hContext
  rw [check_eq_shown hRead hVerbose, Record.shown, h, hPlain]
  exact ⟨rfl, congrArg ErrorOutput.text (by simp)⟩

end CheckCommand

/-- A diagnostic is one line, or two where half an operator quotes the line feed behind it; a report
has a line more for each production around.  The command, if it is asked for no more, writes the
diagnostic and exits with one. -/
theorem failure_lines {τ : Type} [Observer τ]
    (hRefuse : ∀ (token : Token) (message : String) (heard : τ),
      Observer.refuse token message heard = .unexpectedToken token message)
    {source : String} {observer : τ} {error : ParseError}
    (h : (analyseText source observer).1 = .error error) :
    lineFeeds error.diagnostic = (if error.quotesFeed then 1 else 0) ∧
    (error.quotesFeed = true → ∃ before sign after, (sign = ':' ∨ sign = '!') ∧
      source.toList = before ++ sign :: '\n' :: after) ∧
    lineFeeds error.report = error.depth + lineFeeds error.diagnostic ∧
    ∀ (arguments : List String) (flags : List Flag) (file : String) (files : Files)
      (standardInput : ByteArray), Invocation.ofArguments arguments = .check flags file →
      .context ∉ flags → .verbose ∉ flags → files.readText file = .ok source →
      let outcome := Command.check.run arguments files standardInput
      outcome.exit = 1 ∧ outcome.stderr = .text (error.diagnostic ++ "\n") := by
  rw [analyseText_eq_recordText hRefuse] at h
  refine ⟨lineFeeds_diagnostic h, exists_half_of_quotesFeed h, error.lineFeeds_report, ?_⟩
  intro arguments flags file files standardInput hArguments hContext hVerbose hRead
  change (CheckCommand.run arguments files).exit = 1 ∧ (CheckCommand.run arguments files).stderr = _
  rw [CheckCommand.run, hArguments]
  exact CheckCommand.check_of_error hRead h hContext hVerbose

def halfOperator : String := "begin x :\n= 1 end"

def halfOperatorError : ParseError := .scan ⟨.incompleteOperator .becomes (some '\n'), 0⟩

theorem halfOperator_not_single_line :
    ¬ ∀ (source : String) (error : ParseError),
      (analyseText source Recording.empty).1 = .error error → lineFeeds error.diagnostic = 0 := by
  intro hSingle
  have hRun : (analyseText halfOperator Recording.empty).1 = .error halfOperatorError := by
    decide +kernel
  have hNone := hSingle halfOperator halfOperatorError hRun
  have hOne : lineFeeds halfOperatorError.diagnostic = 1 := by decide +kernel
  cases hOne.symm.trans hNone

def halfOperatorFile : Files := fun path =>
  if path = "half.tly" then .ok halfOperator.toUTF8 else .error .notFound

theorem halfOperator_failure_lines :
    (analyseText halfOperator ()).1 = .error halfOperatorError ∧
    halfOperatorError.quotesFeed = true ∧
    lineFeeds halfOperatorError.diagnostic = (if halfOperatorError.quotesFeed then 1 else 0) ∧
    (∃ before sign after, (sign = ':' ∨ sign = '!') ∧
      halfOperator.toList = before ++ sign :: '\n' :: after) ∧
    lineFeeds halfOperatorError.report =
      halfOperatorError.depth + lineFeeds halfOperatorError.diagnostic ∧
    Invocation.ofArguments ["-t", "half.tly"] = .check [.trace] "half.tly" ∧
    halfOperatorFile.readText "half.tly" = .ok halfOperator ∧
    (Command.check.run ["-t", "half.tly"] halfOperatorFile .empty).stderr =
      .text (halfOperatorError.diagnostic ++ "\n") := by
  have hRun : (analyseText halfOperator ()).1 = .error halfOperatorError := by decide +kernel
  have hArguments : Invocation.ofArguments ["-t", "half.tly"] = .check [.trace] "half.tly" := by
    decide +kernel
  have hRead : halfOperatorFile.readText "half.tly" = .ok halfOperator := by
    have hFile : halfOperatorFile "half.tly" = .ok halfOperator.toUTF8 := rfl
    simp only [Files.readText, hFile, Text.decode?_toUTF8]
  have hQuotes : halfOperatorError.quotesFeed = true := by decide
  obtain ⟨hDiagnostic, hHalf, hReport, hCommand⟩ := failure_lines (fun _ _ _ => rfl) hRun
  have hOutcome := hCommand ["-t", "half.tly"] [.trace] "half.tly" halfOperatorFile .empty
    hArguments (by decide) (by decide) hRead
  exact ⟨hRun, hQuotes, hDiagnostic, hHalf hQuotes, hReport, hArguments, hRead, hOutcome.2⟩

end TallyCheck
