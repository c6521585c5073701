import TallyCheck.Proofs.Context
import TallyCheck.Proofs.TraceLines

/-! # What a check reports

A report or a failure holds a trace, a count, a chain of errors and a scan error, each made in its
own way from one analysis, and the tokens of the text can be scanned besides.  They say the same:
read back from its lines, the trace leaves open what the chain names, and holds as many tokens as
were counted and scanned.
-/
namespace TallyCheck
set_option autoImplicit false

/-- What stands behind a word with which a line begins. -/
def behind? (word line : String) : Option String :=
  (word.toList.isPrefixOf? line.toList).map String.ofList

theorem behind?_append (word rest : String) : behind? word (word ++ rest) = some rest := by
  have hPrefix : word.toList.isPrefixOf? (word ++ rest).toList = some rest.toList := by
    rw [List.isPrefixOf?_eq_some_iff_append_eq, String.toList_append]
  rw [behind?, hPrefix, Option.map_some, String.ofList_toList]

def isTokenLine (line : String) : Bool := (behind? "TOKEN " line).isSome

/-- The names of the productions open behind the lines of a trace, innermost first, when `stack` was
open before; none if a production ends that is not the innermost. -/
def replayLines (stack : List String) : List String → Option (List String)
  | [] => some stack
  | line :: lines =>
    match behind? "BEGIN " line, behind? "END " line with
    | some name, _ => replayLines (name :: stack) lines
    | none, some name =>
      match stack with
      | [] => none
      | innermost :: outer => if innermost = name then replayLines outer lines else none
    | none, none => replayLines stack lines

namespace Event

theorem trace_cons_of_traced {event : Event} (h : event.isTraced = true) (events : List Event) :
    trace (event :: events) = event.render :: trace events := by
  rw [trace, List.filter_cons_of_pos h]
  rfl

theorem behind?_render_terminal (token : Token) :
    behind? "BEGIN " (terminal token).render = none ∧
      behind? "END " (terminal token).render = none := by
  simp [behind?, render, List.isPrefixOf?]

theorem behind?_render_success :
    behind? "BEGIN " success.render = none ∧ behind? "END " success.render = none := by
  simp [behind?, render, List.isPrefixOf?]

theorem replayLines_trace (stack : List Nonterminal) (events : List Event) :
    replayLines (stack.map Nonterminal.name) (trace events) =
      (replay stack events).map (List.map Nonterminal.name) := by
  induction events generalizing stack with
  | nil => rfl
  | cons event events ih =>
    cases event with
    | commence category =>
      have hBegin : behind? "BEGIN " (commence category).render = some category.name :=
        behind?_append "BEGIN " category.name
      rw [trace_cons_of_traced rfl]
      simp only [replayLines, hBegin]
      exact ih (category :: stack)
    | finish category =>
      have hBegin : behind? "BEGIN " (finish category).render = none := by
        simp [behind?, render, List.isPrefixOf?]
      have hEnd : behind? "END " (finish category).render = some category.name :=
        behind?_append "END " category.name
      rw [trace_cons_of_traced rfl]
      simp only [replayLines, hBegin, hEnd]
      cases stack with
      | nil => rfl
      | cons innermost outer =>
        simp only [List.map_cons, replay]
        by_cases hSame : innermost = category
        · rw [if_pos hSame, if_pos (congrArg Nonterminal.name hSame)]
          exact ih outer
        · rw [if_neg hSame, if_neg (fun hName => hSame (Nonterminal.name_injective hName))]
          rfl
    | terminal token =>
      obtain ⟨hBegin, hEnd⟩ := behind?_render_terminal token
      rw [trace_cons_of_traced rfl]
      simp only [replayLines, hBegin, hEnd]
      exact ih stack
    | success =>
      obtain ⟨hBegin, hEnd⟩ := behind?_render_success
      rw [trace_cons_of_traced rfl]
      simp only [replayLines, hBegin, hEnd]
      exact ih stack
    | error token message => exact ih stack

theorem isTokenLine_render {event : Event} (h : event.isTraced = true) :
    isTokenLine event.render = event.token?.isSome := by
  cases event with
  | error token message => cases h
  | _ => simp [isTokenLine, behind?, render, token?, List.isPrefixOf?]

theorem filter_isTokenLine_trace (events : List Event) :
    (trace events).filter isTokenLine =
      (terminals events).map fun token => (terminal token).render := by
  induction events with
  | nil => rfl
  | cons event events ih =>
    cases event with
    | terminal token =>
      rw [trace_cons_of_traced rfl, List.filter_cons, isTokenLine_render rfl]
      exact congrArg ((terminal token).render :: ·) ih
    | commence category | finish category | success =>
      rw [trace_cons_of_traced rfl, List.filter_cons, isTokenLine_render rfl]
      exact ih
    | error token message => exact ih

end Event

section Streams

variable {source : String}

theorem tokenize_of_faulted {error : ScanError}
    (h : (course startGoals (Scanner.ofString source).stream).standing = .ended (.faulted error)) :
    tokenize source = .error error ∧
      Event.terminals (course startGoals (Scanner.ofString source).stream).events =
        (Scanner.ofString source).readAll.1 := by
  cases hTokens : tokenize source with
  | ok tokens =>
    obtain ⟨accepted, answer, back, rest, hAnswers, -, -, -, -, hCaused⟩ := course_ended h
    cases hCaused
    have hMem : Except.error error ∈ (Scanner.ofString source).stream := by simp [hAnswers]
    rw [(Scanner.stream_of_tokenize hTokens).1] at hMem
    simp at hMem
  | error fault =>
    have hRead := readAll_of_tokenize_error hTokens
    have hInner := Scanner.symbol_ne_of_mem_readAll hRead
    rw [Scanner.stream, hRead] at h ⊢
    cases hStanding : (course startGoals
        ((Scanner.ofString source).readAll.1.map Except.ok)).standing with
    | ended ending =>
      obtain ⟨_, _, _, _, _, _, -, rfl, -⟩ := course_tokens_ended hInner hStanding
      rw [course_append_of_ended _ hStanding, hStanding] at h
      cases h
    | going left =>
      rw [course_append_of_going _ hStanding] at h ⊢
      cases h
      refine ⟨rfl, ?_⟩
      rw [Course.events_after, Event.terminals_append, terminals_of_going hStanding]
      exact List.append_nil _

theorem terminals_of_succeeded
    (h : (course startGoals (Scanner.ofString source).stream).standing = .ended .succeeded) :
    ∃ tokens, tokenize source = .ok tokens ∧
      Event.terminals (course startGoals (Scanner.ofString source).stream).events =
        tokens.dropLast := by
  cases hTokens : tokenize source with
  | error error => exact absurd hTokens (tokenize_ne_error_of_succeeded h error)
  | ok tokens =>
    refine ⟨tokens, rfl, ?_⟩
    obtain ⟨-, hLast, hFront⟩ := Scanner.stream_of_tokenize hTokens
    have hBefore : Token.beforeEnd tokens = tokens.dropLast := by
      rw [hLast, Token.beforeEnd, List.takeWhile_append_of_pos (by simpa using hFront)]
      simp
    rw [← listCourse_of_tokenize hTokens] at h ⊢
    rcases listCourse_ends tokens with ⟨-, hTaken⟩ | ⟨token, expected, rest, hEnd⟩
    · rw [hTaken, hBefore]
    · cases h.symm.trans hEnd

theorem tokenize_of_succeeded
    (h : (course startGoals (Scanner.ofString source).stream).standing = .ended .succeeded) :
    ∃ tokens, tokenize source = .ok tokens ∧ tokens.length =
      (Event.terminals (course startGoals (Scanner.ofString source).stream).events).length + 1 := by
  obtain ⟨tokens, hTokens, hTaken⟩ := terminals_of_succeeded h
  obtain ⟨-, hLast, -⟩ := Scanner.stream_of_tokenize hTokens
  have hLength := congrArg List.length hLast
  rw [List.length_append, List.length_singleton, ← hTaken] at hLength
  exact ⟨tokens, hTokens, hLength⟩

end Streams

namespace CheckReport

def untraced (report : CheckReport) : CheckReport := { report with trace := [] }

end CheckReport

namespace CheckFailure

def untraced : CheckFailure → CheckFailure
  | scan file error _ => scan file error []
  | grammar file diagnostic context _ => grammar file diagnostic context []
  | failure => failure

end CheckFailure

/-- The outcome of a check with nothing in the place of its trace. -/
def untraced (outcome : Except CheckFailure CheckReport) : Except CheckFailure CheckReport :=
  (outcome.map CheckReport.untraced).mapError CheckFailure.untraced

def traceOf : Except CheckFailure CheckReport → List String
  | .ok report => report.trace
  | .error failure => failure.trace

/-- What a check of `source`, with its trace, says of `file`.  There is no other outcome. -/
inductive Consistent (file source : String) : Except CheckFailure CheckReport → Prop where
  | wellFormed {report : CheckReport} {tokens : List Token} (file_eq : report.file = file)
      (terminals_eq : report.terminals = (report.trace.filter isTokenLine).length)
      (tokenize_eq : tokenize source = .ok tokens)
      (length_eq : tokens.length = report.terminals + 1) :
      Consistent file source (.ok report)
  /-- The trace leaves open what is named; and the last link, which is shown, names nothing. -/
  | rejected {failure : CheckFailure} {error : ParseError} {context : List ErrorLink}
      {trace : List String} {productions : List Nonterminal} {links : List ErrorLink}
      (error_eq : (recordText source).1 = .error error)
      (failure_eq : failure = .grammar file error.diagnostic context trace)
      (replay_eq : replayLines [] trace = some (productions.map Nonterminal.name))
      (lines_eq : failure.contextLines =
        productions.map fun production => "while parsing " ++ production.bracketed)
      (context_eq : context = links ++ [⟨none, error.diagnostic⟩])
      (links_eq : links.reverse.map ErrorLink.production = productions.map some)
      (display_eq : failure.display = error.diagnostic) :
      Consistent file source (.error failure)
  | interrupted {failure : CheckFailure} {error : ScanError} {trace : List String}
      (failure_eq : failure = .scan file error trace)
      (lines_eq : failure.contextLines = [])
      (tokenize_eq : tokenize source = .error error)
      (tokens_eq : trace.filter isTokenLine =
        (Scanner.ofString source).readAll.1.map fun token => (Event.terminal token).render) :
      Consistent file source (.error failure)

theorem ParseError.chain_eq (error : ParseError) :
    ∃ links : List ErrorLink, error.chain = links ++ [⟨none, error.diagnostic⟩] ∧
      links.map ErrorLink.production = error.productions.map some := by
  refine ⟨_, rfl, ?_⟩
  rw [List.map_map]
  rfl

section Outcomes

variable (file : String) {source : String}

theorem checkText_eq_untraced (source : String) :
    CheckRequest.checkText ⟨file, false⟩ source =
        untraced (CheckRequest.checkText ⟨file, true⟩ source) ∧
      traceOf (CheckRequest.checkText ⟨file, false⟩ source) = [] := by
  cases hResult : (recordText source).1 with
  | ok =>
    rw [CheckRequest.checkText_of_ok _ hResult, CheckRequest.checkText_of_ok _ hResult]
    exact ⟨rfl, rfl⟩
  | error error =>
    cases error with
    | scan error =>
      rw [CheckRequest.checkText_of_scan _ hResult, CheckRequest.checkText_of_scan _ hResult]
      exact ⟨rfl, rfl⟩
    | unexpectedToken | alreadyRun | context =>
      rw [CheckRequest.checkText_of_error _ hResult nofun,
        CheckRequest.checkText_of_error _ hResult nofun]
      exact ⟨rfl, rfl⟩

theorem length_filter_isTokenLine_trace (source : String) :
    ((Event.trace (recordText source).2).filter isTokenLine).length = acceptedCount source := by
  rw [Event.filter_isTokenLine_trace, List.length_map, acceptedCount]

theorem consistent_of_succeeded
    (h : (course startGoals (Scanner.ofString source).stream).standing = .ended .succeeded) :
    Consistent file source (CheckRequest.checkText ⟨file, true⟩ source) := by
  have hRecord := recordText_of_ended h
  have hOk : (recordText source).1 = .ok () := by
    rw [hRecord]
    rfl
  obtain ⟨tokens, hTokens, hLength⟩ := tokenize_of_succeeded h
  rw [CheckRequest.checkText_of_ok _ hOk]
  refine .wellFormed rfl (length_filter_isTokenLine_trace source).symm hTokens ?_
  rw [acceptedCount, hRecord, Ending.terminals_record]
  exact hLength

theorem exists_error_of_rejected {token : Token} {expected : Expectation} {rest : List Goal}
    (h : (course startGoals (Scanner.ofString source).stream).standing =
      .ended (.rejected token expected rest)) :
    ∃ error, (recordText source).1 = .error error ∧ (∀ fault, error ≠ .scan fault) ∧
      error.productions = (Goal.enclosing rest).reverse ∧
      Event.replay [] (recordText source).2 = some (Goal.enclosing rest) := by
  rw [recordText_of_ended h]
  refine ⟨_, rfl, ?_, ParseError.productions_withinAll_unexpectedToken _ _ _,
    replay_report_of_rejected h _ _⟩
  intro fault hFault
  have hToken := (ParseError.token?_withinAll (Goal.enclosing rest)
    (.unexpectedToken token (expected.message token.symbol))).symm.trans
      (congrArg ParseError.token? hFault)
  cases hToken

theorem consistent_of_rejected {token : Token} {expected : Expectation} {rest : List Goal}
    (h : (course startGoals (Scanner.ofString source).stream).standing =
      .ended (.rejected token expected rest)) :
    Consistent file source (CheckRequest.checkText ⟨file, true⟩ source) := by
  obtain ⟨error, hError, hScan, hProductions, hReplay⟩ := exists_error_of_rejected h
  obtain ⟨links, hChain, hLinks⟩ := error.chain_eq
  have hTrace : replayLines [] (Event.trace (recordText source).2) =
      some ((Goal.enclosing rest).map Nonterminal.name) :=
    (Event.replayLines_trace [] _).trans (congrArg _ hReplay)
  have hNames : links.reverse.map ErrorLink.production = (Goal.enclosing rest).map some := by
    rw [List.map_reverse, hLinks, hProductions, ← List.map_reverse, List.reverse_reverse]
  rw [CheckRequest.checkText_of_error _ hError hScan]
  refine .rejected hError rfl hTrace ?_ hChain hNames rfl
  rw [CheckFailure.contextLines_grammar_chain, hProductions, List.reverse_reverse]

theorem consistent_of_faulted {error : ScanError}
    (h : (course startGoals (Scanner.ofString source).stream).standing = .ended (.faulted error)) :
    Consistent file source (CheckRequest.checkText ⟨file, true⟩ source) := by
  have hRecord := recordText_of_ended h
  have hScan : (recordText source).1 = .error (.scan error) := by
    rw [hRecord]
    rfl
  obtain ⟨hTokens, hTaken⟩ := tokenize_of_faulted h
  rw [CheckRequest.checkText_of_scan _ hScan]
  refine .interrupted rfl rfl hTokens ?_
  have hLines := Event.filter_isTokenLine_trace (recordText source).2
  rw [hRecord, Ending.terminals_record, hTaken, ← hRecord] at hLines
  exact hLines

/-- A check keeps its trace or not, and says the same otherwise; and what it says with the trace
holds together. -/
theorem checkText_consistent (file source : String) :
    CheckRequest.checkText ⟨file, false⟩ source =
        untraced (CheckRequest.checkText ⟨file, true⟩ source) ∧
      traceOf (CheckRequest.checkText ⟨file, false⟩ source) = [] ∧
      Consistent file source (CheckRequest.checkText ⟨file, true⟩ source) := by
  obtain ⟨hUntraced, hNone⟩ := checkText_eq_untraced file source
  obtain ⟨ending, hEnd, -⟩ := exists_record_stream source
  refine ⟨hUntraced, hNone, ?_⟩
  cases ending with
  | succeeded => exact consistent_of_succeeded file hEnd
  | rejected token expected rest => exact consistent_of_rejected file hEnd
  | faulted error => exact consistent_of_faulted file hEnd

end Outcomes

end TallyCheck
