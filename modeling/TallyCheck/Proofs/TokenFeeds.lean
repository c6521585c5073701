import TallyCheck.Proofs.LineNumbers

/-! # Feeds of one text

The scanner of a text, the scanner padded, the list of its tokens, and that list without its end
feed an analysis alike.  Only the line of the end of the input differs, where there is no token
for it.
-/
namespace TallyCheck
set_option autoImplicit false

def Ending.status : Ending → Status
  | succeeded => .succeeded
  | _ => .failed

/-- What is to be seen of an analysis that has run. -/
structure Account (τ : Type) where
  result : Except ParseError Unit
  status : Status
  observer : τ

def Account.ofEnding {τ : Type} [Observer τ] (events : List Event) (ending : Ending)
    (observer : τ) : Account τ where
  result := ending.result (Observer.notifyAll events observer)
  status := ending.status
  observer := Observer.notifyAll (events ++ ending.report) observer

namespace Analysis

section Accounts

variable {σ τ : Type} [FiniteSource σ] [Observer τ]

def account (source : σ) (observer : τ) : Account τ :=
  let (result, analysis) := Analysis.run (.new source observer)
  ⟨result, analysis.status, analysis.observer⟩

theorem account_eq {source last : σ} {answers : List Answer} {whole : Course} {ending : Ending}
    (hAnswers : Answers source answers last) (hCourse : course startGoals answers = whole)
    (h : whole.standing = .ended ending) (observer : τ) :
    account source observer = .ofEnding whole.events ending observer := by
  subst hCourse
  obtain ⟨hResult, hObserver⟩ := Run.finish_of_course hAnswers observer h
  have hStatus : (Run.start source observer).finish.status = ending.status := by
    change Ended.status (Run.mk source observer startGoals).finish = _
    rw [Ended.status, hResult]
    cases ending <;> rfl
  rw [Account.ofEnding, ← hResult, ← hObserver, ← hStatus]
  rfl

end Accounts
end Analysis

/-- The token, on another line if it stands for the end of the input. -/
def Token.moveEnd (line : Nat) (token : Token) : Token :=
  if token.symbol = .endOfInput then .endOfInput line else token

def ParseError.moveEnd (line : Nat) : ParseError → ParseError
  | unexpectedToken token message => unexpectedToken (token.moveEnd line) message
  | context production cause => context production (cause.moveEnd line)
  | error => error

def Event.moveEnd (line : Nat) : Event → Event
  | error token message => error (token.moveEnd line) message
  | event => event

def Ending.moveEnd (line : Nat) : Ending → Ending
  | rejected token expected rest => rejected (token.moveEnd line) expected rest
  | ending => ending

def Standing.moveEnd (line : Nat) : Standing → Standing
  | going goals => going goals
  | ended ending => ended (ending.moveEnd line)

def Course.moveEnd (line : Nat) (course : Course) : Course :=
  { course with standing := course.standing.moveEnd line }

def Account.moveEnd (line : Nat) (account : Account Recording) : Account Recording where
  result := account.result.mapError (ParseError.moveEnd line)
  status := account.status
  observer := ⟨account.observer.log.map (Event.moveEnd line)⟩

variable (line : Nat)

namespace Token

@[simp] theorem symbol_moveEnd (token : Token) : (token.moveEnd line).symbol = token.symbol := by
  unfold moveEnd
  split
  · rename_i hEnd
    rw [hEnd, symbol_endOfInput]
  · rfl

theorem moveEnd_of_ne {token : Token} (h : token.symbol ≠ .endOfInput) :
    token.moveEnd line = token := if_neg h

theorem moveEnd_of_endOfInput {token : Token} (h : token.symbol = .endOfInput) :
    token.moveEnd line = .endOfInput line := if_pos h

end Token

namespace ParseError

theorem moveEnd_within (production : Nonterminal) (error : ParseError) :
    (error.within production).moveEnd line = (error.moveEnd line).within production := by
  cases error <;> rfl

theorem moveEnd_withinAll (productions : List Nonterminal) (error : ParseError) :
    (error.withinAll productions).moveEnd line = (error.moveEnd line).withinAll productions := by
  induction productions generalizing error with
  | nil => rfl
  | cons production productions ih =>
    calc
      _ = ((error.within production).moveEnd line).withinAll productions := ih _
      _ = (error.moveEnd line).withinAll (production :: productions) := by
        rw [moveEnd_within]
        rfl

end ParseError

theorem course_moveEnd (goals : List Goal) (tokens : List Token) :
    course goals ((tokens.map (Token.moveEnd line)).map Except.ok) =
      (course goals (tokens.map Except.ok)).moveEnd line := by
  induction tokens generalizing goals with
  | nil => rfl
  | cons token tokens ih =>
    simp only [List.map_cons, course_ok, Prediction.course, Token.symbol_moveEnd]
    split
    · rename_i rest hVerdict
      rw [ih, Token.moveEnd_of_ne line (predict_accept_ne_endOfInput hVerdict)]
      rfl
    · rfl
    · rfl

theorem map_moveEnd_course (goals : List Goal) (answers : List Answer) :
    (course goals answers).events.map (Event.moveEnd line) = (course goals answers).events := by
  have hSame : ∀ event ∈ (course goals answers).events, event.moveEnd line = id event := by
    intro event hMem
    have hInner := isLast_eq_false_of_mem_course goals answers event hMem
    cases event with
    | error token message => cases hInner
    | _ => rfl
  rw [List.map_congr_left hSame, List.map_id]

namespace Ending

theorem report_moveEnd (ending : Ending) :
    (ending.moveEnd line).report = ending.report.map (Event.moveEnd line) := by
  cases ending with
  | rejected token expected rest =>
    simp only [moveEnd, report, Token.symbol_moveEnd]
    rfl
  | succeeded | faulted => rfl

theorem result_moveEnd (ending : Ending) (recording : Recording) :
    (ending.moveEnd line).result recording =
      (ending.result recording).mapError (ParseError.moveEnd line) := by
  cases ending with
  | rejected token expected rest =>
    have hError := ParseError.moveEnd_withinAll line (Goal.enclosing rest)
      (.unexpectedToken token (expected.message token.symbol))
    simp only [moveEnd, result, Token.symbol_moveEnd]
    exact congrArg Except.error hError.symm
  | succeeded | faulted => rfl

theorem status_moveEnd (ending : Ending) : (ending.moveEnd line).status = ending.status := by
  cases ending <;> rfl

end Ending

theorem Recording.notifyAll_map_moveEnd (events : List Event) :
    Observer.notifyAll (events.map (Event.moveEnd line)) empty =
      ⟨(Observer.notifyAll events empty).log.map (Event.moveEnd line)⟩ := by
  have hLog (heard : List Event) : (Observer.notifyAll heard empty).log.toList = heard :=
    events_notifyAll heard empty
  refine congrArg mk (Array.ext' ((hLog _).trans ?_))
  rw [Array.toList_map, hLog]

theorem Account.ofEnding_moveEnd (goals : List Goal) (answers : List Answer) (ending : Ending) :
    ofEnding (course goals answers).events (ending.moveEnd line) Recording.empty =
      (ofEnding (course goals answers).events ending Recording.empty).moveEnd line := by
  have hResult := ending.result_moveEnd line
    (Observer.notifyAll (course goals answers).events Recording.empty)
  have hEvents : (course goals answers).events ++ (ending.moveEnd line).report =
      ((course goals answers).events ++ ending.report).map (Event.moveEnd line) := by
    rw [List.map_append, map_moveEnd_course, Ending.report_moveEnd]
  simp only [ofEnding, moveEnd, hResult, Ending.status_moveEnd, hEvents,
    Recording.notifyAll_map_moveEnd]

namespace Scanner

theorem exists_readAll_eq {scanner : Scanner} (h : scanner.readAll.2 = none) :
    ∃ front last, scanner.readAll.1 = front ++ [last] ∧ last.symbol = .endOfInput ∧
      ∀ token ∈ front, token.symbol ≠ .endOfInput := by
  fun_induction readAll scanner with
  | case1 => cases h
  | case2 scanner token hToken hEnd => exact ⟨[], token, rfl, hEnd, List.forall_mem_nil _⟩
  | case3 scanner token hToken hEnd tokens rest hRest ih =>
    rw [hRest] at ih
    obtain ⟨front, last, hTokens, hLast, hFront⟩ := ih h
    exact ⟨token :: front, last, congrArg (token :: ·) hTokens, hLast,
      List.forall_mem_cons.mpr ⟨hEnd, hFront⟩⟩

theorem stream_of_tokenize {source : String} {tokens : List Token}
    (h : tokenize source = .ok tokens) :
    (ofString source).stream = tokens.map Except.ok ∧
      tokens = tokens.dropLast ++ [.endOfInput (source.toList.count '\n')] ∧
      ∀ token ∈ tokens.dropLast, token.symbol ≠ .endOfInput := by
  have hRead := readAll_of_tokenize h
  have hStream : (ofString source).stream = tokens.map Except.ok := by
    rw [stream, hRead]
    exact List.append_nil _
  obtain ⟨front, last, hTokens, hLast, hFront⟩ := exists_readAll_eq (congrArg Prod.snd hRead)
  obtain rfl : tokens = front ++ [last] := by rwa [hRead] at hTokens
  have hAnswer : (ofString source).answer front.length = .ok last := by
    apply answer_of_getElem?_stream
    simp [hStream]
  have hLine := line_of_endOfInput hAnswer hLast
  rw [List.dropLast_concat, ← hLine, ← Token.eq_endOfInput hLast]
  exact ⟨hStream, rfl, hFront⟩

end Scanner

theorem listCourse_append_end {front : List Token} {last : Token}
    (hFront : ∀ token ∈ front, token.symbol ≠ .endOfInput) {ending : Ending}
    (h : (course startGoals ((front ++ [last]).map Except.ok)).standing = .ended ending) :
    listCourse (front ++ [last]) = course startGoals ((front ++ [last]).map Except.ok) := by
  obtain ⟨rest, hRest⟩ := Token.exists_beforeEnd_append_cons 0 hFront last []
  rw [listCourse, hRest, List.append_cons, List.map_append, course_append_of_ended _ h]

theorem Token.map_moveEnd_append_end {front : List Token}
    (hFront : ∀ token ∈ front, token.symbol ≠ .endOfInput) (other : Nat) :
    (front ++ [endOfInput other]).map (moveEnd line) = front ++ [endOfInput line] := by
  have hSame : ∀ token ∈ front, token.moveEnd line = id token :=
    fun token hMem => moveEnd_of_ne line (hFront token hMem)
  rw [List.map_append, List.map_congr_left hSame, List.map_id, List.map_singleton,
    moveEnd_of_endOfInput line (symbol_endOfInput other)]

theorem listCourse_moveEnd {front : List Token}
    (hFront : ∀ token ∈ front, token.symbol ≠ .endOfInput) :
    listCourse front =
      (course startGoals ((front ++ [Token.endOfInput line]).map Except.ok)).moveEnd
        (front.getLast?.elim 0 Token.line) := by
  rw [← course_moveEnd, Token.map_moveEnd_append_end _ hFront,
    ← Token.sentinel_eq_endOfInput 0 hFront, listCourse, Token.beforeEnd_eq_self hFront]

namespace Analysis

theorem account_list {τ : Type} [Observer τ] {tokens : List Token} {whole : Course}
    {ending : Ending} (hCourse : listCourse tokens = whole)
    (h : whole.standing = .ended ending) (observer : τ) :
    account (Padded.ofProducer tokens) observer = .ofEnding whole.events ending observer := by
  obtain ⟨last, hAnswers⟩ := Padded.answers_list tokens 0
  exact account_eq hAnswers hCourse h observer

theorem account_scanner {τ : Type} [Observer τ] {source : String} {ending : Ending}
    (h : (course startGoals (Scanner.ofString source).stream).standing = .ended ending)
    (observer : τ) :
    let events := (course startGoals (Scanner.ofString source).stream).events
    account (Scanner.ofString source) observer = .ofEnding events ending observer ∧
      account (Padded.ofProducer (Scanner.ofString source)) observer =
        .ofEnding events ending observer := by
  obtain ⟨last, hAnswers⟩ := Scanner.followedBy_self.answers (Eq.refl (Scanner.ofString source))
  obtain ⟨padded, hPadded⟩ := Padded.exists_answers_stream source
  exact ⟨account_eq hAnswers rfl h observer, account_eq hPadded rfl h observer⟩

section Ends

variable {front : List Token} {ending : Ending}
  (hFront : ∀ token ∈ front, token.symbol ≠ .endOfInput)
  (h : (course startGoals ((front ++ [Token.endOfInput line]).map Except.ok)).standing =
    .ended ending)
include hFront h

theorem account_append_end {τ : Type} [Observer τ] (observer : τ) :
    account (Padded.ofProducer (front ++ [Token.endOfInput line])) observer = .ofEnding
      (course startGoals ((front ++ [Token.endOfInput line]).map Except.ok)).events
      ending observer :=
  account_list (listCourse_append_end hFront h) h observer

theorem account_append_end_moveEnd :
    (account (Padded.ofProducer (front ++ [Token.endOfInput line])) Recording.empty).moveEnd line =
      account (Padded.ofProducer (front ++ [Token.endOfInput line])) Recording.empty := by
  have hCourse := course_moveEnd line startGoals (front ++ [Token.endOfInput line])
  rw [Token.map_moveEnd_append_end line hFront] at hCourse
  have hStanding := congrArg Course.standing hCourse
  rw [Course.moveEnd, h] at hStanding
  have hEnding : ending.moveEnd line = ending := (Standing.ended.inj hStanding).symm
  rw [account_append_end line hFront h, ← Account.ofEnding_moveEnd, hEnding]

theorem account_front :
    account (Padded.ofProducer front) Recording.empty =
      (account (Padded.ofProducer (front ++ [Token.endOfInput line])) Recording.empty).moveEnd
        (front.getLast?.elim 0 Token.line) := by
  have hMoved := congrArg (Standing.moveEnd (front.getLast?.elim 0 Token.line)) h
  rw [account_append_end line hFront h, ← Account.ofEnding_moveEnd]
  exact account_list (listCourse_moveEnd line hFront) hMoved Recording.empty

end Ends

/-- A scanner, a scanner that is padded and the list of its tokens lead to the same analysis.  A
list without its end does too, but for the line of the end, which becomes that of the last
token. -/
theorem token_feeds_agree (source : String) :
    (∀ {τ : Type} [Observer τ] (observer : τ),
      account (Padded.ofProducer (Scanner.ofString source)) observer =
        account (Scanner.ofString source) observer) ∧
    ∀ tokens : List Token, tokenize source = .ok tokens →
      (∀ {τ : Type} [Observer τ] (observer : τ),
        account (Padded.ofProducer tokens) observer =
          account (Scanner.ofString source) observer) ∧
      tokens = tokens.dropLast ++ [.endOfInput (source.toList.count '\n')] ∧
      let whole := account (Padded.ofProducer tokens) Recording.empty
      whole.moveEnd (source.toList.count '\n') = whole ∧
        account (Padded.ofProducer tokens.dropLast) Recording.empty =
          whole.moveEnd (tokens.dropLast.getLast?.elim 0 Token.line) := by
  obtain ⟨ending, hEnd⟩ := (Scanner.ofString source).exists_ended_stream startGoals
  constructor
  · intro τ _ observer
    obtain ⟨hScanner, hPadded⟩ := account_scanner hEnd observer
    exact hPadded.trans hScanner.symm
  · intro tokens hTokens
    obtain ⟨hStream, hLast, hFront⟩ := Scanner.stream_of_tokenize hTokens
    generalize tokens.dropLast = front at hLast hFront ⊢
    generalize source.toList.count '\n' = line at hLast ⊢
    subst hLast
    have hCourse := hEnd
    rw [hStream] at hCourse
    refine ⟨?_, rfl, account_append_end_moveEnd line hFront hCourse,
      account_front line hFront hCourse⟩
    intro τ _ observer
    rw [account_append_end line hFront hCourse, (account_scanner hEnd observer).1, hStream]

def unclosedProgram : String := "begin\n  x := 1 // one\n\n"

def unclosedTokens : List Token :=
  [.fixed .beginWord 0, .ofText .identifier "x" 1, .fixed .becomes 1,
    .ofText .numberConstant "1" 1, .endOfInput 3]

def unclosedError (line : Nat) : ParseError :=
  .withinAll [.statementPart]
    (.unexpectedToken (.endOfInput line) "Expected token end but found end-of-input")

theorem unclosedProgram_token_feeds :
    tokenize unclosedProgram = .ok unclosedTokens ∧
    account (Padded.ofProducer unclosedTokens) Recording.empty =
      account (Scanner.ofString unclosedProgram) Recording.empty ∧
    (account (Padded.ofProducer unclosedTokens) Recording.empty).result =
      .error (unclosedError 3) ∧
    account (Padded.ofProducer unclosedTokens.dropLast) Recording.empty =
      (account (Padded.ofProducer unclosedTokens) Recording.empty).moveEnd 1 ∧
    (account (Padded.ofProducer unclosedTokens.dropLast) Recording.empty).result =
      .error (unclosedError 1) := by
  have hTokens : tokenize unclosedProgram = .ok unclosedTokens := by decide +kernel
  obtain ⟨-, hFeeds⟩ := token_feeds_agree unclosedProgram
  obtain ⟨hList, -, -, hFront⟩ := hFeeds unclosedTokens hTokens
  exact ⟨hTokens, hList Recording.empty, by decide +kernel, hFront, by decide +kernel⟩

end Analysis
end TallyCheck
