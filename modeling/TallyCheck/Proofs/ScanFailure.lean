import Mathlib.Data.List.DropRight
import TallyCheck.Proofs.Language
import TallyCheck.Proofs.Stream

/-! # Scan errors met by an analysis

The analysis of a text that cannot be scanned, next to the analysis of the list of tokens before the
scan error.  The scanner is not asked for a token before those in front of it are taken, so that a
token rejected in the list hides the scan error, and otherwise the scan error comes before anything
that the end of the list would have brought.
-/
namespace TallyCheck
set_option autoImplicit false

namespace Event

/-- An event with which a recording ends. -/
def isLast : Event → Bool
  | success | error _ _ => true
  | _ => false

/-- The events up to the last terminal. -/
def upToTerminal (events : List Event) : List Event :=
  events.rdropWhile fun event => event.token?.isNone

theorem upToTerminal_append {front back : List Event}
    (hFront : front = [] ∨ ∃ before token, front = before ++ [.terminal token])
    (hBack : terminals back = []) : upToTerminal (front ++ back) = front := by
  have hNone : ∀ event ∈ back.reverse, event.token?.isNone = true := by
    intro event hMem
    rw [Option.isNone_iff_eq_none]
    exact List.filterMap_eq_nil_iff.mp hBack event (List.mem_reverse.mp hMem)
  have hSkip : upToTerminal (front ++ back) = upToTerminal front := by
    rw [upToTerminal, List.rdropWhile, List.reverse_append, List.dropWhile_append_of_pos hNone]
    rfl
  rw [hSkip]
  rcases hFront with rfl | ⟨before, token, rfl⟩
  · rfl
  · exact List.rdropWhile_concat_neg _ _ _ (by simp [token?])

end Event

theorem events_of_going {answers : List Answer} {goals rest : List Goal}
    (h : (course goals answers).standing = .going rest) :
    (course goals answers).events = [] ∨
      ∃ before token, (course goals answers).events = before ++ [.terminal token] := by
  induction answers generalizing goals with
  | nil => exact .inl rfl
  | cons answer answers ih =>
    cases answer with
    | error error => cases h
    | ok token =>
      rw [course_ok, Prediction.course] at h ⊢
      split at h
      · rw [Course.events_after]
        rcases ih h with hEvents | ⟨before, last, hEvents⟩
        · rw [hEvents, List.append_nil]
          exact .inr ⟨_, token, rfl⟩
        · rw [hEvents, ← List.append_assoc]
          exact .inr ⟨_, last, rfl⟩
      · cases h
      · cases h

theorem isLast_eq_false_of_mem_predict {lookahead : Symbol} {goals : List Goal} :
    ∀ event ∈ (predict lookahead goals).events, event.isLast = false := by
  fun_induction predict lookahead goals with
  | case1 | case3 | case6 | case7 | case9 =>
    intro event hMem
    cases hMem
  | case2 production goals ih | case4 production goals ih =>
    exact List.forall_mem_cons.mpr ⟨rfl, ih⟩
  | case5 choice goals branch hBranch ih => exact ih
  | case8 separators item hInner goals hMem ih => exact ih
  | case10 lead item hInner goals hLead ih => exact ih

theorem isLast_eq_false_of_mem_course (goals : List Goal) (answers : List Answer) :
    ∀ event ∈ (course goals answers).events, event.isLast = false := by
  induction answers generalizing goals with
  | nil => exact fun _ => nofun
  | cons answer answers ih =>
    cases answer with
    | error error => exact fun _ => nofun
    | ok token =>
      rw [course_ok, Prediction.course]
      split
      · rename_i rest _
        intro event hMem
        simp only [Course.events_after, List.mem_append, List.mem_singleton] at hMem
        rcases hMem with (hMem | rfl) | hMem
        · exact isLast_eq_false_of_mem_predict event hMem
        · rfl
        · exact ih rest event hMem
      · exact isLast_eq_false_of_mem_predict
      · exact isLast_eq_false_of_mem_predict

/-- What an analysis returns, and the events recorded. -/
abbrev Record := Except ParseError Unit × List Event

def recordList (tokens : List Token) : Record :=
  let (result, analysis) := Analysis.run (.new (Padded.ofProducer tokens) Recording.empty)
  (result, analysis.observer.events)

def recordText (source : String) : Record :=
  let (result, recording) := analyseText source Recording.empty
  (result, recording.events)

def Ending.record (events : List Event) (ending : Ending) : Record :=
  (ending.result (Observer.notifyAll events Recording.empty), events ++ ending.report)

theorem recordList_eq {tokens : List Token} {whole : Course} {ending : Ending}
    (hCourse : listCourse tokens = whole) (hEnd : whole.standing = .ended ending) :
    recordList tokens = ending.record whole.events := by
  subst hCourse
  exact Prod.ext (Analysis.run_list tokens Recording.empty hEnd).1
    (Analysis.recorded_run_list tokens hEnd)

theorem recordText_eq {source : String} {answers : List Answer} {last : Padded Scanner}
    {whole : Course} {ending : Ending}
    (hAnswers : Answers (Padded.ofProducer (Scanner.ofString source)) answers last)
    (hCourse : course startGoals answers = whole) (hEnd : whole.standing = .ended ending) :
    recordText source = ending.record whole.events := by
  subst hCourse
  obtain ⟨hResult, hObserver⟩ := Run.finish_of_course hAnswers Recording.empty hEnd
  exact Prod.ext hResult
    ((congrArg Recording.events hObserver).trans (Recording.events_notifyAll _ _))

theorem Ending.terminals_record (events : List Event) (ending : Ending) :
    Event.terminals (ending.record events).2 = Event.terminals events := by
  rw [record, Event.terminals_append, terminals_report, List.append_nil]

/-- A token of the list is rejected, and in the text likewise; the scan error behind it is not
met. -/
structure RejectedWithin (tokens : List Token) (listed checked : Record) : Prop where
  rejects : ∃ error, listed.1 = .error error ∧
    error.token? = tokens[(Event.terminals listed.2).length]?
  result_eq : checked.1 = listed.1
  events_eq : checked.2 = listed.2
  not_scan : ∀ error, checked.1 ≠ .error (.scan error)

/-- No token of the list is rejected, and behind the last one the scan error ends the analysis,
whatever productions are open. -/
structure Interrupted (tokens : List Token) (error : ScanError) (listed checked : Record) :
    Prop where
  passes : listed.1 = .ok () ∨ ∃ error last, listed.1 = .error error ∧
    error.token? = some last ∧ last.symbol = .endOfInput
  result_eq : checked.1 = .error (.scan error)
  no_context : ∀ thrown, checked.1 = .error thrown → thrown.depth = 0 ∧ thrown.productions = []
  terminals_eq : Event.terminals checked.2 = tokens
  no_success : .success ∉ checked.2
  no_error : ∀ token message, .error token message ∉ checked.2
  events_eq : checked.2 = Event.upToTerminal listed.2
  nil_of_nil : tokens = [] → checked.2 = []

theorem RejectedWithin.of_ended {tokens : List Token} {ending : Ending}
    (hTokens : ∀ token ∈ tokens, token.symbol ≠ .endOfInput)
    (h : (course startGoals (tokens.map Except.ok)).standing = .ended ending) :
    let record := ending.record (course startGoals (tokens.map Except.ok)).events
    (Event.terminals record.2).length < tokens.length ∧ RejectedWithin tokens record record := by
  obtain ⟨taken, token, unread, expected, rest, -, hSplit, rfl, hTaken, -, -⟩ :=
    course_tokens_ended hTokens h
  intro record
  have hTerminals : Event.terminals record.2 = taken :=
    (Ending.terminals_record _ _).trans hTaken
  have hToken : tokens[taken.length]? = some token := by
    rw [hSplit, List.getElem?_append_right (Nat.le_refl _), Nat.sub_self]
    rfl
  have hLess : (Event.terminals record.2).length < tokens.length := by
    rw [hTerminals, hSplit, List.length_append, List.length_cons]
    omega
  have hRejects : ∃ error, record.1 = .error error ∧
      error.token? = tokens[(Event.terminals record.2).length]? := by
    rw [hTerminals, hToken]
    exact ⟨_, rfl, Ending.token?_of_result rfl⟩
  refine ⟨hLess, ⟨hRejects, rfl, rfl, ?_⟩⟩
  intro fault hFault
  cases Ending.token?_of_result hFault

theorem Interrupted.of_going {tokens : List Token} {left : List Goal} (error : ScanError)
    {last : Token} (hLast : last.symbol = .endOfInput)
    (h : (course startGoals (tokens.map Except.ok)).standing = .going left) {ending : Ending}
    (hEnd : (course left [.ok last]).standing = .ended ending) :
    let front := (course startGoals (tokens.map Except.ok)).events
    let listed := ending.record (front ++ (course left [.ok last]).events)
    Event.terminals listed.2 = tokens ∧
      Interrupted tokens error listed (Ending.record front (.faulted error)) := by
  intro front listed
  have hFront : Event.terminals front = tokens := terminals_of_going h
  have hInner : ∀ event ∈ front, event.isLast = false := isLast_eq_false_of_mem_course _ _
  obtain ⟨hNone, hEnds⟩ := course_last hEnd
  have hBack : Event.terminals ((course left [.ok last]).events ++ ending.report) = [] := by
    rw [Event.terminals_append, hNone, ending.terminals_report, List.append_nil]
  have hListed : listed.2 = front ++ ((course left [.ok last]).events ++ ending.report) :=
    List.append_assoc _ _ _
  have hChecked : (Ending.record front (.faulted error)).2 = front := List.append_nil front
  have hAll : Event.terminals listed.2 = tokens := by
    rw [hListed, Event.terminals_append, hFront, hBack, List.append_nil]
  have hPasses : listed.1 = .ok () ∨ ∃ error last, listed.1 = .error error ∧
      error.token? = some last ∧ last.symbol = .endOfInput := by
    cases hEnds with
    | succeeded => exact .inl rfl
    | rejected _ expected rest => exact .inr ⟨_, last, rfl, Ending.token?_of_result rfl, hLast⟩
  refine ⟨hAll, ?_⟩
  exact
    { passes := hPasses
      result_eq := rfl
      no_context := by
        rintro thrown ⟨⟩
        exact ⟨rfl, rfl⟩
      terminals_eq := by rw [hChecked, hFront]
      no_success := by
        intro hMem
        cases hInner _ (hChecked ▸ hMem)
      no_error := by
        intro token message hMem
        cases hInner _ (hChecked ▸ hMem)
      events_eq := by
        rw [hChecked, hListed, Event.upToTerminal_append (events_of_going h) hBack]
      nil_of_nil := by
        rintro rfl
        exact hChecked }

/-- A text that cannot be scanned is analysed like the list of its tokens before the error, until
one of these is rejected or the error is met. -/
theorem recordText_of_scan_error {source : String} {error : ScanError}
    (h : tokenize source = .error error) :
    let tokens := (Scanner.ofString source).readAll.1
    let listed := recordList tokens
    ((Event.terminals listed.2).length < tokens.length →
        RejectedWithin tokens listed (recordText source)) ∧
      (tokens.length ≤ (Event.terminals listed.2).length →
        Interrupted tokens error listed (recordText source)) := by
  intro tokens listed
  obtain ⟨⟨last, hAnswers⟩, hTokens⟩ :=
    Padded.answers_scanner 0 rfl (readAll_of_tokenize_error h)
  have hList : listCourse tokens =
      course startGoals (tokens.map Except.ok ++ [.ok (Token.sentinel 0 tokens)]) :=
    listCourse_of_inner hTokens
  cases hStanding : (course startGoals (tokens.map Except.ok)).standing with
  | ended ending =>
    obtain ⟨hLess, hRejected⟩ := RejectedWithin.of_ended hTokens hStanding
    have hListed : listed = _ :=
      recordList_eq (hList.trans (course_append_of_ended _ hStanding)) hStanding
    have hChecked := recordText_eq hAnswers (course_append_of_ended _ hStanding) hStanding
    rw [hListed, hChecked]
    constructor
    · exact fun _ => hRejected
    · exact fun hAll => absurd hLess (Nat.not_lt.mpr hAll)
  | going left =>
    have hSentinel := Token.symbol_sentinel 0 tokens
    obtain ⟨ending, hEnd⟩ := exists_ended_endOfInput left hSentinel
    obtain ⟨hAll, hInterrupted⟩ := Interrupted.of_going error hSentinel hStanding hEnd
    have hListed : listed = _ :=
      recordList_eq (hList.trans (course_append_of_going _ hStanding)) hEnd
    have hChecked := recordText_eq hAnswers (course_append_of_going [.error error] hStanding) rfl
    rw [Course.events_after, course, List.append_nil] at hChecked
    rw [hListed, hChecked]
    constructor
    · intro hLess
      rw [Course.events_after, hAll] at hLess
      omega
    · exact fun _ => hInterrupted

def misplacedParenthesis : String := "begin x := ) ?"

def unfinishedCall : String := "begin if x = 1 then call p(a, ?"

theorem misplacedParenthesis_unfinishedCall_records :
    tokenize misplacedParenthesis = .error ⟨.unexpectedCharacter '?', 0⟩ ∧
    RejectedWithin (Scanner.ofString misplacedParenthesis).readAll.1
      (recordList (Scanner.ofString misplacedParenthesis).readAll.1)
      (recordText misplacedParenthesis) ∧
    tokenize unfinishedCall = .error ⟨.unexpectedCharacter '?', 0⟩ ∧
    Interrupted (Scanner.ofString unfinishedCall).readAll.1 ⟨.unexpectedCharacter '?', 0⟩
      (recordList (Scanner.ofString unfinishedCall).readAll.1) (recordText unfinishedCall) := by
  have hParenthesis :
      tokenize misplacedParenthesis = .error ⟨.unexpectedCharacter '?', 0⟩ := by decide +kernel
  have hCall : tokenize unfinishedCall = .error ⟨.unexpectedCharacter '?', 0⟩ := by decide +kernel
  have hRejected := (recordText_of_scan_error hParenthesis).1 (by decide +kernel)
  have hInterrupted := (recordText_of_scan_error hCall).2 (by decide +kernel)
  exact ⟨hParenthesis, hRejected, hCall, hInterrupted⟩

end TallyCheck
