import Mathlib.Data.List.TakeWhile
import TallyCheck.Proofs.Course
import TallyCheck.Recording

/-! # Runs and their courses

What a run over a finite source returns and reports, from the course of the answers it gets; and
the answers of token lists.
-/
namespace TallyCheck
set_option autoImplicit false

namespace Ending

/-- The last report of a run; a fault of the source is not reported. -/
def report : Ending → List Event
  | succeeded => [.success]
  | rejected token expected _ => [.error token (expected.message token.symbol)]
  | faulted _ => []

/-- What a run returns, given what its observer has become by its end. -/
def result {τ : Type} [Observer τ] (observer : τ) : Ending → Except ParseError Unit
  | succeeded => .ok ()
  | rejected token expected rest =>
    .error ((Observer.refuse token (expected.message token.symbol) observer).withinAll
      (Goal.enclosing rest))
  | faulted error => .error (.scan error)

theorem terminals_report (ending : Ending) : Event.terminals ending.report = [] := by
  cases ending <;> rfl

end Ending

theorem Observer.notifyAll_append {τ : Type} [Observer τ] (front back : List Event)
    (observer : τ) :
    notifyAll (front ++ back) observer = notifyAll back (notifyAll front observer) :=
  List.foldl_append

theorem Recording.events_notifyAll (events : List Event) (recording : Recording) :
    (Observer.notifyAll events recording).events = recording.events ++ events := by
  induction events generalizing recording with
  | nil => exact (List.append_nil _).symm
  | cons event events ih =>
    have hPush : (Observer.notify event recording).events = recording.events ++ [event] :=
      events_push event recording
    calc
      _ = (Observer.notify event recording).events ++ events := ih _
      _ = recording.events ++ event :: events := by rw [hPush, List.append_assoc]; rfl

theorem Ending.token?_of_result {token : Token} {expected : Expectation} {rest : List Goal}
    {recording : Recording} {error : ParseError}
    (h : (rejected token expected rest).result recording = .error error) :
    error.token? = some token := by
  cases h
  exact ParseError.token?_withinAll _ _

namespace Run

variable {σ τ : Type} [Observer τ]

theorem step_of_error [TokenSource σ] {source next : σ} {error : ScanError}
    (h : TokenSource.next source = (.error error, next)) (observer : τ) (goals : List Goal) :
    (Run.mk source observer goals).step = .ended ⟨.error (.scan error), next, observer⟩ := by
  rw [step, h]

theorem step_of_ok [TokenSource σ] {source next : σ} {token : Token}
    (h : TokenSource.next source = (.ok token, next)) (observer : τ) (goals : List Goal) :
    (Run.mk source observer goals).step = meet token next observer goals := by
  rw [step, h]

theorem finish_of_course [FiniteSource σ] {source last : σ} {answers : List Answer}
    (hAnswers : Answers source answers last) (observer : τ) {goals : List Goal}
    {ending : Ending} (h : (course goals answers).standing = .ended ending) :
    (Run.mk source observer goals).finish.result =
        ending.result (Observer.notifyAll (course goals answers).events observer) ∧
      (Run.mk source observer goals).finish.observer =
        Observer.notifyAll ((course goals answers).events ++ ending.report) observer := by
  induction hAnswers generalizing observer goals with
  | nil => cases h
  | @cons source last answers _ ih =>
    rcases hNext : TokenSource.next source with ⟨answer, next⟩
    simp only [hNext] at h ih ⊢
    cases answer with
    | error error =>
      cases h
      rw [finish_of_ended (step_of_error hNext observer goals)]
      exact ⟨rfl, rfl⟩
    | ok token =>
      have hStep := step_of_ok hNext observer goals
      rw [course_ok, Prediction.course] at h ⊢
      rw [meet] at hStep
      split at h
      · rename_i rest hVerdict
        simp only [hVerdict] at hStep
        have hRest := ih (Observer.notify (.terminal token)
          (Observer.notifyAll (predict token.symbol goals).events observer)) h
        rw [finish_of_going hStep]
        simp only [Course.events_after, Observer.notifyAll_append] at hRest ⊢
        exact hRest
      · rename_i hVerdict
        simp only [hVerdict] at hStep
        cases h
        rw [finish_of_ended hStep, Observer.notifyAll_append]
        exact ⟨rfl, rfl⟩
      · rename_i expected rest hVerdict
        simp only [hVerdict] at hStep
        cases h
        rw [finish_of_ended hStep, Observer.notifyAll_append]
        exact ⟨rfl, rfl⟩

theorem course_of_step_going [TokenSource σ] {run next : Run σ τ} (h : run.step = .going next) :
    ∃ token, TokenSource.next run.source = (.ok token, next.source) ∧
      (course run.goals [.ok token]).standing = .going next.goals ∧
      next.observer = Observer.notifyAll (course run.goals [.ok token]).events run.observer := by
  obtain ⟨source, observer, goals⟩ := run
  rcases hNext : TokenSource.next source with ⟨answer, behind⟩
  cases answer with
  | error error =>
    rw [step_of_error hNext] at h
    cases h
  | ok token =>
    rw [step_of_ok hNext, meet] at h
    refine ⟨token, ?_⟩
    rw [course_ok, Prediction.course]
    cases hVerdict : (predict token.symbol goals).verdict with
    | accept rest =>
      simp only [hVerdict] at h ⊢
      cases h
      simp [course, Observer.notifyAll]
    | complete | reject =>
      simp only [hVerdict] at h
      cases h

theorem course_of_step_ended [TokenSource σ] {run : Run σ τ} {ended : Ended σ τ}
    (h : run.step = .ended ended) :
    ∃ answer ending, TokenSource.next run.source = (answer, ended.source) ∧
      (course run.goals [answer]).standing = .ended ending ∧
      ended.result =
        ending.result (Observer.notifyAll (course run.goals [answer]).events run.observer) ∧
      ended.observer =
        Observer.notifyAll ((course run.goals [answer]).events ++ ending.report) run.observer := by
  obtain ⟨source, observer, goals⟩ := run
  rcases hNext : TokenSource.next source with ⟨answer, behind⟩
  cases answer with
  | error error =>
    rw [step_of_error hNext] at h
    cases h
    exact ⟨_, .faulted error, rfl, rfl, rfl, rfl⟩
  | ok token =>
    rw [step_of_ok hNext, meet] at h
    cases hVerdict : (predict token.symbol goals).verdict with
    | accept rest =>
      simp only [hVerdict] at h
      cases h
    | complete =>
      simp only [hVerdict] at h
      cases h
      refine ⟨_, .succeeded, rfl, ?_⟩
      simp only [course_ok, Prediction.course, hVerdict, Observer.notifyAll_append]
      exact ⟨trivial, rfl, rfl⟩
    | reject expected rest =>
      simp only [hVerdict] at h
      cases h
      refine ⟨_, .rejected token expected rest, rfl, ?_⟩
      simp only [course_ok, Prediction.course, hVerdict, Observer.notifyAll_append]
      exact ⟨trivial, rfl, rfl⟩

/-- A run over any source, if it ends, has asked for its answers one after the other and has ended
by the last. -/
theorem exists_last_of_finishWithin [TokenSource σ] {limit : Nat} {run : Run σ τ}
    {ended : Ended σ τ} (h : run.finishWithin limit = some ended) :
    ∃ front answer rest ending, Answers run.source (front ++ [answer]) ended.source ∧
      (course run.goals front).standing = .going rest ∧
      (course rest [answer]).standing = .ended ending ∧
      ended.result = ending.result
        (Observer.notifyAll (course run.goals (front ++ [answer])).events run.observer) ∧
      ended.observer = Observer.notifyAll
        ((course run.goals (front ++ [answer])).events ++ ending.report) run.observer := by
  induction limit generalizing run with
  | zero => cases h
  | succ limit ih =>
    rw [finishWithin] at h
    cases hStep : run.step with
    | ended last =>
      simp only [hStep] at h
      cases h
      obtain ⟨answer, ending, hNext, hEnd, hResult, hObserver⟩ := course_of_step_ended hStep
      exact ⟨[], answer, run.goals, ending, .of_next hNext (.nil _), rfl, hEnd, hResult, hObserver⟩
    | going next =>
      simp only [hStep] at h
      obtain ⟨token, hNext, hGoing, hHeard⟩ := course_of_step_going hStep
      obtain ⟨front, answer, rest, ending, hAnswers, hFront, hEnd, hResult, hObserver⟩ := ih h
      have hOnward (behind : List Answer) : course run.goals (.ok token :: behind) =
          (course next.goals behind).after (course run.goals [.ok token]).events := by
        rw [← course_append_of_going behind hGoing, List.singleton_append]
      refine ⟨.ok token :: front, answer, rest, ending, .of_next hNext hAnswers, ?_, hEnd, ?_⟩
      · rw [hOnward, Course.standing_after]
        exact hFront
      · rw [List.cons_append, hOnward, Course.events_after, List.append_assoc,
          Observer.notifyAll_append, Observer.notifyAll_append, ← hHeard]
        exact ⟨hResult, hObserver⟩

theorem exists_course_of_finishWithin [TokenSource σ] {limit : Nat} {run : Run σ τ}
    {ended : Ended σ τ} (h : run.finishWithin limit = some ended) :
    ∃ answers last ending, Answers run.source answers last ∧
      (course run.goals answers).standing = .ended ending ∧
      ended.result =
        ending.result (Observer.notifyAll (course run.goals answers).events run.observer) ∧
      ended.observer =
        Observer.notifyAll ((course run.goals answers).events ++ ending.report) run.observer := by
  obtain ⟨front, answer, rest, ending, hAnswers, hFront, hEnd, hResult, hObserver⟩ :=
    exists_last_of_finishWithin h
  refine ⟨front ++ [answer], ended.source, ending, hAnswers, ?_, hResult, hObserver⟩
  rw [course_append_of_going _ hFront]
  exact hEnd

end Run

namespace Token

/-- The tokens before the first end-of-input token. -/
def beforeEnd (tokens : List Token) : List Token :=
  tokens.takeWhile fun token => token.symbol ≠ .endOfInput

/-- The end-of-input token met behind a list: its own first one, or one on the line of its last
token, which is `line` if there is none. -/
def sentinel (line : Nat) : List Token → Token
  | [] => .endOfInput line
  | token :: tokens => if token.symbol = .endOfInput then token else sentinel token.line tokens

theorem symbol_sentinel (line : Nat) (tokens : List Token) :
    (sentinel line tokens).symbol = .endOfInput := by
  induction tokens generalizing line with
  | nil => rfl
  | cons token tokens ih =>
    rw [sentinel]
    split
    · assumption
    · exact ih token.line

theorem sentinel_eq_endOfInput (line : Nat) {tokens : List Token}
    (h : ∀ token ∈ tokens, token.symbol ≠ .endOfInput) :
    sentinel line tokens = .endOfInput (tokens.getLast?.elim line Token.line) := by
  induction tokens generalizing line with
  | nil => rfl
  | cons token tokens ih =>
    obtain ⟨hToken, hTokens⟩ := List.forall_mem_cons.mp h
    rw [sentinel, if_neg hToken, ih token.line hTokens, List.getLast?_cons]
    cases tokens.getLast? <;> rfl

theorem exists_beforeEnd_append_cons (line : Nat) {taken : List Token}
    (hTaken : ∀ token ∈ taken, token.symbol ≠ .endOfInput) (next : Token) (more : List Token) :
    ∃ rest, beforeEnd (taken ++ next :: more) ++ [sentinel line (taken ++ next :: more)] =
      taken ++ next :: rest := by
  induction taken generalizing line with
  | nil =>
    by_cases hEnd : next.symbol = .endOfInput
    · exact ⟨[], by simp [beforeEnd, sentinel, hEnd]⟩
    · exact ⟨beforeEnd more ++ [sentinel next.line more], by simp [beforeEnd, sentinel, hEnd]⟩
  | cons token taken ih =>
    obtain ⟨hToken, hTaken⟩ := List.forall_mem_cons.mp hTaken
    obtain ⟨rest, hRest⟩ := ih token.line hTaken
    refine ⟨rest, ?_⟩
    rw [List.cons_append, List.cons_append, ← hRest, sentinel, if_neg hToken]
    simp [beforeEnd, hToken]

theorem symbol_ne_of_mem_beforeEnd {tokens : List Token} :
    ∀ token ∈ beforeEnd tokens, token.symbol ≠ .endOfInput := by
  intro token hMem
  simpa using List.mem_takeWhile_imp hMem

theorem beforeEnd_eq_self {tokens : List Token} (h : ∀ token ∈ tokens, token.symbol ≠ .endOfInput) :
    beforeEnd tokens = tokens :=
  List.takeWhile_eq_self_iff.mpr fun token hMem => decide_eq_true (h token hMem)

end Token

theorem exists_ended_endOfInput (goals : List Goal) {last : Token}
    (hLast : last.symbol = .endOfInput) :
    ∃ ending, (course goals [.ok last]).standing = .ended ending := by
  rw [course_ok, Prediction.course]
  split
  · rename_i hVerdict
    exact absurd hLast (predict_accept_ne_endOfInput hVerdict)
  · exact ⟨_, rfl⟩
  · exact ⟨_, rfl⟩

theorem course_tokens_ended {goals : List Goal} {tokens : List Token} {ending : Ending}
    (hTokens : ∀ token ∈ tokens, token.symbol ≠ .endOfInput)
    (h : (course goals (tokens.map Except.ok)).standing = .ended ending) :
    ∃ taken token unread expected rest left, tokens = taken ++ token :: unread ∧
      ending = .rejected token expected rest ∧
      Event.terminals (course goals (tokens.map Except.ok)).events = taken ∧
      (course goals (taken.map Except.ok)).standing = .going left ∧
      (course goals ((taken ++ [token]).map Except.ok)).standing = .ended ending := by
  obtain ⟨taken, answer, back, left, hAnswers, hGoing, hWhole, -, hTaken, hEnds⟩ := course_ended h
  obtain ⟨front, behind, rfl, hFront, hBehind⟩ := List.map_eq_append_iff.mp hAnswers
  obtain rfl := (List.map_inj_right fun _ _ => Except.ok.inj).mp hFront
  obtain ⟨token, unread, rfl, rfl, -⟩ := List.map_eq_cons_iff.mp hBehind
  have hLast : (course goals ((front ++ [token]).map Except.ok)).standing = .ended ending := by
    rw [List.map_append, course_append_of_going _ hGoing]
    rwa [hWhole] at h
  cases hEnds with
  | succeeded hEnd => exact absurd hEnd (hTokens token (by simp))
  | rejected _ expected rest =>
    exact ⟨front, token, unread, expected, rest, left, rfl, rfl, hTaken, hGoing, hLast⟩

theorem course_list (goals : List Goal) {tokens : List Token} {last : Token}
    (hTokens : ∀ token ∈ tokens, token.symbol ≠ .endOfInput) (hLast : last.symbol = .endOfInput) :
    let whole := course goals ((tokens ++ [last]).map Except.ok)
    (whole.standing = .ended .succeeded ∧ Event.terminals whole.events = tokens) ∨
      ∃ token expected rest, whole.standing = .ended (.rejected token expected rest) := by
  intro whole
  have hSplit : whole = course goals (tokens.map Except.ok ++ [.ok last]) := by
    rw [← List.map_singleton, ← List.map_append]
  cases hStanding : (course goals (tokens.map Except.ok)).standing with
  | ended ending =>
    obtain ⟨-, token, -, expected, rest, -, -, rfl, -⟩ := course_tokens_ended hTokens hStanding
    rw [hSplit, course_append_of_ended _ hStanding]
    exact .inr ⟨token, expected, rest, hStanding⟩
  | going left =>
    rw [hSplit, course_append_of_going _ hStanding]
    obtain ⟨ending, hEnd⟩ := exists_ended_endOfInput left hLast
    obtain ⟨hNone, hEnds⟩ := course_last hEnd
    cases hEnds with
    | succeeded =>
      refine .inl ⟨hEnd, ?_⟩
      rw [Course.events_after, Event.terminals_append, hNone, List.append_nil]
      exact terminals_of_going hStanding
    | rejected _ expected rest => exact .inr ⟨last, expected, rest, hEnd⟩

namespace Padded

theorem next_of_token {π : Type} [TokenProducer π] {producer rest : π} {token : Token} (line : Nat)
    (h : TokenProducer.supply producer = (.ok (some token), rest))
    (hEnd : token.symbol ≠ .endOfInput) :
    TokenSource.next (⟨producer, line, false⟩ : Padded π) =
      (.ok token, ⟨rest, token.line, false⟩) := by
  change next _ = _
  simp [next, h, hEnd]

theorem answers_list (tokens : List Token) (line : Nat) :
    ∃ last, Answers (⟨tokens, line, false⟩ : Padded (List Token))
      ((Token.beforeEnd tokens ++ [Token.sentinel line tokens]).map Except.ok) last := by
  induction tokens generalizing line with
  | nil => exact ⟨_, .cons (.nil _)⟩
  | cons token tokens ih =>
    by_cases hEnd : token.symbol = .endOfInput
    · have hBefore : Token.beforeEnd (token :: tokens) = [] := by simp [Token.beforeEnd, hEnd]
      rw [hBefore, Token.sentinel, if_pos hEnd]
      exact ⟨_, .cons (.nil _)⟩
    · have hBefore : Token.beforeEnd (token :: tokens) = token :: Token.beforeEnd tokens := by
        simp [Token.beforeEnd, hEnd]
      rw [hBefore, Token.sentinel, if_neg hEnd]
      obtain ⟨last, hAnswers⟩ := ih token.line
      exact ⟨last, .of_next (next_of_token line rfl hEnd) hAnswers⟩

end Padded
end TallyCheck
