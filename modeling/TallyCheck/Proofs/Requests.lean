import Mathlib.Data.List.ReduceOption
import TallyCheck.Proofs.Tiling

/-! # Requests of all kinds

A scanner can be asked for its next token, for the next element of its stream, and as a producer,
and all of this in any order.  Each request reads on where the one before it stopped.  Those that
heed the end of the stream go unanswered once one of them has met it; the others neither know of it
nor bring it about.
-/
namespace TallyCheck
set_option autoImplicit false

inductive Request where
  | token
  | element
  | supply
  deriving DecidableEq

/-- An answer, or none where the stream is over. -/
abbrev Reply := Option Answer

def Reply.ofSupply : Except ScanError (Option Token) → Reply
  | .ok none => none
  | .ok (some token) => some (.ok token)
  | .error error => some (.error error)

namespace Scanner

def ask (scanner : Scanner) : Request → Reply × Scanner
  | .token => (some scanner.next.1, scanner.next.2)
  | .element => scanner.pull
  | .supply => (Reply.ofSupply scanner.supply.1, scanner.supply.2)

/-- The replies to requests that are made one after the other. -/
def replies (scanner : Scanner) : List Request → List Reply
  | [] => []
  | request :: requests =>
    (scanner.ask request).1 :: (scanner.ask request).2.replies requests

/-- What the scanner has become by then. -/
def asked (scanner : Scanner) (requests : List Request) : Scanner :=
  requests.foldl (fun current request => (current.ask request).2) scanner

def withFlag (flag : Bool) (scanner : Scanner) : Scanner := { scanner with finished := flag }

end Scanner

/-- A reply after which requests that heed the end of the stream go unanswered. -/
def Request.Closes (request : Request) (reply : Reply) : Prop :=
  request ≠ .token ∧ ∃ answer, reply = some answer ∧ Scanner.endsStream answer = true

namespace Scanner

variable {scanner : Scanner} {request : Request}

theorem next_withFlag (flag : Bool) (scanner : Scanner) :
    (scanner.withFlag flag).next = (scanner.next.1, scanner.next.2.withFlag flag) := by
  unfold next withFlag
  dsimp only
  split <;> rfl

theorem answer_withFlag (flag : Bool) (scanner : Scanner) (index : Nat) :
    (scanner.withFlag flag).answer index = scanner.answer index := by
  induction index generalizing scanner with
  | zero =>
    have hFirst := congrArg Prod.fst (scanner.next_withFlag flag)
    exact hFirst
  | succ index ih => rw [answer_succ, answer_succ, next_withFlag, ih]

theorem ask_supply (scanner : Scanner) : scanner.ask .supply = scanner.pull := by
  rw [ask, supply]
  rcases scanner.pull with ⟨_ | _ | _, next⟩ <;> rfl

theorem ask_eq_pull (h : request ≠ .token) (scanner : Scanner) :
    scanner.ask request = scanner.pull := by
  cases request with
  | token => exact absurd rfl h
  | element => rfl
  | supply => exact scanner.ask_supply

theorem ask_of_finished (hRequest : request ≠ .token) (h : scanner.finished = true) :
    scanner.ask request = (none, scanner) := by
  rw [ask_eq_pull hRequest, pull_of_finished h]

theorem ask_of_answered (h : request = .token ∨ scanner.finished = false) :
    ∃ flag, scanner.ask request = (some scanner.next.1, scanner.next.2.withFlag flag) ∧
      (flag = true ↔ scanner.finished = true ∨ request.Closes (some scanner.next.1)) := by
  by_cases hRequest : request = .token
  · subst hRequest
    refine ⟨scanner.finished, ?_, by simp [Request.Closes]⟩
    rw [ask, withFlag, ← scanner.finished_next]
  · have hOpen : scanner.finished = false := h.resolve_left hRequest
    have hNext : scanner.next.2.withFlag false = scanner.next.2 := by
      rw [withFlag, ← hOpen, ← scanner.finished_next]
    refine ⟨endsStream scanner.next.1, ?_, by simp [Request.Closes, hRequest, hOpen]⟩
    rw [ask_eq_pull hRequest, pull_of_unfinished hOpen]
    cases endsStream scanner.next.1 with
    | true => simp [withFlag]
    | false => simp [hNext]

theorem ask_eq_none_iff (scanner : Scanner) (request : Request) :
    (scanner.ask request).1 = none ↔ request ≠ .token ∧ scanner.finished = true := by
  constructor
  · intro hNone
    by_contra hAnswered
    rw [not_and_or, not_not, Bool.not_eq_true] at hAnswered
    obtain ⟨flag, hAsk, -⟩ := ask_of_answered hAnswered
    rw [hAsk] at hNone
    cases hNone
  · rintro ⟨hRequest, hFinished⟩
    rw [ask_of_finished hRequest hFinished]

theorem ask_of_none (h : (scanner.ask request).1 = none) : (scanner.ask request).2 = scanner := by
  obtain ⟨hRequest, hFinished⟩ := (scanner.ask_eq_none_iff request).mp h
  rw [ask_of_finished hRequest hFinished]

theorem ask_of_some {answer : Answer} (h : (scanner.ask request).1 = some answer) :
    ∃ flag, answer = scanner.next.1 ∧ (scanner.ask request).2 = scanner.next.2.withFlag flag := by
  have hAnswered : request = .token ∨ scanner.finished = false := by
    have hSome : ¬ (request ≠ .token ∧ scanner.finished = true) := by
      rw [← ask_eq_none_iff, h]
      exact Option.some_ne_none answer
    rwa [not_and_or, not_not, Bool.not_eq_true] at hSome
  obtain ⟨flag, hAsk, -⟩ := ask_of_answered hAnswered
  rw [hAsk] at h ⊢
  exact ⟨flag, (Option.some.inj h).symm, rfl⟩

theorem finished_ask (scanner : Scanner) (request : Request) :
    (scanner.ask request).2.finished = true ↔
      scanner.finished = true ∨ request.Closes (scanner.ask request).1 := by
  by_cases hNone : (scanner.ask request).1 = none
  · have hFinished := ((scanner.ask_eq_none_iff request).mp hNone).2
    simp [ask_of_none hNone, hFinished]
  · rw [ask_eq_none_iff, not_and_or, not_not, Bool.not_eq_true] at hNone
    obtain ⟨flag, hAsk, hFlag⟩ := ask_of_answered hNone
    rw [hAsk]
    exact hFlag

theorem length_replies (scanner : Scanner) (requests : List Request) :
    (scanner.replies requests).length = requests.length := by
  induction requests generalizing scanner with
  | nil => rfl
  | cons request requests ih => rw [replies, List.length_cons, ih, List.length_cons]

theorem answer_of_reduceOption {requests : List Request} {index : Nat} {answer : Answer}
    (h : (scanner.replies requests).reduceOption[index]? = some answer) :
    scanner.answer index = answer := by
  induction requests generalizing scanner index with
  | nil => cases h
  | cons request requests ih =>
    rw [replies] at h
    cases hReply : (scanner.ask request).1 with
    | none =>
      rw [hReply, List.reduceOption_cons_of_none, ask_of_none hReply] at h
      exact ih h
    | some given =>
      obtain ⟨flag, rfl, hNext⟩ := ask_of_some hReply
      rw [hReply, List.reduceOption_cons_of_some, hNext] at h
      cases index with
      | zero => exact Option.some.inj h
      | succ index =>
        have hAnswer := ih h
        rwa [answer_withFlag, ← answer_succ] at hAnswer

theorem reply_eq_none_iff {requests : List Request} {index : Nat}
    (h : requests[index]? = some request) :
    (scanner.replies requests)[index]? = some none ↔
      request ≠ .token ∧ (scanner.finished = true ∨ ∃ earlier < index, ∃ other reply,
        requests[earlier]? = some other ∧ (scanner.replies requests)[earlier]? = some reply ∧
          other.Closes reply) := by
  induction requests generalizing scanner index with
  | nil => cases h
  | cons first requests ih =>
    rw [replies]
    cases index with
    | zero =>
      obtain rfl : first = request := Option.some.inj h
      simp [ask_eq_none_iff]
    | succ index =>
      rw [List.getElem?_cons_succ, ih h, finished_ask, Nat.exists_lt_succ_left]
      simp [or_assoc]

theorem asked_take_of_none {requests : List Request} {index : Nat}
    (h : (scanner.replies requests)[index]? = some none) :
    scanner.asked (requests.take (index + 1)) = scanner.asked (requests.take index) := by
  induction requests generalizing scanner index with
  | nil => cases h
  | cons request requests ih =>
    rw [replies] at h
    cases index with
    | zero => exact ask_of_none (Option.some.inj h)
    | succ index =>
      rw [List.getElem?_cons_succ] at h
      exact ih h

theorem reply_of_rest_eq_nil {requests : List Request} {index : Nat} {answer : Answer}
    (hRest : scanner.rest = [])
    (h : (scanner.replies requests)[index]? = some (some answer)) :
    answer = .ok (.endOfInput scanner.line) := by
  induction requests generalizing scanner index with
  | nil => cases h
  | cons request requests ih =>
    have hNext := next_of_rest_eq_nil hRest
    have hKept : (scanner.ask request).2.rest = [] ∧
        (scanner.ask request).2.line = scanner.line := by
      cases hReply : (scanner.ask request).1 with
      | none => simp [ask_of_none hReply, hRest]
      | some given =>
        obtain ⟨flag, -, hBehind⟩ := ask_of_some hReply
        simp [hBehind, hNext, withFlag, hRest]
    rw [replies] at h
    cases index with
    | zero =>
      obtain ⟨flag, hAnswer, -⟩ := ask_of_some (Option.some.inj h)
      rw [hAnswer, hNext]
    | succ index =>
      have hLater := ih hKept.1 h
      rwa [hKept.2] at hLater

theorem reply_of_end {requests : List Request} {index later : Nat} {token : Token}
    {answer : Answer} (h : (scanner.replies requests)[index]? = some (some (.ok token)))
    (hEnd : token.symbol = .endOfInput) (hOrder : index ≤ later)
    (hLater : (scanner.replies requests)[later]? = some (some answer)) : answer = .ok token := by
  induction requests generalizing scanner index later with
  | nil => cases h
  | cons request requests ih =>
    rw [replies] at h hLater
    cases index with
    | succ index =>
      obtain ⟨later, rfl⟩ : ∃ before, later = before + 1 := ⟨later - 1, by omega⟩
      exact ih h (by omega) hLater
    | zero =>
      have hReply : (scanner.ask request).1 = some (.ok token) := Option.some.inj h
      obtain ⟨flag, hToken, hBehind⟩ := ask_of_some hReply
      obtain ⟨hLine, hRest⟩ := next_of_end hToken.symm hEnd
      cases later with
      | zero => exact Option.some.inj ((Option.some.inj hLater).symm.trans hReply)
      | succ later =>
        have hBehindRest : (scanner.ask request).2.rest = [] := by rwa [hBehind]
        rw [List.getElem?_cons_succ] at hLater
        rw [reply_of_rest_eq_nil hBehindRest hLater, hBehind, hLine]
        rfl

/-- How requests of all kinds, made one after the other to the scanner of a source, are answered.
The scanner asked for tokens alone is the measure. -/
structure Serves (source : String) (requests : List Request) : Prop where
  length_eq : ((ofString source).replies requests).length = requests.length
  answer_eq : ∀ (index : Nat) (answer : Answer),
    ((ofString source).replies requests).reduceOption[index]? = some answer →
      answer = (ofString source).answer index
  none_iff : ∀ (index : Nat) (request : Request), requests[index]? = some request →
    (((ofString source).replies requests)[index]? = some none ↔
      request ≠ .token ∧ ∃ earlier < index, ∃ other reply, requests[earlier]? = some other ∧
        ((ofString source).replies requests)[earlier]? = some reply ∧ other.Closes reply)
  unchanged : ∀ index : Nat, ((ofString source).replies requests)[index]? = some none →
    (ofString source).asked (requests.take (index + 1)) =
      (ofString source).asked (requests.take index)
  /-- Asked for a token, the scanner neither looks at its flag nor sets it. -/
  heedless : ∀ flag : Bool, (((ofString source).asked requests).withFlag flag).ask .token =
    ((((ofString source).asked requests).ask .token).1,
      (((ofString source).asked requests).ask .token).2.withFlag flag)
  last : ∀ (index later : Nat) (token : Token) (answer : Answer),
    ((ofString source).replies requests)[index]? = some (some (.ok token)) →
    token.symbol = .endOfInput → index ≤ later →
    ((ofString source).replies requests)[later]? = some (some answer) → answer = .ok token

theorem serves_requests (source : String) (requests : List Request) :
    Serves source requests where
  length_eq := length_replies _ _
  answer_eq _ _ hAnswer := (answer_of_reduceOption hAnswer).symm
  none_iff index request hRequest := by
    rw [reply_eq_none_iff hRequest]
    simp [ofString]
  unchanged _ hNone := asked_take_of_none hNone
  heedless flag := by
    rw [ask, next_withFlag]
    rfl
  last _ _ _ _ hToken hEnd hOrder hLater := reply_of_end hToken hEnd hOrder hLater

example : (ofString ":\nx").replies
    [.token, .token, .element, .token, .supply, .element, .token] =
    [some (.error ⟨.incompleteOperator .becomes (some '\n'), 0⟩),
      some (.ok (.ofText .identifier "x" 1)), some (.ok (.endOfInput 1)),
      some (.ok (.endOfInput 1)), none, none, some (.ok (.endOfInput 1))] := by
  decide +kernel

end Scanner
end TallyCheck
