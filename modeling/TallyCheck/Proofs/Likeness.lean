import Mathlib.Data.List.Forall2
import TallyCheck.Proofs.Context
import TallyCheck.Proofs.TraceLines

/-! # Tokens of the same symbols

The texts and the lines of tokens decide nothing.  Over two lists with the same symbols the
analyses go side by side: they keep the same goals, and what they report and return differs at most
in the texts and lines of the tokens that are shown.
-/
namespace TallyCheck
set_option autoImplicit false

/-- Tokens that differ at most in their texts and lines. -/
def Token.Like (token other : Token) : Prop := token.symbol = other.symbol

theorem Token.forall₂_like_iff {tokens others : List Token} :
    List.Forall₂ Token.Like tokens others ↔ tokens.map Token.symbol = others.map Token.symbol := by
  rw [← List.forall₂_eq_eq_eq, List.forall₂_map_left_iff, List.forall₂_map_right_iff]
  rfl

/-- Events that differ at most in the texts and lines of the tokens they carry. -/
inductive Event.Like : Event → Event → Prop where
  | terminal {token other : Token} (like : token.Like other) :
      Like (.terminal token) (.terminal other)
  | commence (production : Nonterminal) : Like (.commence production) (.commence production)
  | finish (production : Nonterminal) : Like (.finish production) (.finish production)
  | success : Like .success .success
  | error {token other : Token} (message : String) (like : token.Like other) :
      Like (.error token message) (.error other message)

namespace Event

theorem Like.refl (event : Event) : Like event event := by
  cases event with
  | terminal token => exact .terminal rfl
  | commence production => exact .commence production
  | finish production => exact .finish production
  | success => exact .success
  | error token message => exact .error message rfl

instance : Std.Refl Like := ⟨Like.refl⟩

theorem length_terminals_of_like {events others : List Event}
    (h : List.Forall₂ Like events others) :
    (terminals events).length = (terminals others).length := by
  induction h with
  | nil => rfl
  | cons hEvent _ ih =>
    cases hEvent with
    | terminal like => exact congrArg (· + 1) ih
    | commence | finish | success | error => exact ih

end Event

inductive Ending.Like : Ending → Ending → Prop where
  | succeeded : Like .succeeded .succeeded
  | rejected {token other : Token} (like : token.Like other) (expected : Expectation)
      (rest : List Goal) : Like (.rejected token expected rest) (.rejected other expected rest)

inductive Standing.Like : Standing → Standing → Prop where
  | going (goals : List Goal) : Like (.going goals) (.going goals)
  | ended {ending other : Ending} (like : ending.Like other) : Like (.ended ending) (.ended other)

structure Course.Like (course other : Course) : Prop where
  events : List.Forall₂ Event.Like course.events other.events
  standing : course.standing.Like other.standing

theorem Course.Like.after {front back : List Event} {course other : Course}
    (hFront : List.Forall₂ Event.Like front back) (h : course.Like other) :
    (course.after front).Like (other.after back) where
  events := List.rel_append hFront h.events
  standing := h.standing

theorem Prediction.course_like {token other : Token} (h : token.Like other)
    {onward others : List Goal → Course} (hOnward : ∀ rest, (onward rest).Like (others rest))
    (prediction : Prediction) :
    (prediction.course token onward).Like (prediction.course other others) := by
  obtain ⟨events, verdict⟩ := prediction
  have hEvents : List.Forall₂ Event.Like events events := List.forall₂_refl events
  cases verdict with
  | accept rest =>
    have hTaken : List.Forall₂ Event.Like [.terminal token] [.terminal other] :=
      .cons (.terminal h) .nil
    exact (hOnward rest).after (List.rel_append hEvents hTaken)
  | complete => exact ⟨hEvents, .ended .succeeded⟩
  | reject expected rest => exact ⟨hEvents, .ended (.rejected h expected rest)⟩

theorem course_like {tokens others : List Token} (h : List.Forall₂ Token.Like tokens others)
    (goals : List Goal) :
    (course goals (tokens.map Except.ok)).Like (course goals (others.map Except.ok)) := by
  induction h generalizing goals with
  | nil => exact ⟨.nil, .going goals⟩
  | @cons token other tokens others hToken _ ih =>
    have hSymbol : token.symbol = other.symbol := hToken
    rw [List.map_cons, List.map_cons, course_ok, course_ok, hSymbol]
    exact Prediction.course_like hToken ih _

theorem Token.like_beforeEnd_sentinel {tokens others : List Token}
    (h : List.Forall₂ Like tokens others) (line other : Nat) :
    List.Forall₂ Like (beforeEnd tokens ++ [sentinel line tokens])
      (beforeEnd others ++ [sentinel other others]) := by
  induction h generalizing line other with
  | nil => exact .cons rfl .nil
  | @cons first second tokens others hFirst _ ih =>
    have hSymbol : first.symbol = second.symbol := hFirst
    by_cases hEnd : second.symbol = .endOfInput
    · have hLike : List.Forall₂ Like [first] [second] := .cons hFirst .nil
      simpa [beforeEnd, sentinel, hSymbol, hEnd] using hLike
    · have hLike := List.Forall₂.cons hFirst (ih first.line second.line)
      simpa [beforeEnd, sentinel, hSymbol, hEnd] using hLike

theorem listCourse_like {tokens others : List Token} (h : List.Forall₂ Token.Like tokens others) :
    (listCourse tokens).Like (listCourse others) :=
  course_like (Token.like_beforeEnd_sentinel h 0 0) startGoals

/-- Records of analyses that came to the same verdict by like events. -/
structure Record.Like (record other : Record) : Prop where
  events : List.Forall₂ Event.Like record.2 other.2
  length_terminals : (Event.terminals record.2).length = (Event.terminals other.2).length
  verdict : (record.1 = .ok () ∧ other.1 = .ok ()) ∨
    ∃ error failure message, record.1 = .error error ∧ other.1 = .error failure ∧
      error.productions = failure.productions ∧
      error.message? = some message ∧ failure.message? = some message

theorem Ending.Like.record {ending other : Ending} (h : ending.Like other)
    {events others : List Event} (hEvents : List.Forall₂ Event.Like events others) :
    (ending.record events).Like (other.record others) := by
  cases h with
  | succeeded =>
    have hAll := List.rel_append hEvents (.cons .success .nil)
    exact ⟨hAll, Event.length_terminals_of_like hAll, .inl ⟨rfl, rfl⟩⟩
  | @rejected token second hToken expected rest =>
    have hSymbol : token.symbol = second.symbol := hToken
    have hReport : List.Forall₂ Event.Like (Ending.rejected token expected rest).report
        (Ending.rejected second expected rest).report := by
      rw [report, report, hSymbol]
      exact .cons (.error _ hToken) .nil
    have hAll := List.rel_append hEvents hReport
    refine ⟨hAll, Event.length_terminals_of_like hAll,
      .inr ⟨_, _, expected.message second.symbol, rfl, rfl, ?_, ?_, ?_⟩⟩
    · exact (ParseError.productions_withinAll_unexpectedToken _ _ _).trans
        (ParseError.productions_withinAll_unexpectedToken _ _ _).symm
    · rw [← hSymbol]
      exact ParseError.message?_withinAll _ _
    · exact ParseError.message?_withinAll _ _

theorem recordList_like {tokens others : List Token} (h : List.Forall₂ Token.Like tokens others) :
    (recordList tokens).Like (recordList others) := by
  obtain ⟨hEvents, hStanding⟩ := listCourse_like h
  obtain ⟨ending, hEnd⟩ := exists_ended_listCourse tokens
  rw [hEnd] at hStanding
  generalize hOther : (listCourse others).standing = standing at hStanding
  cases hStanding with
  | ended hLike =>
    rw [recordList_eq rfl hEnd, recordList_eq rfl hOther]
    exact hLike.record hEvents

theorem recordText_eq_recordList {source : String} {tokens : List Token}
    (h : tokenize source = .ok tokens) : recordText source = recordList tokens := by
  obtain ⟨ending, hEnd, hRecord⟩ := exists_record_stream source
  rw [hRecord, recordList_eq (listCourse_of_tokenize h) hEnd]

/-- Tokens of the same symbols have like records: the same events but for the tokens shown in them,
and results that differ in these tokens alone. -/
theorem records_like_of_symbols {tokens others : List Token}
    (h : tokens.map Token.symbol = others.map Token.symbol) :
    (recordList tokens).Like (recordList others) ∧
      ∀ source text, tokenize source = .ok tokens → tokenize text = .ok others →
        (recordText source).Like (recordText text) := by
  have hLists := recordList_like (Token.forall₂_like_iff.mpr h)
  refine ⟨hLists, ?_⟩
  intro source text hSource hText
  rwa [recordText_eq_recordList hSource, recordText_eq_recordList hText]

def crampedCall : String := "begin if a=1 then call p(b;c) end if end"

def roomyCall : String :=
  "begin // on\n\tif total = 2.50 then\n\n  call print ( total ;\r\n limit ) // off\n end if\nend\n"

def crampedTokens : List Token :=
  [.fixed .beginWord 0, .fixed .ifWord 0, .ofText .identifier "a" 0, .fixed .equal 0,
    .ofText .numberConstant "1" 0, .fixed .thenWord 0, .fixed .callWord 0,
    .ofText .identifier "p" 0, .fixed .leftParen 0, .ofText .identifier "b" 0,
    .fixed .semicolon 0, .ofText .identifier "c" 0, .fixed .rightParen 0, .fixed .endWord 0,
    .fixed .ifWord 0, .fixed .endWord 0, .endOfInput 0]

def roomyTokens : List Token :=
  [.fixed .beginWord 0, .fixed .ifWord 1, .ofText .identifier "total" 1, .fixed .equal 1,
    .ofText .numberConstant "2.50" 1, .fixed .thenWord 1, .fixed .callWord 3,
    .ofText .identifier "print" 3, .fixed .leftParen 3, .ofText .identifier "total" 3,
    .fixed .semicolon 3, .ofText .identifier "limit" 4, .fixed .rightParen 4, .fixed .endWord 5,
    .fixed .ifWord 5, .fixed .endWord 6, .endOfInput 7]

theorem crampedCall_roomyCall_records_like :
    tokenize crampedCall = .ok crampedTokens ∧ tokenize roomyCall = .ok roomyTokens ∧
    crampedTokens.map Token.symbol = roomyTokens.map Token.symbol ∧
    (recordList crampedTokens).Like (recordList roomyTokens) ∧
    (recordText crampedCall).Like (recordText roomyCall) := by
  have hCramped : tokenize crampedCall = .ok crampedTokens := by decide +kernel
  have hRoomy : tokenize roomyCall = .ok roomyTokens := by decide +kernel
  have hSymbols : crampedTokens.map Token.symbol = roomyTokens.map Token.symbol := by decide
  obtain ⟨hLists, hTexts⟩ := records_like_of_symbols hSymbols
  exact ⟨hCramped, hRoomy, hSymbols, hLists, hTexts _ _ hCramped hRoomy⟩

end TallyCheck
