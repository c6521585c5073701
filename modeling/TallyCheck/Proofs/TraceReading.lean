import Mathlib.Data.List.DropRight
import TallyCheck.Proofs.CheckReports

/-! # Traces that are read back

The lines of a trace are not escaped, and the text of a token may hold quotes, blanks and words of
the trace itself.  Its events can be read back all the same: the name of a symbol ends with the
first blank, the number of a line begins behind the last, and all that stands between belongs to
the text.
-/
namespace TallyCheck
set_option autoImplicit false

theorem blank_not_mem_toString (number : Nat) : ' ' ∉ (toString number).toList := by
  intro hMem
  cases isDigit_of_mem_toString hMem

theorem ofDigitChars_toString (number : Nat) :
    Nat.ofDigitChars 10 (toString number).toList 0 = number := by
  rw [Nat.toString_eq_repr, Nat.toList_repr, Nat.ofDigitChars_ten_toDigits]

theorem rtakeWhile_append_blank {word : List Char} (h : ' ' ∉ word) (front : List Char) :
    (front ++ ' ' :: word).rtakeWhile (· ≠ ' ') = word := by
  have hReverse : ' ' ∉ word.reverse := by
    rwa [List.mem_reverse]
  rw [List.rtakeWhile, List.reverse_append, List.reverse_cons, List.append_assoc,
    List.singleton_append, takeWhile_append_mark hReverse, List.reverse_reverse]

theorem rdrop_drop_append (front text back : List Char) :
    ((front ++ (text ++ back)).drop front.length).rdrop back.length = text := by
  rw [List.drop_left, List.rdrop_append_length]

namespace Token

def beforeText : List Char := " '".toList

def behindText : List Char := "' on line ".toList

/-- What a line of a trace shows of a token. -/
def shown (token : Token) : String := token.render ++ " on line " ++ toString token.line

/-- The token that is so shown.  Where its symbol is no literal, no text is looked for. -/
def ofShown? (shown : List Char) : Option Token := do
  let name := shown.takeWhile (· ≠ ' ')
  let number := shown.rtakeWhile (· ≠ ' ')
  let text := (shown.drop (name ++ beforeText).length).rdrop (behindText ++ number).length
  let symbol ← Symbol.ofName? (String.ofList name)
  return .ofText symbol (String.ofList text) (Nat.ofDigitChars 10 number 0)

theorem ofText_of_literal {token : Token} {text : String}
    (h : token.symbol.isLiteral = true → text = token.text) :
    ofText token.symbol text token.line = token := by
  cases hLiteral : token.symbol.isLiteral with
  | true => rw [h hLiteral, ofText_self]
  | false =>
    rw [← ofText_self token]
    simp [ofText, hLiteral]

theorem toList_shown_of_literal {token : Token} (h : token.symbol.isLiteral = true) :
    token.shown.toList = (token.symbol.name.toList ++ beforeText) ++
      (token.text.toList ++ (behindText ++ (toString token.line).toList)) := by
  have hBehind : behindText = "'".toList ++ " on line ".toList := by decide
  rw [shown, render, if_pos h, hBehind, beforeText]
  simp only [String.toList_append, List.append_assoc]

theorem exists_toList_shown (token : Token) :
    (∃ rest, token.shown.toList = token.symbol.name.toList ++ ' ' :: rest) ∧
      ∃ front, token.shown.toList = front ++ ' ' :: (toString token.line).toList := by
  have hFront : token.shown.toList =
      (token.render ++ " on line").toList ++ ' ' :: (toString token.line).toList := by
    simp [shown]
  refine ⟨?_, _, hFront⟩
  cases hLiteral : token.symbol.isLiteral with
  | true =>
    rw [toList_shown_of_literal hLiteral, List.append_assoc]
    exact ⟨_, rfl⟩
  | false =>
    refine ⟨"on line".toList ++ ' ' :: (toString token.line).toList, ?_⟩
    rw [shown, render, if_neg (by simp [hLiteral])]
    simp

theorem ofShown?_shown (token : Token) : ofShown? token.shown.toList = some token := by
  obtain ⟨⟨rest, hRest⟩, front, hFront⟩ := token.exists_toList_shown
  have hName : token.shown.toList.takeWhile (· ≠ ' ') = token.symbol.name.toList := by
    rw [hRest, Symbol.takeWhile_name_append]
  have hNumber : token.shown.toList.rtakeWhile (· ≠ ' ') = (toString token.line).toList := by
    rw [hFront, rtakeWhile_append_blank (blank_not_mem_toString token.line)]
  rw [ofShown?, hName, hNumber, String.ofList_toList, Symbol.ofName?_name, ofDigitChars_toString]
  apply congrArg some
  apply ofText_of_literal
  intro hLiteral
  rw [toList_shown_of_literal hLiteral, rdrop_drop_append, String.ofList_toList]

end Token

namespace Event

/-- The event of which a line tells, known by its first word. -/
def ofLine? (line : String) : Option Event :=
  ((behind? "BEGIN " line).bind Nonterminal.ofName?).map commence <|>
    ((behind? "END " line).bind Nonterminal.ofName?).map finish <|>
      ((behind? "TOKEN " line).bind fun shown => Token.ofShown? shown.toList).map terminal <|>
        if line = success.render then some success else none

theorem ofLine?_render {event : Event} (h : event.isTraced = true) :
    ofLine? event.render = some event := by
  cases event with
  | commence category =>
    have hBehind : behind? "BEGIN " (commence category).render = some category.name :=
      behind?_append "BEGIN " category.name
    simp [ofLine?, hBehind]
  | finish category =>
    have hBegin : behind? "BEGIN " (finish category).render = none := by
      simp [behind?, render, List.isPrefixOf?]
    have hBehind : behind? "END " (finish category).render = some category.name :=
      behind?_append "END " category.name
    simp [ofLine?, hBegin, hBehind]
  | terminal token =>
    have hRender : (terminal token).render = "TOKEN " ++ token.shown := by
      simp only [render, Token.shown, String.append_assoc]
    have hBehind : behind? "TOKEN " (terminal token).render = some token.shown := by
      rw [hRender, behind?_append]
    obtain ⟨hBegin, hEnd⟩ := behind?_render_terminal token
    simp [ofLine?, hBegin, hEnd, hBehind, Token.ofShown?_shown]
  | success =>
    obtain ⟨hBegin, hEnd⟩ := behind?_render_success
    have hToken : behind? "TOKEN " success.render = none := by
      simp [behind?, render, List.isPrefixOf?]
    simp [ofLine?, hBegin, hEnd, hToken]
  | error token message => cases h

example : ofLine? "TOKEN stringConstant '\"' on line 5\"' on line 7" =
    some (.terminal (.ofText .stringConstant "\"' on line 5\"" 7)) := by
  decide +kernel

def ofTrace (text : String) : List Event := (textLines text).filterMap ofLine?

theorem textLines_trace {events : List Event}
    (h : ∀ token ∈ terminals events, lineFeeds token.text = 0) :
    textLines (unlines (trace events)) = trace events :=
  textLines_unlines (lineFeeds_of_mem_trace h)

theorem ofTrace_unlines {events : List Event}
    (h : ∀ token ∈ terminals events, lineFeeds token.text = 0) :
    ofTrace (unlines (trace events)) = events.filter isTraced := by
  have hLines : ∀ event ∈ events.filter isTraced, ofLine? event.render = some event := by
    intro event hMem
    exact ofLine?_render (List.mem_filter.mp hMem).2
  rw [ofTrace, textLines_trace h, trace, List.filterMap_map]
  exact (List.filterMap_congr hLines).trans List.filterMap_some

/-- Events that all have a line in a trace, of tokens whose text is within a line. -/
structure Legible (events : List Event) : Prop where
  traced : ∀ event ∈ events, event.isTraced = true
  lineFeeds_eq : ∀ token ∈ terminals events, lineFeeds token.text = 0

theorem Legible.ofTrace_unlines_map {events : List Event} (h : Legible events) :
    ofTrace (unlines (events.map render)) = events := by
  have hFilter : events.filter isTraced = events := List.filter_eq_self.mpr h.traced
  have hRead := ofTrace_unlines h.lineFeeds_eq
  rwa [trace, hFilter] at hRead

end Event

/-- The trace written while a text is analysed. -/
def writtenTrace (source : String) : String :=
  (analyseText source (TraceWriter.ofOutlet Outlet.unlimited)).2.outlet.text

theorem writtenTrace_eq (source : String) :
    writtenTrace source = unlines (Event.trace (recordText source).2) := by
  rw [writtenTrace, analyseText_writer]
  exact Outlet.text_toUTF8 _

theorem ofTrace_writtenTrace (source : String) :
    Event.ofTrace (writtenTrace source) = (recordText source).2.filter Event.isTraced := by
  rw [writtenTrace_eq, Event.ofTrace_unlines (lineFeeds_of_mem_terminals_recordText source)]

/-- Nothing is lost in a trace.  Events with the same lines are the same; and since no token that is
scanned holds a line feed, texts that leave the same trace have the same traced events, each of
which has one line there. -/
theorem trace_loses_nothing :
    (∀ left right : List Event, Event.Legible left → Event.Legible right →
      unlines (left.map Event.render) = unlines (right.map Event.render) → left = right) ∧
    (∀ (source : String) (index : Nat) (token : Token),
      (Scanner.ofString source).answer index = .ok token → lineFeeds token.text = 0) ∧
    (∀ left right : String, writtenTrace left = writtenTrace right →
      (recordText left).2.filter Event.isTraced = (recordText right).2.filter Event.isTraced) ∧
    ∀ source : String, textLines (writtenTrace source) =
      ((recordText source).2.filter Event.isTraced).map Event.render := by
  refine ⟨?_, fun _ _ _ => Scanner.lineFeeds_of_next, ?_, ?_⟩
  · intro left right hLeft hRight hSame
    rw [← hLeft.ofTrace_unlines_map, hSame, hRight.ofTrace_unlines_map]
  · intro left right hSame
    rw [← ofTrace_writtenTrace, hSame, ofTrace_writtenTrace]
  · intro source
    rw [writtenTrace_eq]
    exact Event.textLines_trace (lineFeeds_of_mem_terminals_recordText source)

def roomyAssignment : String := "begin x := 1 end"

def crampedAssignment : String := "begin x:=1 end // done"

/-- A token that is built in two ways, and a program that is written in two. -/
theorem roomyAssignment_crampedAssignment_loses_nothing :
    [Event.terminal (.fixed .identifier 4)] =
        [Event.terminal (.ofText .identifier "identifier" 4)] ∧
      lineFeeds (Token.ofText .identifier "x" 0).text = 0 ∧
      writtenTrace roomyAssignment = writtenTrace crampedAssignment ∧
      (recordText roomyAssignment).2.filter Event.isTraced =
        (recordText crampedAssignment).2.filter Event.isTraced := by
  have hTrace : Event.trace (recordText roomyAssignment).2 =
      Event.trace (recordText crampedAssignment).2 := by
    decide +kernel
  have hWritten : writtenTrace roomyAssignment = writtenTrace crampedAssignment := by
    rw [writtenTrace_eq, writtenTrace_eq, hTrace]
  refine ⟨?_, ?_, hWritten, trace_loses_nothing.2.2.1 _ _ hWritten⟩
  · apply trace_loses_nothing.1
    · constructor
      · simp [Event.isTraced]
      · decide +kernel
    · constructor
      · simp [Event.isTraced]
      · decide +kernel
    · decide +kernel
  · apply trace_loses_nothing.2.1 roomyAssignment 1
    decide +kernel

end TallyCheck
