import TallyCheck.Proofs.DiagnosticLines
import TallyCheck.Proofs.TokenFeeds

/-! # The lines of a trace

Written out one after the other, lines that hold no line feed can be told apart again.  The lines
of a trace hold none, whatever stands in the source, and a line that reads like a success is one:
it is there when the analysis succeeds, once and behind all the others.
-/
namespace TallyCheck
set_option autoImplicit false

/-- What stands before each line feed, and what stands behind the last one if anything does. -/
def splitLines : List Char → List (List Char)
  | [] => []
  | c :: cs =>
    if c = '\n' then [] :: splitLines cs
    else
      match splitLines cs with
      | [] => [[c]]
      | line :: lines => (c :: line) :: lines

def textLines (text : String) : List String := (splitLines text.toList).map String.ofList

theorem splitLines_append {line : List Char} (h : '\n' ∉ line) (rest : List Char) :
    splitLines (line ++ '\n' :: rest) = line :: splitLines rest := by
  induction line with
  | nil => rw [List.nil_append, splitLines, if_pos rfl]
  | cons c cs ih =>
    have hFeed : c ≠ '\n' := Ne.symm (List.ne_of_not_mem_cons h)
    rw [List.cons_append, splitLines, if_neg hFeed, ih (List.not_mem_of_not_mem_cons h)]

theorem textLines_unlines {lines : List String} (h : ∀ line ∈ lines, lineFeeds line = 0) :
    textLines (unlines lines) = lines := by
  induction lines with
  | nil => rfl
  | cons line lines ih =>
    obtain ⟨hLine, hLines⟩ := List.forall_mem_cons.mp h
    have hText : (unlines (line :: lines)).toList =
        line.toList ++ '\n' :: (unlines lines).toList := by
      simp
    have hRest : (splitLines (unlines lines).toList).map String.ofList = lines := ih hLines
    rw [textLines, hText, splitLines_append (List.count_eq_zero.mp hLine), List.map_cons, hRest,
      String.ofList_toList]

theorem Nonterminal.lineFeeds_name (category : Nonterminal) : lineFeeds category.name = 0 := by
  cases category <;> decide

theorem Token.lineFeeds_render {token : Token} (h : lineFeeds token.text = 0) :
    lineFeeds token.render = 0 := by
  have hWords : lineFeeds " '" = 0 ∧ lineFeeds "'" = 0 := by decide
  unfold render
  split
  · simp only [lineFeeds_append, Symbol.lineFeeds_name, h, hWords]
  · exact token.symbol.lineFeeds_name

namespace Event

theorem lineFeeds_of_mem_trace {events : List Event}
    (h : ∀ token ∈ terminals events, lineFeeds token.text = 0) :
    ∀ line ∈ trace events, lineFeeds line = 0 := by
  intro line hMem
  obtain ⟨event, hEvent, rfl⟩ := List.mem_map.mp hMem
  obtain ⟨hEvent, hTraced⟩ := List.mem_filter.mp hEvent
  have hWords : lineFeeds "TOKEN " = 0 ∧ lineFeeds " on line " = 0 ∧ lineFeeds "BEGIN " = 0 ∧
      lineFeeds "END " = 0 := by
    decide +kernel
  cases event with
  | terminal token =>
    have hToken := Token.lineFeeds_render (h token (List.mem_filterMap.mpr ⟨_, hEvent, rfl⟩))
    simp only [render, lineFeeds_append, lineFeeds_toString, hToken, hWords]
  | commence production | finish production =>
    simp only [render, lineFeeds_append, Nonterminal.lineFeeds_name, hWords]
  | success => decide +kernel
  | error token message => cases hTraced

theorem eq_success_of_render {event : Event} (hTraced : event.isTraced = true)
    (h : event.render = success.render) : event = success := by
  have hHead := congrArg (fun line : String => line.toList.head?) h
  cases event with
  | terminal token | commence production | finish production =>
    simp [render] at hHead
  | success => rfl
  | error token message => cases hTraced

theorem render_success_mem_trace_iff (events : List Event) :
    success.render ∈ trace events ↔ success ∈ events := by
  constructor
  · intro hMem
    obtain ⟨event, hEvent, hLine⟩ := List.mem_map.mp hMem
    obtain ⟨hEvent, hTraced⟩ := List.mem_filter.mp hEvent
    rwa [← eq_success_of_render hTraced hLine]
  · intro hMem
    exact List.mem_map.mpr ⟨success, List.mem_filter.mpr ⟨hMem, rfl⟩, rfl⟩

end Event

theorem Scanner.lineFeeds_of_next {scanner : Scanner} {token : Token}
    (h : scanner.next.1 = .ok token) : lineFeeds token.text = 0 := by
  obtain ⟨lexeme, hRead, hFeed⟩ := scanner.exists_lexeme
  have hText : lexeme = token.text.toList := by
    rw [h] at hRead
    exact hRead
  rw [lineFeeds, ← hText]
  exact List.count_eq_zero.mpr hFeed

theorem Scanner.lineFeeds_of_mem_stream {scanner : Scanner} {token : Token}
    (h : .ok token ∈ scanner.stream) : lineFeeds token.text = 0 := by
  obtain ⟨index, hIndex⟩ := List.mem_iff_getElem?.mp h
  exact lineFeeds_of_next (answer_of_getElem?_stream hIndex)

theorem recordText_of_ended {source : String} {ending : Ending}
    (h : (course startGoals (Scanner.ofString source).stream).standing = .ended ending) :
    recordText source =
      ending.record (course startGoals (Scanner.ofString source).stream).events := by
  obtain ⟨last, hAnswers⟩ := Padded.exists_answers_stream source
  exact recordText_eq hAnswers rfl h

theorem exists_record_stream (source : String) :
    let whole := course startGoals (Scanner.ofString source).stream
    ∃ ending, whole.standing = .ended ending ∧ recordText source = ending.record whole.events := by
  obtain ⟨ending, hEnd⟩ := (Scanner.ofString source).exists_ended_stream startGoals
  exact ⟨ending, hEnd, recordText_of_ended hEnd⟩

theorem lineFeeds_of_mem_terminals_recordText (source : String) :
    ∀ token ∈ Event.terminals (recordText source).2, lineFeeds token.text = 0 := by
  obtain ⟨ending, hEnd, hRecord⟩ := exists_record_stream source
  obtain ⟨accepted, answer, back, rest, hStream, -, -, -, hAccepted, -⟩ := course_ended hEnd
  rw [hRecord, Ending.terminals_record, hAccepted]
  intro token hMem
  apply Scanner.lineFeeds_of_mem_stream
  rw [hStream]
  exact List.mem_append_left _ (List.mem_map_of_mem hMem)

theorem lineFeeds_of_mem_trace_recordText (source : String) :
    ∀ line ∈ Event.trace (recordText source).2, lineFeeds line = 0 :=
  Event.lineFeeds_of_mem_trace (lineFeeds_of_mem_terminals_recordText source)

/-- A success, if there is one, stands behind all other lines, none of which reads like it. -/
theorem exists_trace_recordText (source : String) :
    ∃ lines, Event.success.render ∉ lines ∧ Event.trace (recordText source).2 =
      lines ++ if (recordText source).1 = .ok () then [Event.success.render] else [] := by
  obtain ⟨ending, hEnd, hRecord⟩ := exists_record_stream source
  refine ⟨Event.trace (course startGoals (Scanner.ofString source).stream).events, ?_, ?_⟩
  · rw [Event.render_success_mem_trace_iff]
    intro hMem
    cases isLast_eq_false_of_mem_course _ _ _ hMem
  · rw [hRecord, Ending.record, Event.trace_append]
    cases ending <;> rfl

theorem tokenize_ne_error_of_succeeded {source : String}
    (h : (course startGoals (Scanner.ofString source).stream).standing = .ended .succeeded)
    (error : ScanError) : tokenize source ≠ .error error := by
  intro hError
  have hRead := readAll_of_tokenize_error hError
  obtain ⟨accepted, answer, back, rest, hStream, -, -, -, -, hCaused⟩ := course_ended h
  have hMem : answer ∈ (Scanner.ofString source).stream := by simp [hStream]
  cases hCaused with
  | @succeeded token hEnd =>
    have hToken : token ∈ (Scanner.ofString source).readAll.1 := by
      simpa [Scanner.stream, hRead] using hMem
    exact Scanner.symbol_ne_of_mem_readAll hRead token hToken hEnd

theorem listCourse_of_tokenize {source : String} {tokens : List Token}
    (h : tokenize source = .ok tokens) :
    listCourse tokens = course startGoals (Scanner.ofString source).stream := by
  obtain ⟨ending, hEnd, -⟩ := exists_record_stream source
  obtain ⟨hStream, hLast, hFront⟩ := Scanner.stream_of_tokenize h
  rw [hStream, hLast] at hEnd
  rw [hStream, hLast]
  exact listCourse_append_end hFront hEnd

theorem recordText_eq_ok_iff (source : String) :
    (recordText source).1 = .ok () ↔
      ∃ tokens, tokenize source = .ok tokens ∧
        Sentence ((Token.beforeEnd tokens).map Token.symbol) := by
  obtain ⟨ending, hEnd, hRecord⟩ := exists_record_stream source
  rw [hRecord, Ending.record, Ending.result_eq_ok_iff]
  constructor
  · rintro rfl
    cases hTokens : tokenize source with
    | error error => exact absurd hTokens (tokenize_ne_error_of_succeeded hEnd error)
    | ok tokens =>
      refine ⟨tokens, rfl, ?_⟩
      rw [← succeeded_iff_sentence, listCourse_of_tokenize hTokens]
      exact hEnd
  · rintro ⟨tokens, hTokens, hSentence⟩
    rw [← succeeded_iff_sentence, listCourse_of_tokenize hTokens, hEnd] at hSentence
    exact Standing.ended.inj hSentence

end TallyCheck
