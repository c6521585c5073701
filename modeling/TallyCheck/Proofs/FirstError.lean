import Mathlib.Data.List.GetD
import TallyCheck.Proofs.Language

/-! # The first error

Whatever an analysis of a list of tokens has taken begins some sentence, and with the token that it
rejects nothing does.  Behind a whole sentence every token is rejected.
-/
namespace TallyCheck
set_option autoImplicit false

/-- Some sentence begins with the word. -/
def Viable (word : List Symbol) : Prop := ∃ rest, Sentence (word ++ rest)

theorem Token.exists_map_symbol_eq (word : List Symbol) :
    ∃ tokens : List Token, tokens.map Token.symbol = word := by
  refine ⟨word.map fun symbol => .fixed symbol 0, ?_⟩
  rw [List.map_map]
  exact List.map_id' word

theorem viable_iff_exists_tree (tokens : List Token) :
    Viable (tokens.map Token.symbol) ↔
      ∃ tree : Tree, tree.Derives .statementPart ∧ tokens <+: tree.leaves := by
  constructor
  · rintro ⟨rest, hRest⟩
    obtain ⟨more, rfl⟩ := Token.exists_map_symbol_eq rest
    rw [← List.map_append, sentence_iff_exists_tree] at hRest
    obtain ⟨tree, hTree, hLeaves⟩ := hRest
    exact ⟨tree, hTree, more, hLeaves.symm⟩
  · rintro ⟨tree, hTree, more, hLeaves⟩
    refine ⟨more.map Token.symbol, ?_⟩
    rw [← List.map_append, sentence_iff_exists_tree]
    exact ⟨tree, hTree, hLeaves.symm⟩

theorem viable_of_going {tokens : List Token} {rest : List Goal}
    (h : (course startGoals (tokens.map Except.ok)).standing = .going rest) :
    Viable (tokens.map Token.symbol) := by
  obtain ⟨events, hEvents⟩ := Completes.exists_completes rest
  have hStanding :
      (course startGoals (tokens.map Except.ok)).standing.Completes events := by
    rw [h]
    exact .going hEvents
  obtain ⟨tree, hTree, hWalk⟩ := (Completes.of_course hStanding).exists_tree
  rw [viable_iff_exists_tree]
  refine ⟨tree, hTree, Event.terminals events, ?_⟩
  rw [← tree.terminals_events, hWalk, Event.terminals_append, terminals_of_going h]

theorem not_viable_of_ended {tokens : List Token} {ending : Ending}
    (h : (course startGoals (tokens.map Except.ok)).standing = .ended ending) :
    ¬ Viable (tokens.map Token.symbol) := by
  rw [viable_iff_exists_tree]
  rintro ⟨tree, hTree, more, hLeaves⟩
  -- the run ends with one of the tokens, but it would take all the leaves
  obtain ⟨accepted, answer, back, -, hAnswers, -, -, -, hAccepted, -⟩ := course_ended h
  have hWhole := hTree.course_eq (Token.symbol_endOfInput 0)
  rw [← hLeaves, List.append_assoc, List.map_append, course_append_of_ended _ h] at hWhole
  have hSame : accepted = tokens ++ more := by
    rw [← hAccepted, hWhole, hLeaves]
    exact tree.terminals_events
  have hLength := congrArg List.length hAnswers
  rw [hSame] at hLength
  simp only [List.length_map, List.length_append, List.length_cons] at hLength
  omega

theorem Sentence.not_viable_append {tokens : List Token}
    (h : Sentence (tokens.map Token.symbol)) (next : Token) :
    ¬ Viable ((tokens ++ [next]).map Token.symbol) := by
  obtain ⟨tree, hTree, rfl⟩ := (sentence_iff_exists_tree tokens).mp h
  obtain ⟨ending, hEnded⟩ := exists_course_nil_ended next []
  have hStanding :
      (course startGoals ((tree.leaves ++ [next]).map Except.ok)).standing = .ended ending := by
    rw [List.map_append]
    exact (congrArg Course.standing (hTree.course_append next [])).trans hEnded
  exact not_viable_of_ended hStanding

theorem Sentence.eq_nil_of_append {word rest : List Symbol} (hWord : Sentence word)
    (h : Sentence (word ++ rest)) : rest = [] := by
  obtain ⟨tokens, rfl⟩ := Token.exists_map_symbol_eq word
  obtain ⟨more, rfl⟩ := Token.exists_map_symbol_eq rest
  cases more with
  | nil => rfl
  | cons next more =>
    have hViable : Viable ((tokens ++ [next]).map Token.symbol) :=
      ⟨more.map Token.symbol, by simpa using h⟩
    exact absurd hViable (hWord.not_viable_append next)

/-- What it means for `error` to be the first error in a list of tokens, when those in `taken` were
taken before it. -/
structure FirstError (tokens taken : List Token) (error : ParseError) : Prop where
  length_le : taken.length ≤ tokens.length
  eq_take : taken = tokens.take taken.length
  /-- Behind the list stands end-of-input, on the line of the last token. -/
  token_eq : error.token? =
    some (tokens.getD taken.length (.endOfInput (tokens.getLast?.elim 0 Token.line)))
  viable : Viable (taken.map Token.symbol)
  not_viable : taken.length < tokens.length →
    ¬ Viable ((tokens.take (taken.length + 1)).map Token.symbol)
  not_sentence : taken.length = tokens.length → ¬ Sentence (tokens.map Token.symbol)
  /-- Behind a whole program there must be trailing tokens. -/
  trailing : Sentence (taken.map Token.symbol) → taken.length < tokens.length

theorem FirstError.inside {tokens taken unread : List Token} {token : Token} {error : ParseError}
    {ending : Ending} {left : List Goal} (hSplit : tokens = taken ++ token :: unread)
    (hGoing : (course startGoals (taken.map Except.ok)).standing = .going left)
    (hEnded : (course startGoals ((taken ++ [token]).map Except.ok)).standing = .ended ending)
    (hError : error.token? = some token) : FirstError tokens taken error := by
  subst hSplit
  have hLess : taken.length < (taken ++ token :: unread).length := by simp
  have hTake : (taken ++ token :: unread).take (taken.length + 1) = taken ++ [token] := by
    rw [List.take_length_add_append, List.take_succ_cons, List.take_zero]
  have hToken : error.token? = some ((taken ++ token :: unread).getD taken.length
      (.endOfInput ((taken ++ token :: unread).getLast?.elim 0 Token.line))) := by
    rw [hError, List.getD_append_right _ _ _ _ (Nat.le_refl _), Nat.sub_self]
    rfl
  exact
    { length_le := Nat.le_of_lt hLess
      eq_take := List.take_left.symm
      token_eq := hToken
      viable := viable_of_going hGoing
      not_viable := fun _ => hTake ▸ not_viable_of_ended hEnded
      not_sentence := fun hAll => absurd hAll (Nat.ne_of_lt hLess)
      trailing := fun _ => hLess }

theorem FirstError.atEnd {tokens : List Token} {error : ParseError} {left : List Goal}
    (hGoing : (course startGoals (tokens.map Except.ok)).standing = .going left)
    (hSentence : ¬ Sentence (tokens.map Token.symbol))
    (hError : error.token? =
      some (.endOfInput (tokens.getLast?.elim 0 Token.line))) : FirstError tokens tokens error := by
  have hToken : error.token? = some (tokens.getD tokens.length
      (.endOfInput (tokens.getLast?.elim 0 Token.line))) := by
    rw [hError, List.getD_eq_default _ _ (Nat.le_refl _)]
  exact
    { length_le := Nat.le_refl _
      eq_take := List.take_length.symm
      token_eq := hToken
      viable := viable_of_going hGoing
      not_viable := by omega
      not_sentence := fun _ => hSentence
      trailing := fun h => absurd h hSentence }

theorem firstError_of_rejected {tokens : List Token} {token : Token} {expected : Expectation}
    {rest : List Goal} {error : ParseError} (hTokens : ∀ token ∈ tokens, token.symbol ≠ .endOfInput)
    (h : (listCourse tokens).standing = .ended (.rejected token expected rest))
    (hError : error.token? = some token) :
    FirstError tokens (Event.terminals (listCourse tokens).events) error := by
  have hSplit := listCourse_of_inner hTokens
  cases hStanding : (course startGoals (tokens.map Except.ok)).standing with
  | ended ending =>
    obtain ⟨taken, other, unread, _, _, left, hTake, rfl, hTaken, hGoing, hEnded⟩ :=
      course_tokens_ended hTokens hStanding
    have hSame := hSplit.trans (course_append_of_ended _ hStanding)
    rw [hSame] at h ⊢
    cases h.symm.trans hStanding
    rw [hTaken]
    exact .inside hTake hGoing hEnded hError
  | going left =>
    have hSame := hSplit.trans (course_append_of_going _ hStanding)
    have hSentence : ¬ Sentence (tokens.map Token.symbol) := by
      intro hSentence
      rw [← Token.beforeEnd_eq_self hTokens, ← succeeded_iff_sentence, h] at hSentence
      cases hSentence
    rw [hSame] at h ⊢
    obtain ⟨hNone, hEnds⟩ := course_last h
    cases hEnds
    rw [Course.events_after, Event.terminals_append, hNone, List.append_nil,
      terminals_of_going hStanding]
    refine .atEnd hStanding hSentence ?_
    rw [hError, Token.sentinel_eq_endOfInput 0 hTokens]

/-- The recording of a failed analysis holds what stands before the first error, and the error is
about the token behind; and no program is a proper extension of another. -/
theorem Analysis.run_list_error_first (tokens : List Token) (error : ParseError)
    (hTokens : ∀ token ∈ tokens, token.symbol ≠ .endOfInput)
    (h : (Analysis.run (.new (Padded.ofProducer tokens) Recording.empty)).1 = .error error) :
    FirstError tokens
        (Event.terminals
          (Analysis.run (.new (Padded.ofProducer tokens) Recording.empty)).2.observer.events)
        error ∧
      ∀ word rest : List Symbol, Sentence word → Sentence (word ++ rest) → rest = [] := by
  constructor
  · rcases listCourse_ends tokens with ⟨hEnd, -⟩ | ⟨token, expected, rest, hEnd⟩
    · have hOk := (run_list_eq_ok_iff_succeeded tokens Recording.empty).mpr hEnd
      cases h.symm.trans hOk
    · have hResult := (run_list tokens Recording.empty hEnd).1
      rw [h] at hResult
      rw [recorded_run_list tokens hEnd, Event.terminals_append, Ending.terminals_report,
        List.append_nil]
      exact firstError_of_rejected hTokens hEnd (Ending.token?_of_result hResult.symm)
  · intro word rest hWord hExtended
    exact hWord.eq_nil_of_append hExtended

def misclosedProgram : List Token :=
  [.beginWord, .whileWord, .identifier, .lessThan, .numberConstant, .loopWord, .callWord,
    .identifier, .leftParen, .identifier, .rightParen, .endWord, .ifWord, .endWord].mapIdx
    fun line symbol => .ofText symbol "x" line

def misclosedError : ParseError :=
  .withinAll [.whileStatement, .statement, .statementList, .statementPart]
    (.unexpectedToken (.fixed .ifWord 12) "Expected token loop but found if")

theorem misclosedProgram_error_first :
    (∀ token ∈ misclosedProgram, token.symbol ≠ .endOfInput) ∧
    (Analysis.run (.new (Padded.ofProducer misclosedProgram) Recording.empty)).1 =
      .error misclosedError ∧
    FirstError misclosedProgram
        (Event.terminals (Analysis.run
          (.new (Padded.ofProducer misclosedProgram) Recording.empty)).2.observer.events)
        misclosedError ∧
      ∀ word rest : List Symbol, Sentence word → Sentence (word ++ rest) → rest = [] := by
  have hTokens : ∀ token ∈ misclosedProgram, token.symbol ≠ .endOfInput := by decide
  have hRun : (Analysis.run (.new (Padded.ofProducer misclosedProgram) Recording.empty)).1 =
      .error misclosedError := by decide +kernel
  exact ⟨hTokens, hRun, Analysis.run_list_error_first misclosedProgram misclosedError hTokens hRun⟩

end TallyCheck
