import TallyCheck.Proofs.Expected

/-! # Tokens put in the place of the one rejected

What an analysis of a list does behind the tokens it has taken when another token comes next, next
to what the message of the rejection names.
-/
namespace TallyCheck
set_option autoImplicit false

theorem clear_startGoals : Goal.Clear startGoals :=
  ⟨⟨by decide, fun _ => trivial⟩, trivial⟩

theorem exists_left_of_rejected {tokens : List Token} {token : Token} {expected : Expectation}
    {rest : List Goal} (hTokens : ∀ token ∈ tokens, token.symbol ≠ .endOfInput)
    (h : (listCourse tokens).standing = .ended (.rejected token expected rest)) :
    ∃ taken left, taken = tokens.take (Event.terminals (listCourse tokens).events).length ∧
      (course startGoals (taken.map Except.ok)).standing = .going left ∧
      (predict token.symbol left).verdict = .reject expected rest ∧
      (listCourse tokens).events =
        (course startGoals (taken.map Except.ok)).events ++ (predict token.symbol left).events := by
  rw [listCourse, Token.beforeEnd_eq_self hTokens] at h ⊢
  obtain ⟨taken, back, left, hAnswers, hGoing, hVerdict, hEvents, hTaken⟩ := course_rejected h
  rw [hTaken]
  refine ⟨taken, left, ?_, hGoing, hVerdict, hEvents⟩
  obtain ⟨front, behind, hList, hFront, hBehind⟩ := List.map_eq_append_iff.mp hAnswers
  obtain rfl := (List.map_inj_right fun _ _ => Except.ok.inj).mp hFront
  have hLength : front.length ≤ tokens.length := by
    have hBoth := congrArg List.length hList
    have hMore := congrArg List.length hBehind
    simp only [List.length_append, List.length_map, List.length_cons, List.length_nil]
      at hBoth hMore
    omega
  have hCut := congrArg (List.take front.length) hList
  rw [List.take_append_of_le_length hLength, List.take_left] at hCut
  exact hCut.symm

/-- What the message of a rejection behind the tokens `taken` says is true, when `before` has been
reported until then. -/
structure Truthful (taken : List Token) (before : List Event) (message : String) : Prop where
  names : ∃ symbol, Names message symbol
  /-- A token of a symbol named is accepted, after the same events; only productions are entered in
  between. -/
  accepts : ∀ (next : Token) (more : List Token), Names message next.symbol →
    next.symbol ≠ .endOfInput → ∃ opened : List Nonterminal,
      before ++ opened.map Event.commence ++ [.terminal next] <+:
        (recordList (taken ++ next :: more)).2
  succeeds : Names message .endOfInput → recordList taken = (.ok (), before ++ [.success])
  /-- A message that lists symbols names all that are accepted. -/
  complete : ¬ SaysToken message →
    ∀ (next : Token) (more : List Token), ¬ Names message next.symbol →
      (recordList (taken ++ next :: more)).2 = before ++ [.error next message] ∧
        ∃ error, (recordList (taken ++ next :: more)).1 = .error error ∧ error.token? = some next

theorem events_prefix_recordList (tokens : List Token) :
    (listCourse tokens).events <+: (recordList tokens).2 := by
  rcases listCourse_ends tokens with ⟨hEnd, -⟩ | ⟨token, expected, rest, hEnd⟩ <;>
    rw [recordList_eq rfl hEnd] <;> exact List.prefix_append _ _

section Behind

variable {taken : List Token} {token : Token} {left rest : List Goal} {expected : Expectation}
  (hTaken : ∀ token ∈ taken, token.symbol ≠ .endOfInput)
  (hGoing : (course startGoals (taken.map Except.ok)).standing = .going left)
  (hVerdict : (predict token.symbol left).verdict = .reject expected rest)

include hTaken hGoing hVerdict

theorem exists_prefix_of_expected {next : Token} (more : List Token)
    (hMem : next.symbol ∈ expected.symbols) (hInner : next.symbol ≠ .endOfInput) :
    ∃ opened : List Nonterminal,
      (course startGoals (taken.map Except.ok)).events ++ (predict token.symbol left).events ++
          opened.map Event.commence ++ [.terminal next] <+:
        (recordList (taken ++ next :: more)).2 := by
  have hClear := clear_startGoals.of_course hGoing
  obtain ⟨hPasses, opened, hEvents, -⟩ := predict_of_expected hClear hMem hVerdict
  obtain ⟨answers, hCourse⟩ := listCourse_append_cons hTaken hGoing next more
  refine ⟨opened, List.IsPrefix.trans ?_ (events_prefix_recordList _)⟩
  rw [hCourse, course_ok, Prediction.course]
  cases hNext : (predict next.symbol left).verdict with
  | accept onward => simp [hEvents]
  | complete => exact absurd (predict_complete_eq_endOfInput hNext) hInner
  | reject other others =>
    rw [hNext] at hPasses
    exact hPasses.elim

theorem recordList_of_end_expected (hMem : Symbol.endOfInput ∈ expected.symbols) :
    recordList taken = (.ok (), (course startGoals (taken.map Except.ok)).events ++
      (predict token.symbol left).events ++ [.success]) := by
  have hLast :=
    predict_endOfInput_of_expected (clear_startGoals.of_course hGoing) hMem hVerdict
  have hCourse : listCourse taken = _ :=
    (listCourse_of_inner hTaken).trans (course_append_of_going _ hGoing)
  rw [course_ok, Token.symbol_sentinel 0 taken, hLast, Prediction.course] at hCourse
  exact recordList_eq hCourse rfl

theorem recordList_of_unexpected {next : Token} (more : List Token) {choice : Choice}
    (hChoice : expected = .choice choice) (hMem : next.symbol ∉ choice.leads) :
    (recordList (taken ++ next :: more)).2 =
        (course startGoals (taken.map Except.ok)).events ++ (predict token.symbol left).events ++
          [.error next (expected.message token.symbol)] ∧
      ∃ error, (recordList (taken ++ next :: more)).1 = .error error ∧
        error.token? = some next := by
  subst hChoice
  have hClear := clear_startGoals.of_course hGoing
  have hSame := predict_of_unexpected hClear hMem hVerdict
  obtain ⟨answers, hCourse⟩ := listCourse_append_cons hTaken hGoing next more
  rw [course_ok, hSame, Prediction.course] at hCourse
  simp only [hVerdict] at hCourse
  rw [recordList_eq hCourse rfl, Expectation.message_choice choice token.symbol next.symbol]
  exact ⟨rfl, _, rfl, Ending.token?_of_result rfl⟩

end Behind

/-- What the message of a rejection names could have come, and if it is a list, nothing else. -/
theorem recordList_rejection_truthful (tokens : List Token) (error : ParseError)
    (hTokens : ∀ token ∈ tokens, token.symbol ≠ .endOfInput)
    (h : (recordList tokens).1 = .error error) :
    ∃ before token message, (recordList tokens).2 = before ++ [.error token message] ∧
      error.message? = some message ∧
      Truthful (tokens.take (Event.terminals (recordList tokens).2).length) before message := by
  rcases listCourse_ends tokens with ⟨hEnd, -⟩ | ⟨token, expected, rest, hEnd⟩
  · rw [recordList_eq rfl hEnd] at h
    cases h
  · obtain ⟨taken, left, hTake, hGoing, hVerdict, hEvents⟩ := exists_left_of_rejected hTokens hEnd
    have hTaken : ∀ token ∈ taken, token.symbol ≠ .endOfInput := fun token hMem =>
      hTokens token (List.mem_of_mem_take (hTake ▸ hMem))
    rw [recordList_eq rfl hEnd] at h ⊢
    rw [Ending.terminals_record, ← hTake]
    refine ⟨(listCourse tokens).events, token, expected.message token.symbol, rfl, ?_, ?_⟩
    · cases h
      exact ParseError.message?_withinAll _ _
    · rw [hEvents]
      exact
        { names := by
            obtain ⟨symbol, hMem⟩ : ∃ symbol, symbol ∈ expected.symbols := by
              cases expected with
              | symbol only => exact ⟨only, List.mem_singleton_self _⟩
              | choice choice => exact List.exists_mem_of_ne_nil _ choice.leads_ne_nil
            exact ⟨symbol, names_message_iff.mpr hMem⟩
          accepts := fun next more hNames hInner =>
            exists_prefix_of_expected hTaken hGoing hVerdict more (names_message_iff.mp hNames)
              hInner
          succeeds := fun hNames =>
            recordList_of_end_expected hTaken hGoing hVerdict (names_message_iff.mp hNames)
          complete := by
            intro hLists next more hNames
            cases expected with
            | symbol only => exact absurd (Expectation.saysToken_symbol_message _ _) hLists
            | choice choice =>
              exact recordList_of_unexpected hTaken hGoing hVerdict more rfl
                fun hMem => hNames (names_message_iff.mpr hMem) }

def unfinishedSum : List Token :=
  [.beginWord, .identifier, .becomes, .leftParen, .numberConstant, .plus, .endWord, .ifWord,
    .endWord].mapIdx fun line symbol => .ofText symbol "x" line

def unfinishedSumError : ParseError :=
  .withinAll [.factor, .term, .expression, .factor, .term, .expression, .assignmentStatement,
      .statement, .statementList, .statementPart]
    (.unexpectedToken (.fixed .endWord 6) "Expected identifier, numberConstant, or ( in <Factor>")

theorem unfinishedSum_rejection_truthful :
    (∀ token ∈ unfinishedSum, token.symbol ≠ .endOfInput) ∧
    (recordList unfinishedSum).1 = .error unfinishedSumError ∧
    ∃ before token message, (recordList unfinishedSum).2 = before ++ [.error token message] ∧
      unfinishedSumError.message? = some message ∧
      Truthful (unfinishedSum.take (Event.terminals (recordList unfinishedSum).2).length) before
        message := by
  have hTokens : ∀ token ∈ unfinishedSum, token.symbol ≠ .endOfInput := by decide
  have hRun : (recordList unfinishedSum).1 = .error unfinishedSumError := by decide +kernel
  exact ⟨hTokens, hRun, recordList_rejection_truthful unfinishedSum unfinishedSumError hTokens hRun⟩

end TallyCheck
