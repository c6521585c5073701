import TallyCheck.Proofs.Completion
import TallyCheck.Proofs.Feed
import TallyCheck.Proofs.TreeCourse

/-! # The language accepted

An analysis of a list of tokens succeeds on the sentences of the grammar and on nothing else.  Its
events then are those of a walk around the only derivation tree the tokens have.
-/
namespace TallyCheck
set_option autoImplicit false

def startGoals : List Goal := [.phrase (.nonterminal .statementPart)]

theorem Tree.Derives.course_append {tree : Tree} (h : tree.Derives .statementPart) (next : Token)
    (answers : List Answer) :
    course startGoals (tree.leaves.map Except.ok ++ .ok next :: answers) =
      (course [] (.ok next :: answers)).after tree.events := by
  have hList : [Symbol.endWord] ⊆ Nonterminal.statementList.follow := by decide
  have hClear : Clear [next.symbol] Nonterminal.statementPart.phrases :=
    ⟨trivial, hList, trivial, trivial⟩
  have hNext : StartsIn [next.symbol] (.ok next :: answers) :=
    ⟨next, answers, rfl, List.mem_singleton_self _⟩
  cases fills_nonterminal_iff.mpr h with
  | nonterminal hInside hRest =>
    cases hRest
    exact course_node (hInside.startsIn hNext) hNext
      (hInside.course_eq [.close .statementPart] hClear hNext)

theorem Tree.Derives.course_eq {tree : Tree} (h : tree.Derives .statementPart) {last : Token}
    (hLast : last.symbol = .endOfInput) :
    course startGoals ((tree.leaves ++ [last]).map Except.ok) =
      ⟨tree.events, .ended .succeeded⟩ := by
  have hWalk := h.course_append last []
  rw [course_nil hLast] at hWalk
  simpa [Course.after] using hWalk

theorem Completes.exists_tree {category : Nonterminal} {events : List Event}
    (h : Completes [.phrase (.nonterminal category)] events) :
    ∃ tree : Tree, tree.Derives category ∧ tree.events = events := by
  obtain ⟨trees, rest, hFills, hRest, rfl⟩ := exists_fills [.nonterminal category] h
  obtain ⟨tree, rfl, hTree⟩ := (fills_nonterminal_iff.mp hFills).exists_tree
  cases hRest
  exact ⟨tree, hTree, by simp [Forest.events]⟩

def listCourse (tokens : List Token) : Course :=
  course startGoals ((Token.beforeEnd tokens ++ [Token.sentinel 0 tokens]).map Except.ok)

theorem listCourse_ends (tokens : List Token) :
    ((listCourse tokens).standing = .ended .succeeded ∧
      Event.terminals (listCourse tokens).events = Token.beforeEnd tokens) ∨
    ∃ token expected rest,
      (listCourse tokens).standing = .ended (.rejected token expected rest) :=
  course_list startGoals Token.symbol_ne_of_mem_beforeEnd (Token.symbol_sentinel 0 tokens)

theorem exists_ended_listCourse (tokens : List Token) :
    ∃ ending, (listCourse tokens).standing = .ended ending := by
  rcases listCourse_ends tokens with ⟨hEnd, -⟩ | ⟨token, expected, rest, hEnd⟩
  · exact ⟨_, hEnd⟩
  · exact ⟨_, hEnd⟩

theorem listCourse_of_inner {tokens : List Token}
    (hTokens : ∀ token ∈ tokens, token.symbol ≠ .endOfInput) :
    listCourse tokens =
      course startGoals (tokens.map Except.ok ++ [.ok (Token.sentinel 0 tokens)]) := by
  rw [listCourse, Token.beforeEnd_eq_self hTokens, List.map_append, List.map_singleton]

theorem listCourse_append_cons {taken : List Token} {left : List Goal}
    (hTaken : ∀ token ∈ taken, token.symbol ≠ .endOfInput)
    (hGoing : (course startGoals (taken.map Except.ok)).standing = .going left) (next : Token)
    (more : List Token) :
    ∃ answers, listCourse (taken ++ next :: more) = (course left (.ok next :: answers)).after
      (course startGoals (taken.map Except.ok)).events := by
  obtain ⟨rest, hRest⟩ := Token.exists_beforeEnd_append_cons 0 hTaken next more
  refine ⟨rest.map Except.ok, ?_⟩
  rw [listCourse, hRest, List.map_append, List.map_cons, course_append_of_going _ hGoing]

theorem Tree.Derives.listCourse_eq {tree : Tree} (h : tree.Derives .statementPart)
    {tokens : List Token} (hLeaves : tree.leaves = Token.beforeEnd tokens) :
    listCourse tokens = ⟨tree.events, .ended .succeeded⟩ := by
  rw [listCourse, ← hLeaves]
  exact h.course_eq (Token.symbol_sentinel 0 tokens)

theorem exists_tree_of_succeeded {tokens : List Token}
    (h : (listCourse tokens).standing = .ended .succeeded) :
    ∃ tree : Tree, tree.Derives .statementPart ∧ tree.leaves = Token.beforeEnd tokens ∧
      tree.events = (listCourse tokens).events := by
  have hStanding : (listCourse tokens).standing.Completes [] := by
    rw [h]
    exact .succeeded
  have hCompletes := Completes.of_course hStanding
  rw [List.append_nil] at hCompletes
  obtain ⟨tree, hTree, hEvents⟩ := hCompletes.exists_tree
  refine ⟨tree, hTree, ?_, hEvents⟩
  rw [← tree.terminals_events, hEvents]
  rcases listCourse_ends tokens with ⟨-, hTerminals⟩ | ⟨token, expected, rest, hRejected⟩
  · exact hTerminals
  · cases h.symm.trans hRejected

theorem succeeded_iff_sentence (tokens : List Token) :
    (listCourse tokens).standing = .ended .succeeded ↔
      Sentence ((Token.beforeEnd tokens).map Token.symbol) := by
  rw [sentence_iff_exists_tree]
  constructor
  · intro h
    obtain ⟨tree, hTree, hLeaves, -⟩ := exists_tree_of_succeeded h
    exact ⟨tree, hTree, hLeaves⟩
  · rintro ⟨tree, hTree, hLeaves⟩
    rw [hTree.listCourse_eq hLeaves]

section Analyses

variable {τ : Type} [Observer τ]

theorem Ending.result_eq_ok_iff {ending : Ending} {observer : τ} :
    ending.result observer = .ok () ↔ ending = .succeeded := by
  cases ending <;> simp [Ending.result]

theorem Analysis.run_list (tokens : List Token) (observer : τ) {ending : Ending}
    (h : (listCourse tokens).standing = .ended ending) :
    (Analysis.run (.new (Padded.ofProducer tokens) observer)).1 =
        ending.result (Observer.notifyAll (listCourse tokens).events observer) ∧
      (Analysis.run (.new (Padded.ofProducer tokens) observer)).2.observer =
        Observer.notifyAll ((listCourse tokens).events ++ ending.report) observer := by
  obtain ⟨last, hAnswers⟩ := Padded.answers_list tokens 0
  exact Run.finish_of_course hAnswers observer h

theorem Analysis.recorded_run_list (tokens : List Token) {ending : Ending}
    (h : (listCourse tokens).standing = .ended ending) :
    (Analysis.run (.new (Padded.ofProducer tokens) Recording.empty)).2.observer.events =
      (listCourse tokens).events ++ ending.report := by
  rw [(run_list tokens Recording.empty h).2, Recording.events_notifyAll]
  rfl

theorem Analysis.run_list_eq_ok_iff_succeeded (tokens : List Token) (observer : τ) :
    (Analysis.run (.new (Padded.ofProducer tokens) observer)).1 = .ok () ↔
      (listCourse tokens).standing = .ended .succeeded := by
  rcases listCourse_ends tokens with ⟨hEnd, -⟩ | ⟨token, expected, rest, hEnd⟩ <;>
    rw [(run_list tokens observer hEnd).1, Ending.result_eq_ok_iff, hEnd] <;> simp

/-- The analysis of a list succeeds, whatever is observed, exactly if the symbols of the tokens
before the first end-of-input token form a sentence of the grammar. -/
theorem Analysis.run_list_eq_ok_iff_sentence (tokens : List Token) (observer : τ) :
    (Analysis.run (.new (Padded.ofProducer tokens) observer)).1 = .ok () ↔
      Sentence ((Token.beforeEnd tokens).map Token.symbol) :=
  (run_list_eq_ok_iff_succeeded tokens observer).trans (succeeded_iff_sentence tokens)

end Analyses

/-- The recording of a successful analysis is a walk around the only derivation tree that the
tokens before the first end-of-input token have, and one success. -/
theorem Analysis.recording_walks_only_tree (tokens : List Token)
    (h : (Analysis.run (.new (Padded.ofProducer tokens) Recording.empty)).1 = .ok ()) :
    ∃ tree : Tree, tree.Derives .statementPart ∧ tree.leaves = Token.beforeEnd tokens ∧
      (∀ other : Tree, other.Derives .statementPart → other.leaves = Token.beforeEnd tokens →
        other = tree) ∧
      (Analysis.run (.new (Padded.ofProducer tokens) Recording.empty)).2.observer.events =
        tree.events ++ [.success] ∧
      Event.terminals
        (Analysis.run (.new (Padded.ofProducer tokens) Recording.empty)).2.observer.events =
        Token.beforeEnd tokens := by
  have hEnd := (run_list_eq_ok_iff_succeeded tokens Recording.empty).mp h
  obtain ⟨tree, hTree, hLeaves, hEvents⟩ := exists_tree_of_succeeded hEnd
  have hRecording :
      (Analysis.run (.new (Padded.ofProducer tokens) Recording.empty)).2.observer.events =
        tree.events ++ [.success] := by
    rw [recorded_run_list tokens hEnd, hEvents]
    rfl
  refine ⟨tree, hTree, hLeaves, ?_, hRecording, ?_⟩
  · intro other hOther hOtherLeaves
    have hSame := (hOther.listCourse_eq hOtherLeaves).symm.trans (hTree.listCourse_eq hLeaves)
    apply Tree.events_injective
    exact congrArg Course.events hSame
  · rw [hRecording, Event.terminals_append, tree.terminals_events, hLeaves]
    exact List.append_nil _

def nestedProgram : List Token :=
  [.beginWord, .ifWord, .identifier, .equal, .stringConstant, .thenWord, .identifier, .becomes,
    .leftParen, .identifier, .plus, .numberConstant, .rightParen, .times, .identifier, .semicolon,
    .callWord, .identifier, .leftParen, .identifier, .comma, .identifier, .rightParen, .elseWord,
    .doWord, .identifier, .becomes, .stringConstant, .untilWord, .identifier, .lessThan,
    .identifier, .endWord, .ifWord, .endWord, .endOfInput, .elseWord, .semicolon].mapIdx
    fun line symbol => .ofText symbol "x" line

theorem nestedProgram_walks_only_tree :
    (Analysis.run (.new (Padded.ofProducer nestedProgram) Recording.empty)).1 = .ok () ∧
    ∃ tree : Tree, tree.Derives .statementPart ∧ tree.leaves = Token.beforeEnd nestedProgram ∧
      (∀ other : Tree, other.Derives .statementPart →
        other.leaves = Token.beforeEnd nestedProgram → other = tree) ∧
      (Analysis.run (.new (Padded.ofProducer nestedProgram) Recording.empty)).2.observer.events =
        tree.events ++ [.success] ∧
      Event.terminals
        (Analysis.run (.new (Padded.ofProducer nestedProgram) Recording.empty)).2.observer.events =
        Token.beforeEnd nestedProgram := by
  have hRun :
      (Analysis.run (.new (Padded.ofProducer nestedProgram) Recording.empty)).1 = .ok () := by
    decide +kernel
  exact ⟨hRun, Analysis.recording_walks_only_tree nestedProgram hRun⟩

end TallyCheck
