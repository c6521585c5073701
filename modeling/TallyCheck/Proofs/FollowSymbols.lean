import TallyCheck.Proofs.Substitution

/-! # What stands behind a nonterminal

In a derivation tree of a program the token behind each part can follow it.  So each list and each
expression has gone on as far as it could, and where an analysis goes on with a repetition or an
option, no program it may be reading is lost.
-/
namespace TallyCheck
set_option autoImplicit false

/-- `inner.Occurs front back tree`: the tree `inner` is a part of `tree`, and of the leaves of
`tree` those in `front` stand to the left of its own and those in `back` to the right. -/
inductive Tree.Occurs (inner : Tree) : List Token → List Token → Tree → Prop where
  | here : Occurs inner [] [] inner
  | child {category : Nonterminal} {left right : List Tree} {tree : Tree}
      {front back : List Token} (inside : Occurs inner front back tree) :
      Occurs inner (Forest.leaves left ++ front) (back ++ Forest.leaves right)
        (.node category (left ++ tree :: right))

theorem Tree.Occurs.leaves_eq {inner tree : Tree} {front back : List Token}
    (h : inner.Occurs front back tree) : tree.leaves = front ++ inner.leaves ++ back := by
  induction h with
  | here => exact (List.append_nil _).symm
  | child _ ih =>
    rw [Tree.leaves, Forest.leaves_append, Forest.leaves, ih]
    simp only [List.append_assoc]

/-- Each node stands on the phrases of its nonterminal, and the token behind it, which is `next`
behind the last tree, can follow the nonterminal. -/
def Forest.Followed (next : Token) : List Tree → Prop
  | [] => True
  | .leaf _ :: trees => Followed next trees
  | .node category children :: trees =>
    (Fills category.phrases children ∧
      ((Forest.leaves trees).headD next).symbol ∈ category.follow) ∧ Followed next trees

theorem Fills.followed {phrases : List Phrase} {trees : List Tree} (h : Fills phrases trees) :
    ∀ {behind : List Symbol} {next : Token}, Clear behind phrases → next.symbol ∈ behind →
      Forest.Followed next trees := by
  induction h with
  | nil => exact fun _ _ => trivial
  | terminal _ ih => exact fun hClear hNext => ih hClear.2 hNext
  | nonterminal hInside hRest _ ih =>
    exact fun hClear hNext =>
      ⟨⟨hInside, hClear.1 (hRest.headD_mem_heads hNext)⟩, ih hClear.2 hNext⟩
  | choice hMem _ ih => exact fun hClear => ih ((hClear.1 _ hMem).append hClear.2)
  | repeatedEnd _ ih => exact fun hClear => ih hClear.2.2
  | repeatedNext _ _ ih =>
    intro behind next hClear
    obtain ⟨hDisjoint, hAdmits, hClear⟩ := hClear
    exact ih ⟨hAdmits, hDisjoint, hAdmits, hClear⟩
  | optionalSkip _ ih => exact fun hClear => ih hClear.2.2
  | optionalTake _ ih => exact fun hClear => ih hClear.2

theorem Forest.Followed.of_append {next : Token} {front back : List Tree}
    (h : Followed next (front ++ back)) : Followed next back := by
  induction front with
  | nil => exact h
  | cons tree front ih =>
    cases tree with
    | leaf token => exact ih h
    | node category children => exact ih h.2

theorem Forest.Followed.head {next : Token} {tree : Tree} {trees : List Tree}
    (h : Followed next (tree :: trees)) : Followed ((Forest.leaves trees).headD next) [tree] := by
  cases tree with
  | leaf token => trivial
  | node category children => exact ⟨h.1, trivial⟩

theorem Tree.Occurs.followed {inner tree : Tree} {front back : List Token}
    (h : inner.Occurs front back tree) :
    ∀ {next : Token}, Forest.Followed next [tree] → Forest.Followed (back.headD next) [inner] := by
  induction h with
  | here => exact id
  | @child category left right tree front back _ ih =>
    intro next hTree
    obtain ⟨⟨hChildren, hNext⟩, -⟩ := hTree
    have hBelow := (hChildren.followed category.clear_phrases hNext).of_append
    rw [headD_append]
    exact ih hBelow.head

theorem Tree.Derives.mem_follow {tree : Tree} (h : tree.Derives .statementPart)
    {category : Nonterminal} {children : List Tree} {front back : List Token}
    (hOccurs : (Tree.node category children).Occurs front back tree) :
    Fills category.phrases children ∧
      (back.headD (.endOfInput 0)).symbol ∈ category.follow := by
  have hFills : Fills [.nonterminal .statementPart] [tree] := fills_nonterminal_iff.mpr h
  have hClear : Clear [.endOfInput] [.nonterminal .statementPart] :=
    ⟨List.Subset.refl _, trivial⟩
  have hTree : Forest.Followed (.endOfInput 0) [tree] :=
    hFills.followed hClear (List.mem_singleton_self _)
  exact (hOccurs.followed hTree).1

/-- The list begins with a token of none of the symbols. -/
def StartsOutside (symbols : List Symbol) (tokens : List Token) : Prop :=
  ∃ next rest, tokens = next :: rest ∧ next.symbol ∉ symbols

theorem startsOutside_of_headD {symbols follow : List Symbol} {tokens : List Token}
    (h : (tokens.headD (.endOfInput 0)).symbol ∈ follow)
    (hApart : ∀ symbol ∈ .endOfInput :: symbols, symbol ∉ follow) :
    StartsOutside symbols tokens := by
  cases tokens with
  | nil => exact absurd h (hApart _ List.mem_cons_self)
  | cons next rest =>
    exact ⟨next, rest, rfl, fun hMem => hApart _ (List.mem_cons_of_mem _ hMem) h⟩

theorem Tree.Derives.startsOutside {tree : Tree} (h : tree.Derives .statementPart)
    {category : Nonterminal} {children : List Tree} {front back : List Token}
    (hOccurs : (Tree.node category children).Occurs front back tree) {symbols : List Symbol}
    (hApart : ∀ symbol ∈ .endOfInput :: symbols, symbol ∉ category.follow) :
    StartsOutside symbols back :=
  startsOutside_of_headD (h.mem_follow hOccurs).2 hApart

/-- The parts of the tree have gone on as far as they could: what stands behind them begins with
no symbol with which they go on. -/
structure Tree.Maximal (tree : Tree) : Prop where
  statementList : ∀ {children : List Tree} {front back : List Token},
    (node .statementList children).Occurs front back tree → StartsOutside [.semicolon] back
  argumentList : ∀ {children : List Tree} {front back : List Token},
    (node .argumentList children).Occurs front back tree → StartsOutside [.comma] back
  expression : ∀ {children : List Tree} {front back : List Token},
    (node .expression children).Occurs front back tree → StartsOutside addingOperators back
  term : ∀ {children : List Tree} {front back : List Token},
    (node .term children).Occurs front back tree → StartsOutside multiplyingOperators back
  /-- Behind the first list of an if-statement in which no `else` stands. -/
  thenList : ∀ {ifWord condition thenWord list : Tree} {others : List Tree}
      {front back : List Token},
    (node .ifStatement (ifWord :: condition :: thenWord :: list :: others)).Occurs front back tree →
      (∀ token, Tree.leaf token ∈ others → token.symbol ≠ .elseWord) →
        StartsOutside [.elseWord] (Forest.leaves others ++ back)

theorem Fills.of_part {part : Part} {phrases : List Phrase} {tree : Tree} {trees : List Tree}
    (h : Fills (.part part :: phrases) (tree :: trees)) : Fills phrases trees := by
  cases h with
  | terminal hRest => exact hRest
  | nonterminal _ hRest => exact hRest

theorem Fills.of_optional {lead : Symbol} {item : Part} {inner : lead ≠ .endOfInput}
    {phrases : List Phrase} {trees : List Tree}
    (h : Fills (.optional lead item inner :: phrases) trees) :
    Fills phrases trees ∨ ∃ token, token.symbol = lead ∧ Tree.leaf token ∈ trees := by
  cases h with
  | optionalSkip hRest => exact .inl hRest
  | optionalTake _ => exact .inr ⟨_, rfl, List.mem_cons_self⟩

theorem startsOutside_of_if {ifWord condition thenWord list : Tree} {others : List Tree}
    (h : Fills Nonterminal.ifStatement.phrases
      (ifWord :: condition :: thenWord :: list :: others))
    (hElse : ∀ token, Tree.leaf token ∈ others → token.symbol ≠ .elseWord) (back : List Token) :
    StartsOutside [.elseWord] (Forest.leaves others ++ back) := by
  have hOthers := h.of_part.of_part.of_part.of_part
  rcases hOthers.of_optional with hClosing | ⟨token, hToken, hMem⟩
  · have hHead : ((Forest.leaves others).headD (back.headD (.endOfInput 0))).symbol ∈
        [Symbol.endWord] := hClosing.headD_mem_heads (List.mem_singleton_self _)
    rw [← headD_append] at hHead
    exact startsOutside_of_headD hHead (by decide)
  · exact absurd hToken (hElse token hMem)

theorem Tree.Derives.maximal {tree : Tree} (h : tree.Derives .statementPart) : tree.Maximal where
  statementList hOccurs := h.startsOutside hOccurs (by decide)
  argumentList hOccurs := h.startsOutside hOccurs (by decide)
  expression hOccurs := h.startsOutside hOccurs (by decide)
  term hOccurs := h.startsOutside hOccurs (by decide)
  thenList hOccurs hElse := startsOutside_of_if (h.mem_follow hOccurs).1 hElse _

/-- The symbols with which a repetition or an option goes on. -/
def Phrase.continuations : Phrase → List Symbol
  | .part _ | .choice _ => []
  | .repeated separators _ _ => separators
  | .optional lead _ _ => [lead]

/-- `run.Reaches last`: a run that stands at `run` comes to stand at `last`. -/
inductive Run.Reaches {σ τ : Type} [TokenSource σ] [Observer τ] : Run σ τ → Run σ τ → Prop where
  | refl (run : Run σ τ) : Reaches run run
  | step {run next last : Run σ τ} (going : run.step = .going next) (rest : Reaches next last) :
      Reaches run last

/-- Whatever the goals below a repetition or an option are met with, it does not begin with a
symbol with which the phrase goes on. -/
def Goal.GoesOnSafely (goals : List Goal) : Prop :=
  ∀ {above below : List Goal} {phrase : Phrase} {events : List Event},
    goals = above ++ .phrase phrase :: below → Completes below events →
      ∀ next ∈ (Event.terminals events).head?, next.symbol ∉ phrase.continuations

theorem Completes.headD_mem_heads {goals : List Goal} {events : List Event}
    (h : Completes goals events) {last : Token} (hLast : last.symbol = .endOfInput) :
    ((Event.terminals events).headD last).symbol ∈ Goal.heads goals := by
  induction h with
  | nil => exact List.mem_singleton.mpr hLast
  | phrase hFills _ ih =>
    rw [Event.terminals_append, Forest.terminals_events, headD_append]
    exact hFills.headD_mem_heads ih
  | close _ ih => exact ih

namespace Goal

theorem Clear.of_append {above goals : List Goal} (h : Clear (above ++ goals)) : Clear goals := by
  induction above with
  | nil => exact h
  | cons goal above ih =>
    cases goal with
    | phrase phrase => exact ih h.2
    | close production => exact ih h.2

theorem Clear.not_mem_heads {phrase : Phrase} {below : List Goal} {symbol : Symbol}
    (h : Clear (.phrase phrase :: below)) (hMem : symbol ∈ phrase.continuations) :
    symbol ∉ heads below := by
  cases phrase with
  | part part | choice choice => cases hMem
  | repeated separators item inner => exact h.1.1.1 symbol hMem
  | optional lead item inner =>
    cases List.mem_singleton.mp hMem
    exact h.1.1.1

theorem Clear.goesOnSafely {goals : List Goal} (h : Clear goals) : GoesOnSafely goals := by
  intro above below phrase events hGoals hBelow next hNext hMem
  subst hGoals
  have hHead := hBelow.headD_mem_heads (Token.symbol_endOfInput 0)
  rw [List.headD_eq_head?_getD, Option.mem_def.mp hNext] at hHead
  exact h.of_append.not_mem_heads hMem hHead

end Goal

section Runs

variable {σ τ : Type} [TokenSource σ] [Observer τ]

theorem Run.step_of_accept {source next : σ} {token : Token} {goals rest : List Goal}
    {events : List Event} (hNext : TokenSource.next source = (.ok token, next))
    (h : predict token.symbol goals = ⟨events, .accept rest⟩) (observer : τ) :
    (Run.mk source observer goals).step =
      .going ⟨next, Observer.notifyAll (events ++ [.terminal token]) observer, rest⟩ := by
  rw [step_of_ok hNext, meet, h, Observer.notifyAll_append]
  rfl

theorem Run.clear_of_step {run next : Run σ τ} (h : run.step = .going next)
    (hClear : Goal.Clear run.goals) : Goal.Clear next.goals := by
  obtain ⟨token, -, hGoing, -⟩ := course_of_step_going h
  exact hClear.of_course hGoing

theorem Run.Reaches.clear {run last : Run σ τ} (h : run.Reaches last)
    (hClear : Goal.Clear run.goals) : Goal.Clear last.goals := by
  induction h with
  | refl run => exact hClear
  | step hStep _ ih => exact ih (clear_of_step hStep hClear)

theorem Run.Reaches.goesOnSafely {source : σ} {observer : τ} {run : Run σ τ}
    (h : (Run.start source observer).Reaches run) : Goal.GoesOnSafely run.goals :=
  (h.clear clear_startGoals).goesOnSafely

end Runs

theorem Tree.derives_of_walked {tree : Tree}
    (hRun : (Analysis.run (.new (Padded.ofProducer tree.leaves) Recording.empty)).1 = .ok ())
    (hEvents :
      (Analysis.run (.new (Padded.ofProducer tree.leaves) Recording.empty)).2.observer.events =
        tree.events ++ [.success]) : tree.Derives .statementPart := by
  have hEnd := (Analysis.run_list_eq_ok_iff_succeeded tree.leaves Recording.empty).mp hRun
  obtain ⟨other, hOther, -, hWalk⟩ := exists_tree_of_succeeded hEnd
  have hSame : tree.events ++ [.success] = (listCourse tree.leaves).events ++ [.success] := by
    rw [← hEvents]
    exact Analysis.recorded_run_list tree.leaves hEnd
  have hEq : other = tree :=
    Tree.events_injective (hWalk.trans (List.append_cancel_right hSame).symm)
  rwa [hEq] at hOther

/-- No part of a program stops in front of a token with which it could have gone on.  So a run,
whatever its source and its observer, may go on with each repetition and each option among its
goals: what would come if it were ended begins with no token that continues it. -/
theorem going_on_is_safe :
    (∀ tree : Tree, tree.Derives .statementPart → tree.Maximal) ∧
      ∀ {σ τ : Type} [TokenSource σ] [Observer τ] (source : σ) (observer : τ) (run : Run σ τ),
        (Run.start source observer).Reaches run → Goal.GoesOnSafely run.goals := by
  constructor
  · intro tree hTree
    exact hTree.maximal
  · intro σ τ _ _ source observer run hReaches
    exact hReaches.goesOnSafely

def comparison : Tree :=
  .node .condition [.leaf (.ofText .identifier "a" 1),
    .node .conditionalOperator [.leaf (.fixed .lessThan 1)], .leaf (.ofText .identifier "b" 1)]

def bracketAssignment : Tree :=
  .node .assignmentStatement [.leaf (.ofText .identifier "c" 2), .leaf (.fixed .becomes 2),
    .node .expression [.node .term [.node .factor [.leaf (.fixed .leftParen 2),
      .node .expression [.node .term [.node .factor [.leaf (.ofText .identifier "d" 2)]]],
      .leaf (.fixed .rightParen 2)]]]]

def closingWords : List Tree := [.leaf (.fixed .endWord 3), .leaf (.fixed .ifWord 3)]

def oneArmedIf : Tree :=
  .node .ifStatement (.leaf (.fixed .ifWord 1) :: comparison :: .leaf (.fixed .thenWord 1) ::
    .node .statementList [.node .statement [bracketAssignment]] :: closingWords)

def oneArmedProgram : Tree :=
  .node .statementPart [.leaf (.fixed .beginWord 0),
    .node .statementList [.node .statement [oneArmedIf]], .leaf (.fixed .endWord 4)]

def oneArmedRun : Run (Padded (List Token)) Unit :=
  .start (.ofProducer oneArmedProgram.leaves) ()

def behindBegin : Run (Padded (List Token)) Unit where
  source := ⟨oneArmedProgram.leaves.drop 1, 0, false⟩
  observer := ()
  goals := Nonterminal.statementPart.goals.drop 1

def behindIf : Run (Padded (List Token)) Unit where
  source := ⟨oneArmedProgram.leaves.drop 2, 1, false⟩
  observer := ()
  goals := Nonterminal.ifStatement.goals.drop 1 ++ (Nonterminal.statement.goals.drop 1 ++
    (Nonterminal.statementList.goals.drop 1 ++ Nonterminal.statementPart.goals.drop 2))

theorem oneArmedRun_reaches_behindIf : oneArmedRun.Reaches behindIf := by
  have hBegin : predict .beginWord startGoals =
      ⟨[.commence .statementPart], .accept behindBegin.goals⟩ := by decide +kernel
  have hIf : predict .ifWord behindBegin.goals =
      ⟨[.commence .statementList, .commence .statement, .commence .ifStatement],
        .accept behindIf.goals⟩ := by decide +kernel
  have hFirst : TokenSource.next oneArmedRun.source =
      (.ok (.fixed .beginWord 0), behindBegin.source) := rfl
  have hSecond : TokenSource.next behindBegin.source =
      (.ok (.fixed .ifWord 1), behindIf.source) := rfl
  exact .step (Run.step_of_accept hFirst hBegin ()) (.step (Run.step_of_accept hSecond hIf ())
    (.refl behindIf))

theorem oneArmedProgram_going_on_is_safe :
    oneArmedProgram.Derives .statementPart ∧
      oneArmedIf.Occurs [.fixed .beginWord 0] [.fixed .endWord 4] oneArmedProgram ∧
      (∀ token, Tree.leaf token ∈ closingWords → token.symbol ≠ .elseWord) ∧
      StartsOutside [.elseWord] (Forest.leaves closingWords ++ [.fixed .endWord 4]) ∧
      oneArmedRun.Reaches behindIf ∧ Goal.GoesOnSafely behindIf.goals := by
  have hTree : oneArmedProgram.Derives .statementPart :=
    Tree.derives_of_walked (by decide +kernel) (by decide +kernel)
  have hOccurs : oneArmedIf.Occurs [.fixed .beginWord 0] [.fixed .endWord 4] oneArmedProgram :=
    @Tree.Occurs.child _ .statementPart [.leaf (.fixed .beginWord 0)] [.leaf (.fixed .endWord 4)]
      _ _ _ (@Tree.Occurs.child _ .statementList [] [] _ _ _
        (@Tree.Occurs.child _ .statement [] [] _ _ _ .here))
  have hElse : ∀ token, Tree.leaf token ∈ closingWords → token.symbol ≠ .elseWord := by
    simp [closingWords, Token.fixed]
  have hReaches : oneArmedRun.Reaches behindIf := oneArmedRun_reaches_behindIf
  exact ⟨hTree, hOccurs, hElse, (going_on_is_safe.1 oneArmedProgram hTree).thenList hOccurs hElse,
    hReaches, going_on_is_safe.2 _ _ behindIf hReaches⟩

end TallyCheck
