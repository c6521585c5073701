import TallyCheck.Event
import TallyCheck.Grammar.Derivation

/-! # Derivation trees

Trees with tokens at the leaves and nonterminals above them, and which of them the grammar allows.
A tree can be read back from the events met on a walk around it.
-/
namespace TallyCheck
set_option autoImplicit false

inductive Tree where
  | leaf (token : Token)
  | node (category : Nonterminal) (children : List Tree)

/- The tokens at the leaves, from left to right. -/
mutual
def Tree.leaves : Tree → List Token
  | .leaf token => [token]
  | .node _ children => Forest.leaves children

def Forest.leaves : List Tree → List Token
  | [] => []
  | tree :: trees => tree.leaves ++ Forest.leaves trees
end

/- The events met on a walk around the tree, from left to right. -/
mutual
def Tree.events : Tree → List Event
  | .leaf token => [.terminal token]
  | .node category children => .commence category :: (Forest.events children ++ [.finish category])

def Forest.events : List Tree → List Event
  | [] => []
  | tree :: trees => tree.events ++ Forest.events trees
end

/-- `Grows parts trees`: the trees stand on the parts one for one, and the children of each node
stand on a right-hand side of its nonterminal. -/
inductive Grows : List Part → List Tree → Prop where
  | nil : Grows [] []
  | leaf {token : Token} {inner : token.symbol ≠ .endOfInput} {parts : List Part}
      {trees : List Tree} (rest : Grows parts trees) :
      Grows (.terminal token.symbol inner :: parts) (.leaf token :: trees)
  | node {category : Nonterminal} {body parts : List Part} {children trees : List Tree}
      (production : Produces category body) (inside : Grows body children)
      (rest : Grows parts trees) :
      Grows (.nonterminal category :: parts) (.node category children :: trees)

/-- A derivation tree of a nonterminal. -/
def Tree.Derives (category : Nonterminal) (tree : Tree) : Prop :=
  Grows [.nonterminal category] [tree]

@[simp] theorem Forest.leaves_append (front back : List Tree) :
    leaves (front ++ back) = leaves front ++ leaves back := by
  induction front with
  | nil => rfl
  | cons tree front ih => simp only [List.cons_append, leaves, ih, List.append_assoc]

@[simp] theorem Forest.events_append (front back : List Tree) :
    events (front ++ back) = events front ++ events back := by
  induction front with
  | nil => rfl
  | cons tree front ih => simp only [List.cons_append, events, ih, List.append_assoc]

/- A walk meets the leaves. -/
mutual
theorem Tree.terminals_events (tree : Tree) : Event.terminals tree.events = tree.leaves := by
  cases tree with
  | leaf token => rfl
  | node category children =>
    rw [Tree.leaves, ← Forest.terminals_events children]
    simp [Tree.events]

theorem Forest.terminals_events (trees : List Tree) :
    Event.terminals (Forest.events trees) = Forest.leaves trees := by
  cases trees with
  | nil => rfl
  | cons tree trees =>
    rw [Forest.events, Forest.leaves, Event.terminals_append, Tree.terminals_events tree,
      Forest.terminals_events trees]
end

theorem Tree.events_append_ne_finish_cons (tree : Tree) (category : Nonterminal)
    (front back : List Event) : tree.events ++ front ≠ .finish category :: back := by
  cases tree <;> simp [events]

/- A walk around a tree shows where the tree ends, and one around a forest does when a node is
finished behind it. -/
mutual
theorem Tree.events_append_inj {left right : Tree} {front back : List Event}
    (h : left.events ++ front = right.events ++ back) : left = right ∧ front = back := by
  cases left with
  | leaf token =>
    cases right with
    | leaf other => simpa [Tree.events] using h
    | node category children => simp [Tree.events] at h
  | node category children =>
    cases right with
    | leaf token => simp [Tree.events] at h
    | node other others =>
      simp only [Tree.events, List.cons_append, List.append_assoc, List.nil_append,
        List.cons.injEq, Event.commence.injEq] at h
      obtain ⟨rfl, hInside⟩ := h
      obtain ⟨rfl, -, rfl⟩ := Forest.events_append_finish_inj hInside
      exact ⟨rfl, rfl⟩

theorem Forest.events_append_finish_inj {left right : List Tree}
    {leftCategory rightCategory : Nonterminal} {front back : List Event}
    (h : Forest.events left ++ .finish leftCategory :: front =
      Forest.events right ++ .finish rightCategory :: back) :
    left = right ∧ leftCategory = rightCategory ∧ front = back := by
  cases left with
  | nil =>
    cases right with
    | nil => simpa [Forest.events] using h
    | cons tree trees =>
      rw [Forest.events, Forest.events, List.append_assoc] at h
      exact absurd h.symm (tree.events_append_ne_finish_cons _ _ _)
  | cons tree trees =>
    cases right with
    | nil =>
      rw [Forest.events, Forest.events, List.append_assoc] at h
      exact absurd h (tree.events_append_ne_finish_cons _ _ _)
    | cons other others =>
      rw [Forest.events, Forest.events, List.append_assoc, List.append_assoc] at h
      obtain ⟨rfl, hRest⟩ := Tree.events_append_inj h
      obtain ⟨rfl, hEnd⟩ := Forest.events_append_finish_inj hRest
      exact ⟨rfl, hEnd⟩
end

theorem Tree.events_injective {left right : Tree} (h : left.events = right.events) :
    left = right :=
  (events_append_inj (congrArg (· ++ []) h)).1

namespace Grows

theorem derives {parts : List Part} {trees : List Tree} (h : Grows parts trees) :
    Derives parts ((Forest.leaves trees).map Token.symbol) := by
  induction h with
  | nil => exact .nil
  | leaf _ ih => exact .terminal ih
  | node hProduction _ _ ihInside ih =>
    rw [Forest.leaves, List.map_append]
    exact .nonterminal hProduction ihInside ih

theorem exists_tree {category : Nonterminal} {trees : List Tree}
    (h : Grows [.nonterminal category] trees) :
    ∃ tree : Tree, trees = [tree] ∧ tree.Derives category := by
  cases h with
  | node hProduction hInside hRest =>
    cases hRest
    exact ⟨_, rfl, .node hProduction hInside .nil⟩

end Grows

theorem Derives.exists_grows {parts : List Part} {word : List Symbol} (h : Derives parts word) :
    ∀ tokens : List Token, tokens.map Token.symbol = word →
      ∃ trees, Grows parts trees ∧ Forest.leaves trees = tokens := by
  induction h with
  | nil =>
    intro tokens hTokens
    cases List.map_eq_nil_iff.mp hTokens
    exact ⟨[], .nil, rfl⟩
  | terminal _ ih =>
    intro tokens hTokens
    obtain ⟨token, tokens, rfl, rfl, hRest⟩ := List.map_eq_cons_iff.mp hTokens
    obtain ⟨trees, hGrows, hLeaves⟩ := ih tokens hRest
    refine ⟨.leaf token :: trees, .leaf hGrows, ?_⟩
    rw [Forest.leaves, Tree.leaves, hLeaves, List.singleton_append]
  | nonterminal hProduction _ _ ihInside ih =>
    intro tokens hTokens
    obtain ⟨front, back, rfl, hFront, hBack⟩ := List.map_eq_append_iff.mp hTokens
    obtain ⟨children, hChildren, hInside⟩ := ihInside front hFront
    obtain ⟨trees, hGrows, hLeaves⟩ := ih back hBack
    refine ⟨.node _ children :: trees, .node hProduction hChildren hGrows, ?_⟩
    rw [Forest.leaves, Tree.leaves, hInside, hLeaves]

theorem derives_iff_exists_tree (category : Nonterminal) (tokens : List Token) :
    Derives [.nonterminal category] (tokens.map Token.symbol) ↔
      ∃ tree : Tree, tree.Derives category ∧ tree.leaves = tokens := by
  constructor
  · intro h
    obtain ⟨trees, hGrows, hLeaves⟩ := Derives.exists_grows h tokens rfl
    obtain ⟨tree, rfl, hTree⟩ := hGrows.exists_tree
    exact ⟨tree, hTree, by simpa [Forest.leaves] using hLeaves⟩
  · rintro ⟨tree, hTree, rfl⟩
    have hWord := Grows.derives hTree
    rwa [Forest.leaves, Forest.leaves, List.append_nil] at hWord

theorem sentence_iff_exists_tree (tokens : List Token) :
    Sentence (tokens.map Token.symbol) ↔
      ∃ tree : Tree, tree.Derives .statementPart ∧ tree.leaves = tokens :=
  derives_iff_exists_tree .statementPart tokens

end TallyCheck
