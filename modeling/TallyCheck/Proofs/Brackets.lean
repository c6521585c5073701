import TallyCheck.Proofs.Nesting

/-! # Productions as brackets

Of any events whatever, those that enter and leave productions are a word of brackets, of as many
kinds as there are productions.  What is left open is what stands unmatched between balanced words;
and where there is no such reading of the word, there is no answer either.
-/
namespace TallyCheck.Event
set_option autoImplicit false

def isBracket : Event → Bool
  | commence _ | finish _ => true
  | _ => false

def brackets (events : List Event) : List Event := events.filter isBracket

inductive Balanced : List Event → Prop where
  | nil : Balanced []
  | enclose {production : Nonterminal} {inside behind : List Event} (inner : Balanced inside)
      (outer : Balanced behind) :
      Balanced (.commence production :: (inside ++ .finish production :: behind))

/-- `LeavesOpen word productions`: the word is balanced but for one more bracket that opens each of
the productions, the outermost first. -/
inductive LeavesOpen : List Event → List Nonterminal → Prop where
  | none {word : List Event} (balanced : Balanced word) : LeavesOpen word []
  | more {front back : List Event} {production : Nonterminal} {productions : List Nonterminal}
      (balanced : Balanced front) (rest : LeavesOpen back productions) :
      LeavesOpen (front ++ .commence production :: back) (production :: productions)

theorem replay_brackets (stack : List Nonterminal) (events : List Event) :
    replay stack (brackets events) = replay stack events := by
  fun_induction replay stack events with
  | case1 => rfl
  | case2 stack production events ih => exact ih
  | case3 production events => rfl
  | case4 events production outer ih => exact (if_pos rfl).trans ih
  | case5 production events innermost outer hNe => exact if_neg hNe
  | case6 stack event events hCommence hFinish ih =>
    have hOther : event.isBracket = false := by
      cases event with
      | commence production => exact (hCommence production rfl).elim
      | finish production => exact (hFinish production rfl).elim
      | _ => rfl
    rw [brackets, List.filter_cons_of_neg (by simp [hOther])]
    exact ih

namespace Balanced

theorem append {front back : List Event} (hFront : Balanced front) (hBack : Balanced back) :
    Balanced (front ++ back) := by
  induction hFront with
  | nil => exact hBack
  | enclose hInner _ _ ih =>
    rw [List.cons_append, List.append_assoc]
    exact .enclose hInner ih

theorem replay_append {word : List Event} (h : Balanced word) (stack : List Nonterminal)
    (more : List Event) : replay stack (word ++ more) = replay stack more := by
  induction h generalizing stack more with
  | nil => rfl
  | enclose _ _ ihInner ihOuter =>
    rw [List.cons_append, List.append_assoc, replay, ihInner, List.cons_append, replay, if_pos rfl,
      ihOuter]

end Balanced

namespace LeavesOpen

variable {word : List Event} {productions : List Nonterminal}

theorem replay_eq (h : LeavesOpen word productions) (stack : List Nonterminal) :
    replay stack word = some (productions.reverse ++ stack) := by
  induction h generalizing stack with
  | none hBalanced =>
    have hReplay := hBalanced.replay_append stack []
    rwa [List.append_nil] at hReplay
  | @more front back production productions hBalanced _ ih =>
    rw [hBalanced.replay_append, replay, ih, List.reverse_cons, List.append_assoc]
    rfl

theorem append (h : LeavesOpen word productions) {back : List Event} {others : List Nonterminal}
    (hBack : LeavesOpen back others) : LeavesOpen (word ++ back) (productions ++ others) := by
  induction h with
  | none hBalanced =>
    cases hBack with
    | none hMore => exact .none (hBalanced.append hMore)
    | more hMore hRest =>
      rw [← List.append_assoc]
      exact .more (hBalanced.append hMore) hRest
  | more hBalanced _ ih =>
    rw [List.append_assoc]
    exact .more hBalanced ih

theorem commence (h : LeavesOpen word productions) (production : Nonterminal) :
    LeavesOpen (word ++ [.commence production]) (productions ++ [production]) :=
  h.append (.more .nil (.none .nil))

theorem exists_innermost {production : Nonterminal}
    (h : LeavesOpen word (productions ++ [production])) :
    ∃ front back, LeavesOpen front productions ∧ Balanced back ∧
      word = front ++ .commence production :: back := by
  induction productions generalizing word with
  | nil =>
    cases h with
    | more hBalanced hRest =>
      cases hRest with
      | none hBack => exact ⟨_, _, .none hBalanced, hBack, rfl⟩
  | cons outermost productions ih =>
    cases h with
    | more hBalanced hRest =>
      obtain ⟨front, back, hFront, hBack, rfl⟩ := ih hRest
      refine ⟨_, back, .more hBalanced hFront, hBack, ?_⟩
      rw [List.append_assoc, List.cons_append]

theorem finish {production : Nonterminal} (h : LeavesOpen word (productions ++ [production])) :
    LeavesOpen (word ++ [.finish production]) productions := by
  obtain ⟨front, back, hFront, hBack, rfl⟩ := h.exists_innermost
  have hClosed : LeavesOpen (.commence production :: (back ++ [.finish production])) [] :=
    .none (.enclose hBack .nil)
  have hWhole := hFront.append hClosed
  rwa [List.append_nil, ← List.cons_append, ← List.append_assoc] at hWhole

theorem of_replay {stack left : List Nonterminal} {events : List Event}
    (h : LeavesOpen word stack.reverse) (hReplay : replay stack events = some left) :
    LeavesOpen (word ++ brackets events) left.reverse := by
  fun_induction replay stack events generalizing word with
  | case1 =>
    cases hReplay
    rwa [brackets, List.filter_nil, List.append_nil]
  | case2 stack production events ih =>
    have hOpened := h.commence production
    rw [← List.reverse_cons] at hOpened
    have hRest := ih hOpened hReplay
    rwa [List.append_assoc] at hRest
  | case3 | case5 => cases hReplay
  | case4 events production outer ih =>
    rw [List.reverse_cons] at h
    have hRest := ih h.finish hReplay
    rwa [List.append_assoc] at hRest
  | case6 stack event events hCommence hFinish ih =>
    cases event with
    | commence production => exact (hCommence production rfl).elim
    | finish production => exact (hFinish production rfl).elim
    | _ => exact ih h hReplay

end LeavesOpen

theorem stillOpen_eq_some_iff (events : List Event) (productions : List Nonterminal) :
    stillOpen events = some productions ↔ LeavesOpen (brackets events) productions := by
  constructor
  · intro h
    obtain ⟨left, hReplay, rfl⟩ := Option.map_eq_some_iff.mp h
    exact LeavesOpen.of_replay (.none .nil) hReplay
  · intro h
    rw [stillOpen, ← replay_brackets, h.replay_eq, List.append_nil, Option.map_some,
      List.reverse_reverse]

theorem stillOpen_append (front back : List Event) :
    stillOpen (front ++ back) =
      (stillOpen front).bind fun productions =>
        (replay productions.reverse back).map List.reverse := by
  rw [stillOpen, replay_append, stillOpen]
  cases replay [] front with
  | none => rfl
  | some left => simp

/-- The productions that events leave open are those of the brackets that have no partner, read as a
word of the bracket language; there are none to tell exactly if the events cannot be read so. -/
theorem stillOpen_reads_brackets :
    (∀ (events : List Event) (productions : List Nonterminal),
      stillOpen events = some productions ↔ LeavesOpen (brackets events) productions) ∧
    (∀ events : List Event,
      stillOpen events = none ↔ ¬ ∃ productions, LeavesOpen (brackets events) productions) ∧
    (∀ events added : List Event, Balanced (brackets added) →
      stillOpen (events ++ added) = stillOpen events) ∧
    ∀ events added : List Event, stillOpen events = none → stillOpen (events ++ added) = none := by
  refine ⟨stillOpen_eq_some_iff, ?_, ?_, ?_⟩
  · intro events
    simp only [← stillOpen_eq_some_iff, Option.eq_none_iff_forall_ne_some, ne_eq, not_exists]
  · intro events added hBalanced
    have hAdded (stack : List Nonterminal) : replay stack added = some stack := by
      rw [← replay_brackets]
      exact LeavesOpen.replay_eq (.none hBalanced) stack
    rw [stillOpen_append]
    simp [hAdded]
  · intro events added hNone
    rw [stillOpen_append, hNone]
    rfl

def crossed : List Event := [.commence .expression, .commence .term, .finish .expression]

def oneFactor : List Event :=
  [.commence .factor, .terminal (.ofText .numberConstant "7" 0), .finish .factor, .success]

theorem crossed_oneFactor_reads_brackets :
    stillOpen crossed = none ∧ stillOpen (crossed ++ [.finish .term]) = none ∧
      Balanced (brackets oneFactor) ∧
      stillOpen ([.commence .expression, .commence .term] ++ oneFactor) =
        some [.expression, .term] := by
  have hCrossed : stillOpen crossed = none := rfl
  have hBalanced : Balanced (brackets oneFactor) := .enclose .nil .nil
  obtain ⟨-, -, hAppend, hNone⟩ := stillOpen_reads_brackets
  exact ⟨hCrossed, hNone _ _ hCrossed, hBalanced, hAppend _ _ hBalanced⟩

end TallyCheck.Event
