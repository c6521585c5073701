import TallyCheck.Proofs.Expected

/-! # Productions open in the course of a run

The productions left open by the events of a run are those whose end is still among its goals.  The
start production is the outermost of them from the first token taken until the end of the program.
-/
namespace TallyCheck
set_option autoImplicit false

namespace Event

/- A walk around a tree leaves the productions open that were so before. -/
mutual
theorem replay_tree (stack : List Nonterminal) (tree : Tree) (more : List Event) :
    replay stack (tree.events ++ more) = replay stack more := by
  cases tree with
  | leaf token => rfl
  | node category children =>
    rw [Tree.events, List.cons_append, List.append_assoc, replay, replay_forest]
    exact if_pos rfl

theorem replay_forest (stack : List Nonterminal) (trees : List Tree) (more : List Event) :
    replay stack (Forest.events trees ++ more) = replay stack more := by
  cases trees with
  | nil => rfl
  | cons tree trees =>
    rw [Forest.events, List.append_assoc, replay_tree stack tree, replay_forest stack trees]
end

theorem replay_append (stack : List Nonterminal) (front back : List Event) :
    replay stack (front ++ back) = (replay stack front).bind fun left => replay left back := by
  fun_induction replay stack front with
  | case1 => rfl
  | case2 stack production events ih => exact ih
  | case3 production events =>
    rw [List.cons_append, replay]
    rfl
  | case4 production events outer ih =>
    rw [List.cons_append, replay, if_pos rfl]
    exact ih
  | case5 production events innermost outer hNe =>
    rw [List.cons_append, replay, if_neg hNe]
    rfl
  | case6 stack event events hCommence hFinish ih =>
    rw [List.cons_append, replay]
    · exact ih
    · exact hCommence
    · exact hFinish

end Event

namespace Goal

@[simp] theorem enclosing_append (front back : List Goal) :
    enclosing (front ++ back) = enclosing front ++ enclosing back :=
  List.filterMap_append

@[simp] theorem enclosing_phrases (phrases : List Phrase) :
    enclosing (phrases.map phrase) = [] := by
  induction phrases with
  | nil => rfl
  | cons first phrases ih => exact ih

@[simp] theorem enclosing_nonterminal (category : Nonterminal) :
    enclosing category.goals = [category] := by
  rw [Nonterminal.goals, enclosing_append, enclosing_phrases]
  rfl

@[simp] theorem enclosing_branch (branch : Branch) : enclosing branch.goals = [] := by
  rw [Branch.goals_eq, enclosing_phrases]

end Goal

def Verdict.left : Verdict → List Goal
  | .accept rest | .reject _ rest => rest
  | .complete => []

theorem replay_predict (symbol : Symbol) (goals : List Goal) :
    Event.replay (Goal.enclosing goals) (predict symbol goals).events =
      some (Goal.enclosing (predict symbol goals).verdict.left) := by
  fun_induction predict symbol goals with
  | case1 => split <;> rfl
  | case2 production goals ih => exact (if_pos rfl).trans ih
  | case3 expected inner goals => split <;> rfl
  | case4 category goals ih =>
    rw [Goal.enclosing_append, Goal.enclosing_nonterminal] at ih
    exact ih
  | case5 choice goals branch hBranch ih =>
    rw [Goal.enclosing_append, Goal.enclosing_branch] at ih
    exact ih
  | case6 | case7 | case9 => rfl
  | case8 separators item inner goals hMem ih => exact ih
  | case10 lead item inner goals hLead ih => exact ih

theorem replay_course_of_going {answers : List Answer} {goals rest : List Goal}
    (h : (course goals answers).standing = .going rest) :
    Event.replay (Goal.enclosing goals) (course goals answers).events =
      some (Goal.enclosing rest) := by
  induction answers generalizing goals with
  | nil =>
    cases h
    rfl
  | cons answer answers ih =>
    cases answer with
    | error error => cases h
    | ok token =>
      rw [course_ok, Prediction.course] at h ⊢
      split at h
      · rename_i left hVerdict
        have hPredict := replay_predict token.symbol goals
        rw [hVerdict] at hPredict
        simp only [Course.events_after, List.append_assoc]
        rw [Event.replay_append, hPredict]
        exact ih h
      · cases h
      · cases h

/-- The end of the start production is the last of the goals. -/
def Goal.Anchored (goals : List Goal) : Prop := ∃ inner, goals = inner ++ [.close .statementPart]

namespace Goal.Anchored

theorem cons {goals : List Goal} (goal : Goal) (h : Anchored goals) : Anchored (goal :: goals) := by
  obtain ⟨inner, rfl⟩ := h
  exact ⟨goal :: inner, rfl⟩

theorem append {goals : List Goal} (front : List Goal) (h : Anchored goals) :
    Anchored (front ++ goals) := by
  obtain ⟨inner, rfl⟩ := h
  exact ⟨front ++ inner, (List.append_assoc _ _ _).symm⟩

theorem of_close {goals : List Goal} {category : Nonterminal}
    (h : Anchored (.close category :: goals) ∨ .close category :: goals = []) :
    Anchored goals ∨ goals = [] := by
  rcases h with ⟨inner, hGoals⟩ | h
  · cases inner with
    | nil =>
      cases hGoals
      exact .inr rfl
    | cons goal inner =>
      cases hGoals
      exact .inl ⟨inner, rfl⟩
  · cases h

theorem of_phrase {goals : List Goal} {first : Phrase}
    (h : Anchored (.phrase first :: goals) ∨ .phrase first :: goals = []) : Anchored goals := by
  rcases h with ⟨inner, hGoals⟩ | h
  · cases inner with
    | nil => cases hGoals
    | cons goal inner =>
      cases hGoals
      exact ⟨inner, rfl⟩
  · cases h

theorem enclosing_ne_nil {goals : List Goal} (h : Anchored goals) : enclosing goals ≠ [] := by
  obtain ⟨inner, rfl⟩ := h
  rw [enclosing_append]
  exact List.append_ne_nil_of_right_ne_nil _ (List.cons_ne_nil _ _)

end Goal.Anchored

/-- The start production is open behind the verdict, or the end of the input was missed. -/
def Verdict.Anchored : Verdict → Prop
  | .accept rest => Goal.Anchored rest
  | .complete => True
  | .reject expected rest => Goal.Anchored rest ∨ rest = [] ∧ expected = .symbol .endOfInput

theorem Goal.Anchored.predict {symbol : Symbol} {goals : List Goal}
    (h : Anchored goals ∨ goals = []) : (TallyCheck.predict symbol goals).verdict.Anchored := by
  fun_induction TallyCheck.predict symbol goals with
  | case1 =>
    split
    · trivial
    · exact .inr ⟨rfl, rfl⟩
  | case2 production goals ih => exact ih (of_close h)
  | case3 expected inner goals =>
    split
    · exact of_phrase h
    · exact .inl (of_phrase h)
  | case4 category goals ih => exact ih (.inl ((of_phrase h).append _))
  | case5 choice goals branch hBranch ih => exact ih (.inl ((of_phrase h).append _))
  | case6 choice goals hNone => exact .inl (of_phrase h)
  | case7 separators item inner goals hMem => exact ((of_phrase h).cons _).cons _
  | case8 separators item inner goals hMem ih => exact ih (.inl (of_phrase h))
  | case9 item goals inner => exact (of_phrase h).cons _
  | case10 lead item inner goals hLead ih => exact ih (.inl (of_phrase h))

theorem anchored_predict_start (symbol : Symbol) :
    (predict symbol startGoals).verdict.Anchored := by
  have hStart : Goal.Anchored (Nonterminal.statementPart.goals ++ []) := ⟨_, List.append_nil _⟩
  have hPredict : predict symbol startGoals = _ := predict_nonterminal symbol .statementPart []
  rw [hPredict]
  exact Goal.Anchored.predict (.inl hStart)

theorem anchored_of_going {answers : List Answer} {goals rest : List Goal}
    (hGoals : ∀ symbol, (predict symbol goals).verdict.Anchored)
    (h : (course goals answers).standing = .going rest) :
    (answers = [] ∧ rest = goals) ∨ Goal.Anchored rest := by
  induction answers generalizing goals with
  | nil =>
    cases h
    exact .inl ⟨rfl, rfl⟩
  | cons answer answers ih =>
    cases answer with
    | error error => cases h
    | ok token =>
      have hToken := hGoals token.symbol
      rw [course_ok, Prediction.course] at h
      split at h
      · rename_i left hVerdict
        rw [hVerdict] at hToken
        rcases ih (fun symbol => Goal.Anchored.predict (.inl hToken)) h with ⟨-, rfl⟩ | hRest
        · exact .inr hToken
        · exact .inr hRest
      · cases h
      · cases h

end TallyCheck
