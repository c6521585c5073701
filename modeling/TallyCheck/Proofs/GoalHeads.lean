import TallyCheck.Proofs.Course
import TallyCheck.Proofs.Lookahead

/-! # What a stack of goals goes on with

The symbols that come next where goals are to be met, with end-of-input behind the last of them:
these are the symbols not rejected.  Every goal met in a run is clear in front of what the goals
behind it go on with, so that a symbol expected behind a repetition does not continue it.
-/
namespace TallyCheck
set_option autoImplicit false

theorem heads_mono {behind more : List Symbol} (h : behind ⊆ more) (phrases : List Phrase) :
    heads behind phrases ⊆ heads more phrases := by
  induction phrases with
  | nil => exact h
  | cons phrase phrases ih =>
    cases phrase with
    | part part => cases part <;> exact List.Subset.refl _
    | choice choice => exact List.Subset.refl _
    | repeated separators item inner =>
      exact List.append_subset.mpr ⟨List.subset_append_left _ _,
        List.Subset.trans ih (List.subset_append_right _ _)⟩
    | optional lead item inner => exact List.cons_subset_cons lead ih

theorem Part.Admits.mono {next more : List Symbol} {part : Part} (h : next ⊆ more)
    (hAdmits : part.Admits more) : part.Admits next := by
  cases part with
  | terminal symbol inner => trivial
  | nonterminal category => exact List.Subset.trans h hAdmits

theorem Part.Clear.mono {behind more : List Symbol} {parts : List Part} (h : behind ⊆ more)
    (hClear : Part.Clear more parts) : Part.Clear behind parts := by
  induction parts with
  | nil => trivial
  | cons part parts ih => exact ⟨hClear.1.mono (heads_mono h _), ih hClear.2⟩

theorem Clear.mono {behind more : List Symbol} {phrases : List Phrase} (h : behind ⊆ more)
    (hClear : Clear more phrases) : Clear behind phrases := by
  induction phrases with
  | nil => trivial
  | cons phrase phrases ih =>
    have hHeads := heads_mono h phrases
    cases phrase with
    | part part => exact ⟨hClear.1.mono hHeads, ih hClear.2⟩
    | choice choice =>
      exact ⟨fun branch hMem => (hClear.1 branch hMem).mono hHeads, ih hClear.2⟩
    | repeated separators item inner =>
      obtain ⟨hDisjoint, hAdmits, hClear⟩ := hClear
      have hMore : separators ++ heads behind phrases ⊆ separators ++ heads more phrases :=
        List.append_subset.mpr ⟨List.subset_append_left _ _,
          List.Subset.trans hHeads (List.subset_append_right _ _)⟩
      exact ⟨fun separator hMem hHead => hDisjoint separator hMem (hHeads hHead),
        hAdmits.mono hMore, ih hClear⟩
    | optional lead item inner =>
      obtain ⟨hLead, hAdmits, hClear⟩ := hClear
      exact ⟨fun hHead => hLead (hHeads hHead), hAdmits.mono hHeads, ih hClear⟩

theorem clear_cons {behind : List Symbol} {phrase : Phrase} {phrases : List Phrase} :
    Clear behind (phrase :: phrases) ↔ Clear (heads behind phrases) [phrase] ∧
      Clear behind phrases := by
  cases phrase <;> simp [Clear, heads, and_assoc]

/-- Behind a repetition or an option comes no symbol with which the choice goes on. -/
def Apart (choice : Choice) (behind : List Symbol) : List Phrase → Prop
  | [] => True
  | .part _ :: phrases | .choice _ :: phrases => Apart choice behind phrases
  | .repeated _ _ _ :: phrases | .optional _ _ _ :: phrases =>
    (∀ lead ∈ choice.leads, lead ∉ heads behind phrases) ∧ Apart choice behind phrases

instance Apart.decidable (choice : Choice) (behind : List Symbol) :
    DecidablePred (Apart choice behind)
  | [] => .isTrue trivial
  | .part _ :: phrases | .choice _ :: phrases => Apart.decidable choice behind phrases
  | .repeated _ _ _ :: phrases | .optional _ _ _ :: phrases =>
    have := Apart.decidable choice behind phrases
    inferInstanceAs (Decidable ((∀ lead ∈ choice.leads, lead ∉ heads behind phrases) ∧
      Apart choice behind phrases))

theorem Nonterminal.apart_phrases (category : Nonterminal) (choice : Choice) :
    Apart choice category.follow category.phrases := by
  cases category <;> cases choice <;> decide

theorem Apart.mono {choice : Choice} {behind more : List Symbol} {phrases : List Phrase}
    (h : behind ⊆ more) (hApart : Apart choice more phrases) : Apart choice behind phrases := by
  induction phrases with
  | nil => trivial
  | cons phrase phrases ih =>
    cases phrase with
    | part part => exact ih hApart
    | choice other => exact ih hApart
    | repeated separators item inner | optional lead item inner =>
      exact ⟨fun lead hMem hHead => hApart.1 lead hMem (heads_mono h _ hHead), ih hApart.2⟩

theorem apart_cons {choice : Choice} {behind : List Symbol} {phrase : Phrase}
    {phrases : List Phrase} : Apart choice behind (phrase :: phrases) ↔
      Apart choice (heads behind phrases) [phrase] ∧ Apart choice behind phrases := by
  cases phrase <;> simp [Apart, heads]

theorem apart_parts (choice : Choice) (behind : List Symbol) (parts : List Part) :
    Apart choice behind (parts.map Phrase.part) := by
  induction parts with
  | nil => trivial
  | cons part parts ih => exact ih

namespace Goal

/-- The symbols with which the goals can be met. -/
def heads : List Goal → List Symbol
  | [] => [.endOfInput]
  | .close _ :: goals => heads goals
  | .phrase first :: goals => TallyCheck.heads (heads goals) [first]

def Clear : List Goal → Prop
  | [] => True
  | .close production :: goals => heads goals ⊆ production.follow ∧ Clear goals
  | .phrase first :: goals =>
    (TallyCheck.Clear (heads goals) [first] ∧ ∀ choice, Apart choice (heads goals) [first]) ∧
      Clear goals

theorem heads_phrases_append (phrases : List Phrase) (goals : List Goal) :
    heads (phrases.map phrase ++ goals) = TallyCheck.heads (heads goals) phrases := by
  induction phrases with
  | nil => rfl
  | cons first phrases ih =>
    calc
      _ = TallyCheck.heads (heads (phrases.map phrase ++ goals)) [first] := rfl
      _ = TallyCheck.heads (TallyCheck.heads (heads goals) phrases) [first] := by rw [ih]
      _ = _ := (heads_append (heads goals) [first] phrases).symm

theorem heads_nonterminal_goals (category : Nonterminal) (goals : List Goal) :
    heads (category.goals ++ goals) = category.first := by
  rw [Nonterminal.goals_append, heads_phrases_append, Nonterminal.heads_phrases]

theorem heads_branch_goals {choice : Choice} {branch : Branch} (h : branch ∈ choice.branches)
    (goals : List Goal) : heads (branch.goals ++ goals) = branch.leads := by
  rw [Branch.goals_eq, heads_phrases_append, Choice.heads_parts h]

theorem clear_phrases_append {phrases : List Phrase} {goals : List Goal}
    (hClear : TallyCheck.Clear (heads goals) phrases)
    (hApart : ∀ choice, Apart choice (heads goals) phrases) (hGoals : Clear goals) :
    Clear (phrases.map phrase ++ goals) := by
  induction phrases with
  | nil => exact hGoals
  | cons first phrases ih =>
    obtain ⟨hFirst, hClear⟩ := clear_cons.mp hClear
    rw [← heads_phrases_append] at hFirst
    have hAhead : ∀ choice, Apart choice (heads (phrases.map phrase ++ goals)) [first] := by
      intro choice
      rw [heads_phrases_append]
      exact (apart_cons.mp (hApart choice)).1
    exact ⟨⟨hFirst, hAhead⟩, ih hClear fun choice => (apart_cons.mp (hApart choice)).2⟩

theorem Clear.nonterminal_goals {category : Nonterminal} {goals : List Goal}
    (h : Clear (.phrase (.part (.nonterminal category)) :: goals)) :
    Clear (category.goals ++ goals) := by
  obtain ⟨⟨⟨hFollow, -⟩, -⟩, hGoals⟩ := h
  rw [Nonterminal.goals_append]
  exact clear_phrases_append (category.clear_phrases.mono hFollow)
    (fun choice => (category.apart_phrases choice).mono hFollow) ⟨hFollow, hGoals⟩

theorem Clear.branch_goals {choice : Choice} {branch : Branch} {goals : List Goal}
    (h : Clear (.phrase (.choice choice) :: goals)) (hMem : branch ∈ choice.branches) :
    Clear (branch.goals ++ goals) := by
  obtain ⟨⟨⟨hBranches, -⟩, -⟩, hGoals⟩ := h
  have hParts : TallyCheck.Clear (heads goals) (branch.parts.map Phrase.part ++ []) :=
    Part.Clear.append (hBranches branch hMem) trivial
  rw [List.append_nil] at hParts
  rw [Branch.goals_eq]
  exact clear_phrases_append hParts (fun _ => apart_parts _ _ _) hGoals

end Goal

/-- A run goes on, or succeeds, behind such a verdict. -/
def Verdict.Passes : Verdict → Prop
  | .accept _ | .complete => True
  | .reject _ _ => False

theorem predict_passes_iff (symbol : Symbol) (goals : List Goal) :
    (predict symbol goals).verdict.Passes ↔ symbol ∈ Goal.heads goals := by
  fun_induction predict symbol goals with
  | case1 =>
    split <;> simp_all [Verdict.Passes, Goal.heads]
  | case2 production goals ih => exact ih
  | case3 expected inner goals =>
    split <;> simp_all [Verdict.Passes, Goal.heads, heads]
  | case4 category goals ih => rwa [Goal.heads_nonterminal_goals] at ih
  | case5 choice goals branch hBranch ih =>
    have hMem := List.mem_of_find?_eq_some hBranch
    have hLead : symbol ∈ branch.leads := by simpa using List.find?_some hBranch
    rw [Goal.heads_branch_goals hMem] at ih
    exact ⟨fun _ => List.mem_flatMap.mpr ⟨branch, hMem, hLead⟩, fun _ => ih.mpr hLead⟩
  | case6 choice goals hNone =>
    have hLead := not_congr (choice.branch?_isSome_iff symbol)
    rw [hNone] at hLead
    exact ⟨False.elim, fun hMem => hLead.mp (by simp) hMem⟩
  | case7 separators item inner goals hMem =>
    exact ⟨fun _ => List.mem_append_left _ hMem, fun _ => trivial⟩
  | case8 separators item inner goals hMem ih =>
    rw [ih]
    simp [Goal.heads, heads, hMem]
  | case9 item goals inner => exact ⟨fun _ => List.mem_cons_self, fun _ => trivial⟩
  | case10 lead item inner goals hLead ih =>
    rw [ih]
    simp [Goal.heads, heads, hLead]

theorem Goal.Clear.of_predict {symbol : Symbol} {goals rest : List Goal} (hClear : Clear goals)
    (h : (predict symbol goals).verdict = .accept rest) : Clear rest := by
  revert h
  fun_induction predict symbol goals with
  | case1 =>
    intro h
    split at h <;> cases h
  | case2 production goals ih => exact ih hClear.2
  | case3 expected inner goals =>
    intro h
    split at h
    · cases h
      exact hClear.2
    · cases h
  | case4 category goals ih => exact ih hClear.nonterminal_goals
  | case5 choice goals branch hBranch ih =>
    exact ih (hClear.branch_goals (List.mem_of_find?_eq_some hBranch))
  | case6 =>
    intro h
    cases h
  | case7 separators item inner goals hMem =>
    intro h
    cases h
    obtain ⟨⟨hRepeated, hApart⟩, hGoals⟩ := hClear
    have hItem : TallyCheck.Clear (separators ++ heads goals) [.part item] :=
      ⟨hRepeated.2.1, trivial⟩
    exact ⟨⟨hItem, fun _ => trivial⟩, ⟨hRepeated, hApart⟩, hGoals⟩
  | case8 separators item inner goals hMem ih => exact ih hClear.2
  | case9 item goals inner =>
    intro h
    cases h
    obtain ⟨⟨hOptional, -⟩, hGoals⟩ := hClear
    have hItem : TallyCheck.Clear (heads goals) [.part item] := ⟨hOptional.2.1, trivial⟩
    exact ⟨⟨hItem, fun _ => trivial⟩, hGoals⟩
  | case10 lead item inner goals hLead ih => exact ih hClear.2

theorem Goal.Clear.of_course {answers : List Answer} {goals rest : List Goal}
    (hClear : Clear goals) (h : (course goals answers).standing = .going rest) : Clear rest := by
  induction answers generalizing goals with
  | nil =>
    cases h
    exact hClear
  | cons answer answers ih =>
    cases answer with
    | error error => cases h
    | ok token =>
      rw [course_ok, Prediction.course] at h
      split at h
      · rename_i left hVerdict
        exact ih (hClear.of_predict hVerdict) h
      · cases h
      · cases h

end TallyCheck
