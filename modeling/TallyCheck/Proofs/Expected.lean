import TallyCheck.Proofs.Description
import TallyCheck.Proofs.GoalHeads
import TallyCheck.Proofs.ScanFailure

/-! # What was expected where a token is rejected

Each symbol expected would have been accepted in the place of the token rejected, behind the same
events; and where a choice failed, no other symbol would have been.
-/
namespace TallyCheck
set_option autoImplicit false

/-- At the front of the goals nothing can be skipped or closed. -/
def Goal.Firm : List Goal → Prop
  | .phrase (.part _) :: _ | .phrase (.choice _) :: _ => True
  | _ => False

theorem Nonterminal.firm_goals (category : Nonterminal) (goals : List Goal) :
    Goal.Firm (category.goals ++ goals) := by
  cases category <;> trivial

theorem Branch.firm_goals {choice : Choice} {branch : Branch} (h : branch ∈ choice.branches)
    (goals : List Goal) : Goal.Firm (branch.goals ++ goals) := by
  obtain ⟨hParts, -⟩ := Prediction.parts_ne_nil_and_work_lt choice branch h
  obtain ⟨leads, parts⟩ := branch
  cases parts with
  | nil => exact absurd rfl hParts
  | cons part parts => trivial

theorem predict_events_of_firm {symbol : Symbol} {goals : List Goal} (h : Goal.Firm goals) :
    ∃ opened : List Nonterminal, (predict symbol goals).events = opened.map Event.commence := by
  fun_induction predict symbol goals with
  | case1 | case2 | case8 | case10 => exact h.elim
  | case3 | case6 | case7 | case9 => exact ⟨[], rfl⟩
  | case4 category goals ih =>
    obtain ⟨opened, hEvents⟩ := ih (category.firm_goals goals)
    exact ⟨category :: opened, congrArg (Event.commence category :: ·) hEvents⟩
  | case5 choice goals branch hBranch ih =>
    exact ih (Branch.firm_goals (List.mem_of_find?_eq_some hBranch) goals)

theorem predict_branch_passes {choice : Choice} {branch : Branch} {symbol : Symbol}
    (h : choice.branch? symbol = some branch) (goals : List Goal) :
    (predict symbol (branch.goals ++ goals)).verdict.Passes := by
  rw [predict_passes_iff, Goal.heads_branch_goals (List.mem_of_find?_eq_some h)]
  simpa using List.find?_some h

/-- The symbol judged passes behind the events `before`.  Only productions are entered in between,
and none where one symbol alone is expected. -/
def Prediction.PassesBehind (expected : Expectation) (before : List Event)
    (prediction : Prediction) : Prop :=
  prediction.verdict.Passes ∧ ∃ opened : List Nonterminal,
    prediction.events = before ++ opened.map Event.commence ∧
      ∀ only, expected = .symbol only → opened = []

theorem Prediction.PassesBehind.after {expected : Expectation} {before : List Event}
    {prediction : Prediction} (h : prediction.PassesBehind expected before) (event : Event) :
    (prediction.after event).PassesBehind expected (event :: before) := by
  obtain ⟨hPasses, opened, hEvents, hNone⟩ := h
  exact ⟨hPasses, opened, congrArg (event :: ·) hEvents, hNone⟩

theorem predict_nil_passesBehind :
    (predict .endOfInput []).PassesBehind (.symbol .endOfInput) [] := by
  rw [predict_nil, if_pos rfl]
  exact ⟨trivial, [], rfl, fun _ _ => rfl⟩

theorem predict_terminal_passesBehind (symbol : Symbol) (inner : symbol ≠ .endOfInput)
    (goals : List Goal) :
    (predict symbol (.phrase (.part (.terminal symbol inner)) :: goals)).PassesBehind
      (.symbol symbol) [] := by
  rw [predict_terminal, if_pos rfl]
  exact ⟨trivial, [], rfl, fun _ _ => rfl⟩

theorem predict_choice_passesBehind {symbol : Symbol} {choice : Choice}
    (hMem : symbol ∈ choice.leads) (goals : List Goal) :
    (predict symbol (.phrase (.choice choice) :: goals)).PassesBehind (.choice choice) [] := by
  have hFirm : Goal.Firm (.phrase (.choice choice) :: goals) := trivial
  obtain ⟨opened, hEvents⟩ : ∃ opened : List Nonterminal,
      (predict symbol (.phrase (.choice choice) :: goals)).events = opened.map Event.commence :=
    predict_events_of_firm hFirm
  refine ⟨(predict_passes_iff _ _).mpr hMem, opened, hEvents, ?_⟩
  intro only hOnly
  cases hOnly

theorem predict_repeated_of_passes {symbol : Symbol} {separators : List Symbol} {item : Part}
    {inner : .endOfInput ∉ separators} {goals : List Goal}
    (hClear : Goal.Clear (.phrase (.repeated separators item inner) :: goals))
    (hPasses : (predict symbol goals).verdict.Passes) :
    predict symbol (.phrase (.repeated separators item inner) :: goals) = predict symbol goals := by
  apply predict_repeated_of_not_mem
  intro hSeparator
  exact hClear.1.1.1 symbol hSeparator ((predict_passes_iff symbol goals).mp hPasses)

theorem predict_optional_of_passes {symbol lead : Symbol} {item : Part}
    {inner : lead ≠ .endOfInput} {goals : List Goal}
    (hClear : Goal.Clear (.phrase (.optional lead item inner) :: goals))
    (hPasses : (predict symbol goals).verdict.Passes) :
    predict symbol (.phrase (.optional lead item inner) :: goals) = predict symbol goals := by
  apply predict_optional_of_ne
  rintro rfl
  exact hClear.1.1.1 ((predict_passes_iff symbol goals).mp hPasses)

/-- A symbol that was expected where another is rejected passes there. -/
theorem predict_of_expected {found symbol : Symbol} {goals rest : List Goal}
    {expected : Expectation} (hClear : Goal.Clear goals) (hMem : symbol ∈ expected.symbols)
    (h : (predict found goals).verdict = .reject expected rest) :
    (predict symbol goals).PassesBehind expected (predict found goals).events := by
  revert h
  fun_induction predict found goals with
  | case1 =>
    intro h
    split at h
    · cases h
    · cases h
      cases List.mem_singleton.mp hMem
      exact predict_nil_passesBehind
  | case2 production goals ih =>
    intro h
    rw [predict_close]
    exact (ih hClear.2 h).after (.finish production)
  | case3 only inner goals =>
    intro h
    split at h
    · cases h
    · cases h
      cases List.mem_singleton.mp hMem
      exact predict_terminal_passesBehind symbol inner rest
  | case4 category goals ih =>
    intro h
    rw [predict_nonterminal]
    exact (ih hClear.nonterminal_goals h).after (.commence category)
  | case5 choice goals branch hBranch ih =>
    intro h
    have hPasses := predict_branch_passes hBranch goals
    rw [h] at hPasses
    exact hPasses.elim
  | case6 choice goals hNone =>
    intro h
    cases h
    exact predict_choice_passesBehind hMem rest
  | case7 | case9 =>
    intro h
    cases h
  | case8 separators item inner goals hFound ih =>
    intro h
    have hBehind := ih hClear.2 h
    rwa [predict_repeated_of_passes hClear hBehind.1]
  | case10 lead item inner goals hFound ih =>
    intro h
    have hBehind := ih hClear.2 h
    rwa [predict_optional_of_passes hClear hBehind.1]

theorem Choice.endOfInput_not_mem_leads (choice : Choice) : .endOfInput ∉ choice.leads := by
  cases choice <;> decide

theorem predict_endOfInput_of_expected {found : Symbol} {goals rest : List Goal}
    {expected : Expectation} (hClear : Goal.Clear goals) (hMem : .endOfInput ∈ expected.symbols)
    (h : (predict found goals).verdict = .reject expected rest) :
    predict .endOfInput goals = ⟨(predict found goals).events, .complete⟩ := by
  obtain ⟨hPasses, opened, hEvents, hNone⟩ := predict_of_expected hClear hMem h
  obtain rfl : opened = [] := by
    cases expected with
    | symbol only => exact hNone only rfl
    | choice choice => exact absurd hMem choice.endOfInput_not_mem_leads
  rw [List.map_nil, List.append_nil] at hEvents
  cases hVerdict : (predict .endOfInput goals).verdict with
  | accept onward => exact absurd rfl (predict_accept_ne_endOfInput hVerdict)
  | complete => rw [← hEvents, ← hVerdict]
  | reject other others =>
    rw [hVerdict] at hPasses
    exact hPasses.elim

theorem Choice.leads_ne_nil (choice : Choice) : choice.leads ≠ [] := by
  cases choice <;> decide

theorem exists_lead_mem_heads {found : Symbol} {goals rest : List Goal} {choice : Choice}
    (hClear : Goal.Clear goals)
    (h : (predict found goals).verdict = .reject (.choice choice) rest) :
    ∃ lead ∈ choice.leads, lead ∈ Goal.heads goals := by
  obtain ⟨lead, hLead⟩ := List.exists_mem_of_ne_nil _ choice.leads_ne_nil
  obtain ⟨hPasses, -⟩ := predict_of_expected hClear hLead h
  exact ⟨lead, hLead, (predict_passes_iff lead goals).mp hPasses⟩

/-- Where a choice rejects one symbol it rejects every other with which it does not go on. -/
theorem predict_of_unexpected {found symbol : Symbol} {goals rest : List Goal} {choice : Choice}
    (hClear : Goal.Clear goals) (hMem : symbol ∉ choice.leads)
    (h : (predict found goals).verdict = .reject (.choice choice) rest) :
    predict symbol goals = predict found goals := by
  revert h
  fun_induction predict found goals with
  | case1 | case3 =>
    intro h
    split at h <;> cases h
  | case2 production goals ih =>
    intro h
    rw [predict_close, ih hClear.2 h]
  | case4 category goals ih =>
    intro h
    rw [predict_nonterminal, ih hClear.nonterminal_goals h]
  | case5 other goals branch hBranch ih =>
    intro h
    have hPasses := predict_branch_passes hBranch goals
    rw [h] at hPasses
    exact hPasses.elim
  | case6 other goals hNone =>
    intro h
    cases h
    have hBranch : choice.branch? symbol = none := by
      rw [← Option.not_isSome_iff_eq_none, choice.branch?_isSome_iff]
      exact hMem
    exact predict_choice_of_none hBranch rest
  | case7 | case9 =>
    intro h
    cases h
  | case8 separators item inner goals hFound ih =>
    intro h
    obtain ⟨lead, hLead, hHeads⟩ := exists_lead_mem_heads hClear.2 h
    exact absurd hHeads ((hClear.1.2 choice).1 lead hLead)
  | case10 lead item inner goals hFound ih =>
    intro h
    obtain ⟨other, hOther, hHeads⟩ := exists_lead_mem_heads hClear.2 h
    exact absurd hHeads ((hClear.1.2 choice).1 other hOther)

end TallyCheck
