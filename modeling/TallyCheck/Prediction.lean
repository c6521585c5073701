import TallyCheck.Event
import TallyCheck.Grammar.Expectation

/-! # Following the grammar by one symbol of lookahead

The state of an analysis is a stack of goals.  Given the symbol that comes next, the goals on top
are expanded, skipped or closed until the symbol is accepted or rejected, or nothing is left to do
at the end of the input.  No token is asked for here.
-/
namespace TallyCheck
set_option autoImplicit false

inductive Goal where
  | phrase (phrase : Phrase)
  | close (production : Nonterminal)
  deriving DecidableEq

/-- The productions still open below a stack of goals, innermost first. -/
def Goal.enclosing (goals : List Goal) : List Nonterminal :=
  goals.filterMap fun
    | .phrase _ => none
    | .close production => some production

def Nonterminal.goals (category : Nonterminal) : List Goal :=
  category.phrases.map Goal.phrase ++ [.close category]

def Branch.goals (branch : Branch) : List Goal :=
  branch.parts.map fun part => .phrase (.part part)

inductive Verdict where
  | accept (rest : List Goal)
  | reject (expected : Expectation) (rest : List Goal)
  | complete
  deriving DecidableEq

structure Prediction where
  events : List Event
  verdict : Verdict
  deriving DecidableEq

def Prediction.after (event : Event) (prediction : Prediction) : Prediction :=
  { prediction with events := event :: prediction.events }

namespace Prediction

/-- How many expansions a nonterminal needs at most before a terminal is reached. -/
def categoryRank : Nonterminal → Nat
  | .statementList | .expression => 4
  | .statement | .term => 3
  | .conditionalOperator | .factor => 2
  | _ => 1

def choiceRank : Choice → Nat
  | .assignmentValue => 5
  | .statement => 2
  | _ => 1

/-- Bounds the steps taken before a symbol is accepted or rejected. -/
def work : List Goal → Nat
  | [] => 0
  | .close _ :: goals => work goals + 1
  | .phrase (.part (.terminal _ _)) :: _ => 0
  | .phrase (.part (.nonterminal category)) :: _ => categoryRank category
  | .phrase (.choice choice) :: _ => choiceRank choice
  | .phrase (.repeated _ _ _) :: goals => work goals + 1
  | .phrase (.optional _ _ _) :: goals => work goals + 1

theorem work_goals_lt (category : Nonterminal) (goals : List Goal) :
    work (category.goals ++ goals) < categoryRank category := by
  cases category <;> exact Nat.lt_succ_self _

theorem parts_ne_nil_and_work_lt (choice : Choice) : ∀ branch ∈ choice.branches,
    branch.parts ≠ [] ∧ work branch.goals < choiceRank choice := by
  cases choice <;> decide

theorem work_branch_lt {choice : Choice} {branch : Branch} (h : branch ∈ choice.branches)
    (goals : List Goal) : work (branch.goals ++ goals) < choiceRank choice := by
  obtain ⟨hParts, hWork⟩ := parts_ne_nil_and_work_lt choice branch h
  obtain ⟨leads, parts⟩ := branch
  cases parts with
  | nil => exact absurd rfl hParts
  | cons part parts => cases part <;> exact hWork

end Prediction

/-- The events reported before the symbol is judged, and the verdict on it. -/
def predict (lookahead : Symbol) (goals : List Goal) : Prediction :=
  match goals with
  | [] =>
    ⟨[], if lookahead = .endOfInput then .complete else .reject (.symbol .endOfInput) []⟩
  | .close production :: rest => (predict lookahead rest).after (.finish production)
  | .phrase (.part (.terminal symbol _)) :: rest =>
    ⟨[], if lookahead = symbol then .accept rest else .reject (.symbol symbol) rest⟩
  | .phrase (.part (.nonterminal category)) :: rest =>
    (predict lookahead (category.goals ++ rest)).after (.commence category)
  | .phrase (.choice choice) :: rest =>
    match _h : choice.branch? lookahead with
    | some branch => predict lookahead (branch.goals ++ rest)
    | none => ⟨[], .reject (.choice choice) rest⟩
  | .phrase (.repeated separators item inner) :: rest =>
    if lookahead ∈ separators then
      ⟨[], .accept (.phrase (.part item) :: .phrase (.repeated separators item inner) :: rest)⟩
    else predict lookahead rest
  | .phrase (.optional lead item _) :: rest =>
    if lookahead = lead then ⟨[], .accept (.phrase (.part item) :: rest)⟩
    else predict lookahead rest
termination_by Prediction.work goals
decreasing_by
  · exact Nat.lt_succ_self _
  · exact Prediction.work_goals_lt category rest
  · exact Prediction.work_branch_lt (List.mem_of_find?_eq_some _h) rest
  · exact Nat.lt_succ_self _
  · exact Nat.lt_succ_self _

section Equations

attribute [local simp] predict

theorem predict_close (lookahead : Symbol) (production : Nonterminal) (goals : List Goal) :
    predict lookahead (.close production :: goals) =
      (predict lookahead goals).after (.finish production) := by
  simp

theorem predict_nonterminal (lookahead : Symbol) (category : Nonterminal) (goals : List Goal) :
    predict lookahead (.phrase (.part (.nonterminal category)) :: goals) =
      (predict lookahead (category.goals ++ goals)).after (.commence category) := by
  simp

theorem predict_nil (lookahead : Symbol) :
    predict lookahead [] =
      ⟨[], if lookahead = .endOfInput then .complete else .reject (.symbol .endOfInput) []⟩ := by
  simp

theorem predict_terminal (lookahead symbol : Symbol) (inner : symbol ≠ .endOfInput)
    (goals : List Goal) :
    predict lookahead (.phrase (.part (.terminal symbol inner)) :: goals) =
      ⟨[], if lookahead = symbol then .accept goals else .reject (.symbol symbol) goals⟩ := by
  simp

theorem predict_choice_of_some {lookahead : Symbol} {choice : Choice} {branch : Branch}
    (h : choice.branch? lookahead = some branch) (goals : List Goal) :
    predict lookahead (.phrase (.choice choice) :: goals) =
      predict lookahead (branch.goals ++ goals) := by
  rw [predict]
  split
  · rename_i other hOther
    cases h.symm.trans hOther
    rfl
  · rename_i hNone
    cases h.symm.trans hNone

theorem predict_choice_of_none {lookahead : Symbol} {choice : Choice}
    (h : choice.branch? lookahead = none) (goals : List Goal) :
    predict lookahead (.phrase (.choice choice) :: goals) =
      ⟨[], .reject (.choice choice) goals⟩ := by
  rw [predict]
  split
  · rename_i branch hBranch
    cases h.symm.trans hBranch
  · rfl

theorem predict_repeated_of_not_mem {lookahead : Symbol} {separators : List Symbol}
    (h : lookahead ∉ separators) (item : Part) (inner : .endOfInput ∉ separators)
    (goals : List Goal) :
    predict lookahead (.phrase (.repeated separators item inner) :: goals) =
      predict lookahead goals := by
  simp [h]

theorem predict_optional_of_ne {lookahead lead : Symbol} (h : lookahead ≠ lead) (item : Part)
    (inner : lead ≠ .endOfInput) (goals : List Goal) :
    predict lookahead (.phrase (.optional lead item inner) :: goals) = predict lookahead goals := by
  simp [h]

end Equations

theorem predict_accept_ne_endOfInput {lookahead : Symbol} {goals rest : List Goal}
    (h : (predict lookahead goals).verdict = .accept rest) : lookahead ≠ .endOfInput := by
  revert h
  fun_induction predict lookahead goals with
  | case1 => split <;> exact nofun
  | case2 production rest ih => exact ih
  | case3 symbol hInner rest =>
    split
    · rename_i hSymbol
      exact fun _ => hSymbol ▸ hInner
    · exact nofun
  | case4 category rest ih => exact ih
  | case5 choice rest branch hBranch ih => exact ih
  | case6 => exact nofun
  | case7 separators item hInner rest hMem =>
    rintro - rfl
    exact hInner hMem
  | case8 separators item hInner rest hMem ih => exact ih
  | case9 item rest hInner => exact fun _ => hInner
  | case10 lead item hInner rest hLead ih => exact ih

end TallyCheck
