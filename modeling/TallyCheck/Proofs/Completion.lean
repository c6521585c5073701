import TallyCheck.Proofs.Course
import TallyCheck.Proofs.Unfolding

/-! # Completions

The events with which a stack of goals can be met to the end: a walk around a forest for each
phrase, and the end of each production still open.  Whatever an analysis has reported continues
to a walk around a derivation tree, since there is a completion for every stack of goals.
-/
namespace TallyCheck
set_option autoImplicit false

inductive Completes : List Goal → List Event → Prop where
  | nil : Completes [] []
  | phrase {phrase : Phrase} {trees : List Tree} {goals : List Goal} {events : List Event}
      (fills : Fills [phrase] trees) (rest : Completes goals events) :
      Completes (.phrase phrase :: goals) (Forest.events trees ++ events)
  | close {category : Nonterminal} {goals : List Goal} {events : List Event}
      (rest : Completes goals events) :
      Completes (.close category :: goals) (.finish category :: events)

theorem Choice.branches_ne_nil (choice : Choice) : choice.branches ≠ [] := by
  cases choice <;> exact List.cons_ne_nil _ _

def Fillable (phrases : List Phrase) : Prop := ∃ trees, Fills phrases trees

namespace Fillable

theorem nil : Fillable [] := ⟨[], .nil⟩

theorem terminal {symbol : Symbol} {inner : symbol ≠ .endOfInput} {phrases : List Phrase}
    (h : Fillable phrases) : Fillable (.part (.terminal symbol inner) :: phrases) := by
  obtain ⟨trees, hTrees⟩ := h
  have hLeaf : Fills (.part (.terminal (Token.fixed symbol 0).symbol inner) :: phrases)
      (.leaf (.fixed symbol 0) :: trees) := .terminal hTrees
  exact ⟨_, hLeaf⟩

theorem nonterminal {category : Nonterminal} {phrases : List Phrase}
    (hInside : Fillable category.phrases) (h : Fillable phrases) :
    Fillable (.part (.nonterminal category) :: phrases) := by
  obtain ⟨children, hChildren⟩ := hInside
  obtain ⟨trees, hTrees⟩ := h
  exact ⟨.node category children :: trees, .nonterminal hChildren hTrees⟩

theorem choice {choice : Choice} (branch : Branch) {phrases : List Phrase}
    (h : Fillable (branch.parts.map Phrase.part ++ phrases)) (hMem : branch ∈ choice.branches) :
    Fillable (.choice choice :: phrases) := by
  obtain ⟨trees, hTrees⟩ := h
  exact ⟨trees, .choice hMem hTrees⟩

theorem repeated {separators : List Symbol} {item : Part} {inner : .endOfInput ∉ separators}
    {phrases : List Phrase} (h : Fillable phrases) :
    Fillable (.repeated separators item inner :: phrases) := by
  obtain ⟨trees, hTrees⟩ := h
  exact ⟨trees, .repeatedEnd hTrees⟩

theorem optional {lead : Symbol} {item : Part} {inner : lead ≠ .endOfInput}
    {phrases : List Phrase} (h : Fillable phrases) :
    Fillable (.optional lead item inner :: phrases) := by
  obtain ⟨trees, hTrees⟩ := h
  exact ⟨trees, .optionalSkip hTrees⟩

theorem phrases (category : Nonterminal) : Fillable category.phrases := by
  have hFactor : Fillable Nonterminal.factor.phrases :=
    choice ⟨[.identifier], [.terminal .identifier]⟩ (terminal nil) (by decide)
  have hTerm : Fillable Nonterminal.term.phrases := nonterminal hFactor (repeated nil)
  have hExpression : Fillable Nonterminal.expression.phrases := nonterminal hTerm (repeated nil)
  have hAssignment : Fillable Nonterminal.assignmentStatement.phrases :=
    terminal (terminal (choice ⟨[.stringConstant], [.terminal .stringConstant]⟩ (terminal nil)
      (by decide)))
  have hStatement : Fillable Nonterminal.statement.phrases :=
    choice ⟨[.identifier], [.nonterminal .assignmentStatement]⟩ (nonterminal hAssignment nil)
      (by decide)
  have hList : Fillable Nonterminal.statementList.phrases := nonterminal hStatement (repeated nil)
  have hOperator : Fillable Nonterminal.conditionalOperator.phrases :=
    choice ⟨[.equal], [.terminal .equal]⟩ (terminal nil) (by decide)
  have hCondition : Fillable Nonterminal.condition.phrases :=
    terminal (nonterminal hOperator (choice ⟨[.identifier], [.terminal .identifier]⟩
      (terminal nil) (by decide)))
  have hArguments : Fillable Nonterminal.argumentList.phrases := terminal (repeated nil)
  cases category with
  | statementPart => exact terminal (nonterminal hList (terminal nil))
  | statementList => exact hList
  | statement => exact hStatement
  | assignmentStatement => exact hAssignment
  | ifStatement =>
    exact terminal (nonterminal hCondition (terminal (nonterminal hList (optional
      (terminal (terminal nil))))))
  | whileStatement =>
    exact terminal (nonterminal hCondition (terminal (nonterminal hList (terminal
      (terminal nil)))))
  | procedureStatement =>
    exact terminal (terminal (terminal (nonterminal hArguments (terminal nil))))
  | untilStatement => exact terminal (nonterminal hList (terminal (nonterminal hCondition nil)))
  | forStatement =>
    exact terminal (terminal (nonterminal hAssignment (terminal (nonterminal hCondition (terminal
      (nonterminal hAssignment (terminal (terminal (nonterminal hList (terminal
      (terminal nil)))))))))))
  | argumentList => exact hArguments
  | condition => exact hCondition
  | conditionalOperator => exact hOperator
  | expression => exact hExpression
  | term => exact hTerm
  | factor => exact hFactor

theorem parts (parts : List Part) : Fillable (parts.map Phrase.part) := by
  induction parts with
  | nil => exact nil
  | cons part parts ih =>
    cases part with
    | terminal symbol inner => exact terminal ih
    | nonterminal category => exact nonterminal (phrases category) ih

theorem phrase (phrase : Phrase) : Fillable [phrase] := by
  cases phrase with
  | part part => exact parts [part]
  | choice kind =>
    obtain ⟨branch, hMem⟩ := List.exists_mem_of_ne_nil _ kind.branches_ne_nil
    refine choice branch ?_ hMem
    rw [List.append_nil]
    exact parts branch.parts
  | repeated separators item inner => exact repeated nil
  | optional lead item inner => exact optional nil

end Fillable

namespace Completes

theorem exists_fills (phrases : List Phrase) {goals : List Goal} {events : List Event}
    (h : Completes (phrases.map Goal.phrase ++ goals) events) :
    ∃ trees rest, Fills phrases trees ∧ Completes goals rest ∧
      events = Forest.events trees ++ rest := by
  induction phrases generalizing events with
  | nil => exact ⟨[], events, .nil, h, rfl⟩
  | cons phrase phrases ih =>
    cases h with
    | phrase hFills hRest =>
      obtain ⟨trees, rest, hTrees, hGoals, rfl⟩ := ih hRest
      refine ⟨_, rest, hFills.append hTrees, hGoals, ?_⟩
      rw [Forest.events_append, List.append_assoc]

theorem nonterminal {category : Nonterminal} {goals : List Goal} {events : List Event}
    (h : Completes (category.goals ++ goals) events) :
    Completes (.phrase (.part (.nonterminal category)) :: goals)
      (.commence category :: events) := by
  rw [Nonterminal.goals_append] at h
  obtain ⟨children, rest, hChildren, hRest, rfl⟩ := exists_fills _ h
  cases hRest with
  | close hRest =>
    have hTree := Completes.phrase (.nonterminal hChildren .nil) hRest
    simpa [Forest.events, Tree.events] using hTree

theorem choice {choice : Choice} {branch : Branch} {goals : List Goal} {events : List Event}
    (hMem : branch ∈ choice.branches) (h : Completes (branch.goals ++ goals) events) :
    Completes (.phrase (.choice choice) :: goals) events := by
  rw [Branch.goals_eq] at h
  obtain ⟨trees, rest, hTrees, hRest, rfl⟩ := exists_fills _ h
  refine .phrase (.choice hMem ?_) hRest
  rwa [List.append_nil]

theorem repeatedNext {separators : List Symbol} {item : Part} {inner : .endOfInput ∉ separators}
    {token : Token} {goals : List Goal} {events : List Event} (hMem : token.symbol ∈ separators)
    (h : Completes (.phrase (.part item) :: .phrase (.repeated separators item inner) :: goals)
      events) :
    Completes (.phrase (.repeated separators item inner) :: goals)
      (.terminal token :: events) := by
  obtain ⟨trees, rest, hTrees, hRest, rfl⟩ :=
    exists_fills [.part item, .repeated separators item inner] h
  exact .phrase (.repeatedNext hMem hTrees) hRest

theorem optionalTake {token : Token} {item : Part} {inner : token.symbol ≠ .endOfInput}
    {goals : List Goal} {events : List Event}
    (h : Completes (.phrase (.part item) :: goals) events) :
    Completes (.phrase (.optional token.symbol item inner) :: goals)
      (.terminal token :: events) := by
  obtain ⟨trees, rest, hTrees, hRest, rfl⟩ := exists_fills [.part item] h
  exact .phrase (.optionalTake hTrees) hRest

theorem exists_completes (goals : List Goal) : ∃ events, Completes goals events := by
  induction goals with
  | nil => exact ⟨[], .nil⟩
  | cons goal goals ih =>
    obtain ⟨events, hEvents⟩ := ih
    cases goal with
    | phrase phrase =>
      obtain ⟨trees, hTrees⟩ := Fillable.phrase phrase
      exact ⟨_, .phrase hTrees hEvents⟩
    | close category => exact ⟨_, .close hEvents⟩

end Completes

/-- What completes the goals behind a verdict, the token judged included. -/
inductive Verdict.Completes (token : Token) : Verdict → List Event → Prop where
  | accept {goals : List Goal} {events : List Event} (rest : TallyCheck.Completes goals events) :
      Completes token (.accept goals) (.terminal token :: events)
  | complete : Completes token .complete []

inductive Standing.Completes : Standing → List Event → Prop where
  | going {goals : List Goal} {events : List Event} (rest : TallyCheck.Completes goals events) :
      Completes (.going goals) events
  | succeeded : Completes (.ended .succeeded) []

namespace Completes

theorem of_predict {token : Token} {goals : List Goal} {events : List Event}
    (h : (predict token.symbol goals).verdict.Completes token events) :
    Completes goals ((predict token.symbol goals).events ++ events) := by
  revert h
  fun_induction predict token.symbol goals with
  | case1 =>
    intro h
    split at h
    · cases h
      exact .nil
    · cases h
  | case2 production goals ih => exact fun h => .close (ih h)
  | case3 symbol hInner goals =>
    intro h
    split at h
    · rename_i hSymbol
      subst hSymbol
      cases h with
      | accept hRest => exact .phrase (.terminal .nil) hRest
    · cases h
  | case4 category goals ih => exact fun h => .nonterminal (ih h)
  | case5 choice goals branch hBranch ih =>
    exact fun h => .choice (List.mem_of_find?_eq_some hBranch) (ih h)
  | case6 =>
    intro h
    cases h
  | case7 separators item hInner goals hMem =>
    rintro ⟨hRest⟩
    exact .repeatedNext hMem hRest
  | case8 separators item hInner goals hMem ih =>
    exact fun h => .phrase (.repeatedEnd .nil) (ih h)
  | case9 item goals hInner =>
    rintro ⟨hRest⟩
    exact .optionalTake hRest
  | case10 lead item hInner goals hLead ih => exact fun h => .phrase (.optionalSkip .nil) (ih h)

theorem of_course {answers : List Answer} {goals : List Goal} {events : List Event}
    (h : (course goals answers).standing.Completes events) :
    Completes goals ((course goals answers).events ++ events) := by
  induction answers generalizing goals with
  | nil =>
    cases h with
    | going hRest => exact hRest
  | cons answer answers ih =>
    cases answer with
    | error error => cases h
    | ok token =>
      rw [course_ok, Prediction.course] at h ⊢
      split at h
      · rename_i rest hVerdict
        have hAccept : (predict token.symbol goals).verdict.Completes token
            (.terminal token :: ((course rest answers).events ++ events)) := by
          rw [hVerdict]
          exact .accept (ih h)
        simpa [hVerdict] using of_predict hAccept
      · rename_i hVerdict
        cases h
        have hComplete : (predict token.symbol goals).verdict.Completes token [] := by
          rw [hVerdict]
          exact .complete
        simpa using of_predict hComplete
      · cases h

end Completes
end TallyCheck
