import TallyCheck.Proofs.Conclusion
import TallyCheck.Proofs.Context

/-! # How many events there are

Between two tokens at most three productions are entered, since no longer chain of productions
begins with one another.  Counted from the start, the productions entered so far are at most one
more than three times the tokens taken so far, at every moment of a run.  What is left open, the
depth of an error and the number of all events are bounded by these.
-/
namespace TallyCheck
set_option autoImplicit false

namespace Event

def isCommence : Event → Bool
  | commence _ => true
  | _ => false

def isFinish : Event → Bool
  | finish _ => true
  | _ => false

/-- How many productions have been entered. -/
def commences (events : List Event) : Nat := events.countP isCommence

def finishes (events : List Event) : Nat := events.countP isFinish

theorem commences_cons (event : Event) (events : List Event) :
    commences (event :: events) = commences events + if event.isCommence then 1 else 0 :=
  List.countP_cons

theorem finishes_cons (event : Event) (events : List Event) :
    finishes (event :: events) = finishes events + if event.isFinish then 1 else 0 :=
  List.countP_cons

theorem commences_append (front back : List Event) :
    commences (front ++ back) = commences front + commences back := List.countP_append

theorem prefix_append_cases {front first second : List Event} (h : front <+: first ++ second) :
    front <+: first ∨ ∃ back, front = first ++ back ∧ back <+: second := by
  rcases List.prefix_or_prefix_of_prefix h (List.prefix_append first second) with h' | ⟨back, rfl⟩
  · exact .inl h'
  · exact .inr ⟨back, rfl, (List.prefix_append_right_inj first).mp h⟩

theorem commences_le_of_prefix {front events : List Event} (h : front <+: events) :
    commences front ≤ commences events := h.sublist.countP_le

theorem length_of_replay {stack left : List Nonterminal} {events : List Event}
    (h : replay stack events = some left) :
    left.length + finishes events = stack.length + commences events := by
  fun_induction replay stack events with
  | case1 =>
    cases h
    rfl
  | case2 stack production events ih =>
    have hRest := ih h
    simp only [commences_cons, finishes_cons, isCommence, isFinish, List.length_cons,
      Bool.false_eq_true, if_true, if_false] at hRest ⊢
    omega
  | case3 | case5 => cases h
  | case4 events production outer ih =>
    have hRest := ih h
    simp only [commences_cons, finishes_cons, isCommence, isFinish, List.length_cons,
      Bool.false_eq_true, if_true, if_false]
    omega
  | case6 stack event events hCommence hFinish ih =>
    have hRest := ih h
    cases event with
    | commence production => exact (hCommence production rfl).elim
    | finish production => exact (hFinish production rfl).elim
    | _ => exact hRest

theorem exists_replay_of_prefix {stack left : List Nonterminal} {front events : List Event}
    (h : replay stack events = some left) (hFront : front <+: events) :
    ∃ opened, replay stack front = some opened := by
  obtain ⟨back, rfl⟩ := hFront
  rw [replay_append] at h
  obtain ⟨opened, hOpened, -⟩ := Option.bind_eq_some_iff.mp h
  exact ⟨opened, hOpened⟩

theorem length_eq_count (events : List Event) :
    events.length =
      (terminals events).length + commences events + finishes events + events.countP isLast := by
  induction events with
  | nil => rfl
  | cons event events ih =>
    rw [List.length_cons, ih, commences_cons, finishes_cons, List.countP_cons]
    cases event <;> simp only [terminals, List.filterMap_cons, token?, List.length_cons,
      isCommence, isFinish, isLast, Bool.false_eq_true, if_true, if_false] <;> omega

end Event

/-- How many productions at most are entered with this one before a symbol is judged. -/
def Nonterminal.entries : Nonterminal → Nat
  | .statementList | .expression => 3
  | .statement | .term => 2
  | _ => 1

def Choice.entries : Choice → Nat
  | .assignmentValue => 3
  | .statement => 1
  | _ => 0

/-- How many productions at most are entered before a symbol is judged. -/
def Goal.entries : List Goal → Nat
  | [] => 0
  | .close _ :: goals => entries goals
  | .phrase (.part (.terminal _ _)) :: _ => 0
  | .phrase (.part (.nonterminal category)) :: _ => category.entries
  | .phrase (.choice choice) :: _ => choice.entries
  | .phrase (.repeated _ _ _) :: goals => entries goals
  | .phrase (.optional _ _ _) :: goals => entries goals

namespace Goal

theorem entries_nonterminal_goals (category : Nonterminal) (goals : List Goal) :
    entries (category.goals ++ goals) + 1 = category.entries := by
  cases category <;> rfl

theorem entries_branch_le (choice : Choice) :
    ∀ branch ∈ choice.branches, entries branch.goals ≤ choice.entries := by
  cases choice <;> decide

theorem entries_branch_goals_le {choice : Choice} {branch : Branch}
    (h : branch ∈ choice.branches) (goals : List Goal) :
    entries (branch.goals ++ goals) ≤ choice.entries := by
  have hAlone := entries_branch_le choice branch h
  obtain ⟨hParts, -⟩ := Prediction.parts_ne_nil_and_work_lt choice branch h
  obtain ⟨leads, parts⟩ := branch
  cases parts with
  | nil => exact absurd rfl hParts
  | cons part parts => cases part <;> exact hAlone

theorem entries_le_three (goals : List Goal) : entries goals ≤ 3 := by
  fun_induction entries goals with
  | case1 | case3 => exact Nat.zero_le 3
  | case2 production goals ih => exact ih
  | case4 category goals => cases category <;> decide
  | case5 choice goals => cases choice <;> decide
  | case6 separators item inner goals ih => exact ih
  | case7 lead item inner goals ih => exact ih

end Goal

theorem commences_predict_le (symbol : Symbol) (goals : List Goal) :
    Event.commences (predict symbol goals).events ≤ Goal.entries goals := by
  fun_induction predict symbol goals with
  | case1 | case3 | case6 | case7 | case9 => exact Nat.zero_le _
  | case2 production goals ih => exact ih
  | case4 category goals ih =>
    have hGoals := Goal.entries_nonterminal_goals category goals
    calc
      _ = Event.commences (predict symbol (category.goals ++ goals)).events + 1 :=
        Event.commences_cons _ _
      _ ≤ category.entries := by omega
  | case5 choice goals branch hBranch ih =>
    exact Nat.le_trans ih (Goal.entries_branch_goals_le (List.mem_of_find?_eq_some hBranch) goals)
  | case8 separators item inner goals hMem ih => exact ih
  | case10 lead item inner goals hLead ih => exact ih

theorem commences_le_of_prefix_course {answers : List Answer} {goals : List Goal}
    {front : List Event} (h : front <+: (course goals answers).events) :
    Event.commences front ≤ Goal.entries goals + 3 * (Event.terminals front).length := by
  induction answers generalizing goals front with
  | nil =>
    obtain rfl := List.prefix_nil.mp h
    exact Nat.zero_le _
  | cons answer answers ih =>
    cases answer with
    | error error =>
      obtain rfl := List.prefix_nil.mp h
      exact Nat.zero_le _
    | ok token =>
      have hPredict := commences_predict_le token.symbol goals
      rw [course_ok, Prediction.course] at h
      split at h
      · rename_i rest _
        have hTaken : Event.commences ((predict token.symbol goals).events ++ [.terminal token]) ≤
            Goal.entries goals := by
          rw [Event.commences_append]
          exact hPredict
        rcases Event.prefix_append_cases h with hWithin | ⟨back, rfl, hBehind⟩
        · have hLe := Event.commences_le_of_prefix hWithin
          omega
        · have hBack := ih hBehind
          have hRest := Goal.entries_le_three rest
          rw [Event.commences_append, Event.terminals_append, Event.terminals_append,
            terminals_predict]
          simp only [List.nil_append, List.length_append, Event.terminals_terminal_cons,
            Event.terminals_nil, List.length_singleton]
          omega
      · have hLe := Nat.le_trans (Event.commences_le_of_prefix h) hPredict
        omega
      · have hLe := Nat.le_trans (Event.commences_le_of_prefix h) hPredict
        omega

/-- The bounds that hold of a record, at every moment and in the end. -/
structure Record.Linear (record : Record) : Prop where
  commences_le : ∀ front, front <+: record.2 →
    Event.commences front ≤ 3 * (Event.terminals front).length + 1
  stillOpen_le : ∀ front, front <+: record.2 → ∃ productions,
    Event.stillOpen front = some productions ∧
      productions.length ≤ 3 * (Event.terminals front).length + 1
  depth_le : ∀ error, record.1 = .error error →
    error.depth ≤ 3 * (Event.terminals record.2).length + 1
  length_le : record.2.length ≤ 7 * (Event.terminals record.2).length + 3

section Courses

variable {answers : List Answer} {ending : Ending}

theorem Event.commences_report (ending : Ending) : commences ending.report = 0 := by
  cases ending <;> rfl

theorem commences_le_of_prefix_record {front : List Event}
    (h : front <+: (ending.record (course startGoals answers).events).2) :
    Event.commences front ≤ 3 * (Event.terminals front).length + 1 := by
  have hStart : Goal.entries startGoals = 1 := rfl
  rcases Event.prefix_append_cases h with hWithin | ⟨back, rfl, hBehind⟩
  · have hLe := commences_le_of_prefix_course hWithin
    omega
  · have hReport := Event.commences_le_of_prefix hBehind
    have hLe := commences_le_of_prefix_course
      (List.prefix_refl (course startGoals answers).events)
    rw [Event.commences_report] at hReport
    rw [Event.commences_append, Event.terminals_append, List.length_append]
    omega

theorem exists_replay_record (h : (course startGoals answers).standing = .ended ending) :
    ∃ left, Event.replay [] (ending.record (course startGoals answers).events).2 = some left ∧
      ∀ error, (ending.record (course startGoals answers).events).1 = .error error →
        error.depth ≤ left.length := by
  cases ending with
  | succeeded =>
    refine ⟨[], ?_, nofun⟩
    rw [Ending.record, Event.replay_append, replay_of_succeeded h]
    rfl
  | rejected token expected rest =>
    refine ⟨Goal.enclosing rest, replay_report_of_rejected h _ _, ?_⟩
    rintro error ⟨⟩
    rw [ParseError.depth_eq_length_productions]
    refine Nat.le_of_eq ?_
    exact (congrArg List.length (ParseError.productions_withinAll_unexpectedToken _ _ _)).trans
      List.length_reverse
  | faulted fault =>
    obtain ⟨productions, hReplay, -⟩ := replay_of_faulted h
    refine ⟨productions, ?_, ?_⟩
    · rw [Ending.record, Event.replay_append, hReplay]
      rfl
    · rintro error ⟨⟩
      exact Nat.zero_le _

theorem isLast_record_le (answers : List Answer) (ending : Ending) :
    (ending.record (course startGoals answers).events).2.countP Event.isLast ≤ 1 := by
  have hInner : (course startGoals answers).events.countP Event.isLast = 0 := by
    rw [List.countP_eq_zero]
    intro event hMem
    simp [isLast_eq_false_of_mem_course startGoals answers event hMem]
  rw [Ending.record, List.countP_append, hInner, Nat.zero_add]
  exact Nat.le_trans List.countP_le_length ending.length_report_le

theorem Record.Linear.of_ended (h : (course startGoals answers).standing = .ended ending) :
    (ending.record (course startGoals answers).events).Linear := by
  obtain ⟨left, hReplay, hDepth⟩ := exists_replay_record h
  have hBalance := Event.length_of_replay hReplay
  have hCommences := commences_le_of_prefix_record
    (List.prefix_refl (ending.record (course startGoals answers).events).2)
  rw [List.length_nil] at hBalance
  exact
    { commences_le := fun front hFront => commences_le_of_prefix_record hFront
      stillOpen_le := by
        intro front hFront
        obtain ⟨opened, hOpened⟩ := Event.exists_replay_of_prefix hReplay hFront
        have hEntered := Event.length_of_replay hOpened
        have hLe := commences_le_of_prefix_record hFront
        refine ⟨opened.reverse, by rw [Event.stillOpen, hOpened]; rfl, ?_⟩
        rw [List.length_nil] at hEntered
        rw [List.length_reverse]
        omega
      depth_le := by
        intro error hError
        have hLe := hDepth error hError
        omega
      length_le := by
        have hAll := Event.length_eq_count (ending.record (course startGoals answers).events).2
        have hLast := isLast_record_le answers ending
        omega }

end Courses

theorem length_terminals_recordList_le (tokens : List Token) :
    (Event.terminals (recordList tokens).2).length ≤ tokens.length := by
  obtain ⟨ending, hEnd⟩ := exists_ended_listCourse tokens
  obtain ⟨accepted, answer, back, rest, hAnswers, -, -, -, hAccepted, -⟩ := course_ended hEnd
  have hTerminals : Event.terminals (recordList tokens).2 = accepted := by
    rw [recordList_eq rfl hEnd, Ending.terminals_record]
    exact hAccepted
  have hLength := congrArg List.length hAnswers
  have hBefore : (Token.beforeEnd tokens).length ≤ tokens.length :=
    (List.takeWhile_prefix _).length_le
  simp only [List.length_map, List.length_append, List.length_cons, List.length_nil] at hLength
  rw [hTerminals]
  omega

/-- With more questions than a source has tokens left, a first run comes to its end. -/
theorem Analysis.runWithin_eq_run {σ τ : Type} [FiniteSource σ] [Observer τ] {source : σ}
    {limit : Nat} (h : FiniteSource.remaining source < limit) (observer : τ) :
    (Analysis.new source observer).runWithin limit =
      some (Analysis.run (.new source observer)) := by
  have hFinish := Run.finishWithin_eq_finish limit (Run.start source observer) h
  change ((Run.start source observer).finishWithin limit).map _ = _
  rw [hFinish]
  rfl

/-- Whatever tokens there are, with an end among them or without, and whoever observes, the analysis
ends after one question for each token and one for the end. -/
theorem Analysis.run_list_linear (tokens : List Token) :
    (∀ {τ : Type} [Observer τ] (observer : τ),
      (Analysis.new (Padded.ofProducer tokens) observer).runWithin (tokens.length + 1) =
        some (Analysis.run (.new (Padded.ofProducer tokens) observer))) ∧
      (Event.terminals (recordList tokens).2).length ≤ tokens.length ∧
      (recordList tokens).Linear := by
  refine ⟨?_, length_terminals_recordList_le tokens, ?_⟩
  · intro τ _ observer
    exact Analysis.runWithin_eq_run (Nat.lt_succ_self tokens.length) observer
  · obtain ⟨ending, hEnd⟩ := exists_ended_listCourse tokens
    rw [recordList_eq rfl hEnd]
    exact .of_ended hEnd

example :
    let front := (recordList [.fixed .beginWord 0, .ofText .identifier "x" 0]).2.take 5
    Event.commences front = 4 ∧ (Event.terminals front).length = 1 := by
  decide +kernel

end TallyCheck
