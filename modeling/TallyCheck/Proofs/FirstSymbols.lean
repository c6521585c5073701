import TallyCheck.Proofs.Expected
import TallyCheck.Proofs.FirstError

/-! # The table of leading symbols

What the grammar derives from a nonterminal begins with the symbols that the table lists for it,
and with no others.  An analysis that sets out on the nonterminal judges the next token by the
same table: it enters productions, and then takes the token or rejects it.
-/
namespace TallyCheck
set_option autoImplicit false

namespace Nonterminal

theorem endOfInput_not_mem_first (category : Nonterminal) : .endOfInput ∉ category.first := by
  cases category <;> decide

theorem heads_goal (category : Nonterminal) (goals : List Goal) :
    Goal.heads (.phrase (.part (.nonterminal category)) :: goals) = category.first := rfl

theorem headD_mem_first {category : Nonterminal} {word : List Symbol}
    (h : Derives [.nonterminal category] word) (next : Symbol) :
    word.headD next ∈ category.first := by
  obtain ⟨tokens, rfl⟩ := Token.exists_map_symbol_eq word
  obtain ⟨trees, hGrows, hLeaves⟩ := h.exists_grows tokens rfl
  have hFills : Fills [.nonterminal category] trees := fills_nonterminal_iff.mpr hGrows
  have hHead : ((Forest.leaves trees).headD (.fixed next 0)).symbol ∈ category.first :=
    hFills.headD_mem_heads (List.mem_singleton_self _)
  rw [hLeaves] at hHead
  cases tokens with
  | nil => exact hHead
  | cons token tokens => exact hHead

theorem not_derives_nil (category : Nonterminal) : ¬ Derives [.nonterminal category] [] := by
  intro h
  exact category.endOfInput_not_mem_first (headD_mem_first h .endOfInput)

section Predictions

variable {category : Nonterminal} {symbol : Symbol}

theorem exists_accept_of_starts (h : category.starts symbol = true) (goals : List Goal) :
    ∃ rest, (predict symbol (.phrase (.part (.nonterminal category)) :: goals)).verdict =
      .accept rest := by
  rw [starts_iff_mem_first, ← category.heads_goal goals, ← predict_passes_iff] at h
  cases hVerdict :
    (predict symbol (.phrase (.part (.nonterminal category)) :: goals)).verdict with
  | accept rest => exact ⟨rest, rfl⟩
  | complete =>
    rw [predict_passes_iff, heads_goal, predict_complete_eq_endOfInput hVerdict] at h
    exact absurd h category.endOfInput_not_mem_first
  | reject expected rest =>
    rw [hVerdict] at h
    exact h.elim

theorem exists_reject_of_not_starts (h : category.starts symbol = false) (goals : List Goal) :
    ∃ expected rest,
      (predict symbol (.phrase (.part (.nonterminal category)) :: goals)).verdict =
        .reject expected rest := by
  have hNot :
      ¬ (predict symbol (.phrase (.part (.nonterminal category)) :: goals)).verdict.Passes := by
    rw [predict_passes_iff, heads_goal, ← starts_iff_mem_first, h]
    exact Bool.false_ne_true
  cases hVerdict :
    (predict symbol (.phrase (.part (.nonterminal category)) :: goals)).verdict with
  | accept rest | complete =>
    rw [hVerdict] at hNot
    exact absurd trivial hNot
  | reject expected rest => exact ⟨expected, rest, rfl⟩

theorem exists_derives_of_starts (h : category.starts symbol = true) :
    ∃ word, Derives [.nonterminal category] (symbol :: word) := by
  obtain ⟨rest, hAccept⟩ := exists_accept_of_starts h []
  obtain ⟨events, hEvents⟩ := Completes.exists_completes rest
  -- whatever completes the goals left behind the symbol completes a tree of the nonterminal
  have hVerdict :
      (predict symbol [.phrase (.nonterminal category)]).verdict.Completes (.fixed symbol 0)
        (.terminal (.fixed symbol 0) :: events) := by
    rw [Phrase.nonterminal, hAccept]
    exact .accept hEvents
  obtain ⟨tree, hTree, hWalk⟩ := (Completes.of_predict hVerdict).exists_tree
  have hLeaves : tree.leaves = .fixed symbol 0 :: Event.terminals events := by
    rw [← tree.terminals_events, hWalk, Event.terminals_append, terminals_predict]
    rfl
  refine ⟨(Event.terminals events).map Token.symbol, ?_⟩
  exact (derives_iff_exists_tree category (.fixed symbol 0 :: Event.terminals events)).mpr
    ⟨tree, hTree, hLeaves⟩

end Predictions

theorem starts_iff_exists_derives (category : Nonterminal) (symbol : Symbol) :
    category.starts symbol = true ↔
      ∃ word, Derives [.nonterminal category] (symbol :: word) := by
  constructor
  · exact exists_derives_of_starts
  · rintro ⟨word, hWord⟩
    rw [starts_iff_mem_first]
    exact headD_mem_first hWord symbol

/-- The first event about the token where the nonterminal is to be met. -/
def Judges (category : Nonterminal) (token : Token) : Event → Prop
  | .terminal taken => category.starts token.symbol = true ∧ taken = token
  | .error refused _ => category.starts token.symbol = false ∧ refused = token
  | .commence _ | .finish _ | .success => False

def entering (category : Nonterminal) (opened : List Nonterminal) : List Event :=
  (category :: opened).map Event.commence

theorem exists_entering (category : Nonterminal) (symbol : Symbol) (goals : List Goal) :
    ∃ opened,
      (predict symbol (.phrase (.part (.nonterminal category)) :: goals)).events =
        category.entering opened := by
  obtain ⟨opened, hOpened⟩ : ∃ opened : List Nonterminal,
      (predict symbol (category.goals ++ goals)).events = opened.map Event.commence :=
    predict_events_of_firm (category.firm_goals goals)
  refine ⟨opened, ?_⟩
  rw [predict_nonterminal]
  exact congrArg (Event.commence category :: ·) hOpened

end Nonterminal

/-- A run whose first goal is the nonterminal and whose next token is `token`: the token is judged
by the table when some productions have been entered, and nothing was reported in between. -/
structure Run.SetsOut {σ τ : Type} [TokenSource σ] [Observer τ] (category : Nonterminal)
    (token : Token) (next : σ) (run : Run σ τ) : Prop where
  takes : category.starts token.symbol = true → ∃ opened rest,
    run.step = .going ⟨next,
      Observer.notifyAll (category.entering opened ++ [.terminal token]) run.observer, rest⟩
  rejects : category.starts token.symbol = false → ∃ opened error message,
    run.step = .ended ⟨.error error, next,
      Observer.notifyAll (category.entering opened ++ [.error token message]) run.observer⟩
  /-- However the run ends, its events begin in the same way. -/
  events : ∀ limit ended, run.finishWithin limit = some ended → ∃ opened event later,
    category.Judges token event ∧
      ended.observer =
        Observer.notifyAll (category.entering opened ++ event :: later) run.observer

section Runs

variable {σ τ : Type} [TokenSource σ] [Observer τ] {source next : σ} {token : Token}
  {category : Nonterminal}

theorem Run.step_of_starts (hNext : TokenSource.next source = (.ok token, next))
    (h : category.starts token.symbol = true) (observer : τ) (goals : List Goal) :
    ∃ opened rest,
      (Run.mk source observer (.phrase (.nonterminal category) :: goals)).step =
        .going ⟨next,
          Observer.notifyAll (category.entering opened ++ [.terminal token]) observer, rest⟩ := by
  obtain ⟨rest, hVerdict⟩ := Nonterminal.exists_accept_of_starts h goals
  obtain ⟨opened, hOpened⟩ := category.exists_entering token.symbol goals
  refine ⟨opened, rest, ?_⟩
  rw [step_of_ok hNext, Phrase.nonterminal, meet, hVerdict, hOpened, Observer.notifyAll_append]
  rfl

theorem Run.step_of_not_starts (hNext : TokenSource.next source = (.ok token, next))
    (h : category.starts token.symbol = false) (observer : τ) (goals : List Goal) :
    ∃ opened error message,
      (Run.mk source observer (.phrase (.nonterminal category) :: goals)).step =
        .ended ⟨.error error, next,
          Observer.notifyAll (category.entering opened ++ [.error token message]) observer⟩ := by
  obtain ⟨expected, rest, hVerdict⟩ := Nonterminal.exists_reject_of_not_starts h goals
  obtain ⟨opened, hOpened⟩ := category.exists_entering token.symbol goals
  refine ⟨opened, (Observer.refuse token (expected.message token.symbol)
    (Observer.notifyAll (category.entering opened) observer)).withinAll (Goal.enclosing rest),
    expected.message token.symbol, ?_⟩
  rw [step_of_ok hNext, Phrase.nonterminal, meet, hVerdict, hOpened, Observer.notifyAll_append]
  rfl

theorem Run.setsOut (hNext : TokenSource.next source = (.ok token, next)) (observer : τ)
    (goals : List Goal) :
    (Run.mk source observer (.phrase (.nonterminal category) :: goals)).SetsOut category token
      next where
  takes h := step_of_starts hNext h observer goals
  rejects h := step_of_not_starts hNext h observer goals
  events limit ended hEnded := by
    cases limit with
    | zero => cases hEnded
    | succ limit =>
      rw [finishWithin] at hEnded
      cases hStarts : category.starts token.symbol with
      | true =>
        obtain ⟨opened, rest, hStep⟩ := step_of_starts hNext hStarts observer goals
        rw [hStep] at hEnded
        obtain ⟨answers, -, ending, -, -, -, hObserver⟩ := exists_course_of_finishWithin hEnded
        refine ⟨opened, .terminal token, (course rest answers).events ++ ending.report,
          ⟨hStarts, rfl⟩, ?_⟩
        rw [hObserver, ← Observer.notifyAll_append, List.append_assoc, List.singleton_append]
      | false =>
        obtain ⟨opened, error, message, hStep⟩ :=
          step_of_not_starts hNext hStarts observer goals
        rw [hStep] at hEnded
        cases hEnded
        exact ⟨opened, .error token message, [], ⟨hStarts, rfl⟩, rfl⟩

end Runs

/-- The table lists what begins the words of a nonterminal, none of which is empty, and every run
that sets out on the nonterminal obeys it, whatever its goals, its source and its observer. -/
theorem Nonterminal.starts_settles (category : Nonterminal) :
    (∀ symbol : Symbol, category.starts symbol = true ↔
        ∃ word, Derives [.nonterminal category] (symbol :: word)) ∧
      ¬ Derives [.nonterminal category] [] ∧
      ∀ {σ τ : Type} [TokenSource σ] [Observer τ] (source next : σ) (token : Token)
        (observer : τ) (goals : List Goal),
        TokenSource.next source = (.ok token, next) →
          (Run.mk source observer (.phrase (.nonterminal category) :: goals)).SetsOut category
            token next := by
  refine ⟨category.starts_iff_exists_derives, category.not_derives_nil, ?_⟩
  intro σ τ _ _ source next token observer goals hNext
  exact Run.setsOut hNext observer goals

def operatorFirst : Padded (List Token) := .ofProducer [.fixed .plus 4, .fixed .endWord 4]

theorem Nonterminal.operatorFirst_settled :
    TokenSource.next operatorFirst =
        (.ok (.fixed .plus 4), ⟨[.fixed .endWord 4], 4, false⟩) ∧
      (Run.mk operatorFirst Recording.empty
        [.phrase (.nonterminal .expression), .close .assignmentStatement]).SetsOut .expression
          (.fixed .plus 4) ⟨[.fixed .endWord 4], 4, false⟩ := by
  have hNext : TokenSource.next operatorFirst =
      (.ok (.fixed .plus 4), ⟨[.fixed .endWord 4], 4, false⟩) := rfl
  exact ⟨hNext, (starts_settles .expression).2.2 _ _ _ _ _ hNext⟩

end TallyCheck
