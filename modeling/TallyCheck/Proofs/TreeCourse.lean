import TallyCheck.Proofs.Course
import TallyCheck.Proofs.Lookahead

/-! # The course along a forest

An analysis that has phrases to meet, and gets the leaves of a forest that fills them, walks around
the forest.  No choice, option or repetition goes wrong, because the symbol behind the forest is
one that can stand there.
-/
namespace TallyCheck
set_option autoImplicit false

def StartsIn (symbols : List Symbol) (answers : List Answer) : Prop :=
  ∃ token rest, answers = .ok token :: rest ∧ token.symbol ∈ symbols

theorem startsIn_append {symbols : List Symbol} {tokens : List Token} {next : Token}
    {answers : List Answer} (h : (tokens.headD next).symbol ∈ symbols) :
    StartsIn symbols (tokens.map Except.ok ++ .ok next :: answers) := by
  cases tokens with
  | nil => exact ⟨next, answers, rfl, h⟩
  | cons token tokens => exact ⟨token, _, rfl, h⟩

theorem Fills.startsIn {phrases : List Phrase} {trees : List Tree} (h : Fills phrases trees)
    {behind : List Symbol} {answers : List Answer} (hAnswers : StartsIn behind answers) :
    StartsIn (heads behind phrases) ((Forest.leaves trees).map Except.ok ++ answers) := by
  obtain ⟨next, rest, rfl, hNext⟩ := hAnswers
  exact startsIn_append (h.headD_mem_heads hNext)

/-- A production is entered before its first token is taken, and left when the token behind its
last one is known. -/
theorem course_node {category : Nonterminal} {children : List Tree} {answers : List Answer}
    {goals : List Goal} {here behind : List Symbol}
    (hHere : StartsIn here ((Forest.leaves children).map Except.ok ++ answers))
    (hBehind : StartsIn behind answers)
    (hInside : course (category.phrases.map Goal.phrase ++ .close category :: goals)
      ((Forest.leaves children).map Except.ok ++ answers) =
      (course (.close category :: goals) answers).after (Forest.events children)) :
    course (.phrase (.part (.nonterminal category)) :: goals)
        ((Forest.leaves children).map Except.ok ++ answers) =
      (course goals answers).after (Tree.node category children).events := by
  obtain ⟨first, others, hFirst, -⟩ := hHere
  obtain ⟨token, rest, hStart, -⟩ := hBehind
  rw [hFirst, course_nonterminal, ← hFirst, Nonterminal.goals_append, hInside, hStart,
    course_close, Course.after_after, Course.after_after]
  rfl

/-- The course along the leaves of the trees, whatever goals lie below and whatever answers come
behind, if they begin with a symbol that can stand behind the phrases. -/
def Walks (phrases : List Phrase) (trees : List Tree) : Prop :=
  ∀ (behind : List Symbol) (answers : List Answer) (goals : List Goal),
    Clear behind phrases → StartsIn behind answers →
    course (phrases.map Goal.phrase ++ goals) ((Forest.leaves trees).map Except.ok ++ answers) =
      (course goals answers).after (Forest.events trees)

namespace Walks

variable {phrases : List Phrase} {trees : List Tree}

theorem terminal (h : Walks phrases trees) {token : Token} {inner : token.symbol ≠ .endOfInput} :
    Walks (.part (.terminal token.symbol inner) :: phrases) (.leaf token :: trees) := by
  intro behind answers goals hClear hAnswers
  calc
    _ = (course (phrases.map Goal.phrase ++ goals)
          ((Forest.leaves trees).map Except.ok ++ answers)).after [.terminal token] :=
        course_terminal inner
    _ = _ := by rw [h behind answers goals hClear.2 hAnswers, Course.after_after]; rfl

theorem nonterminal (h : Walks phrases trees) (hRest : Fills phrases trees)
    {category : Nonterminal} {children : List Tree} (hInside : Fills category.phrases children)
    (hWalks : Walks category.phrases children) :
    Walks (.part (.nonterminal category) :: phrases) (.node category children :: trees) := by
  intro behind answers goals hClear hAnswers
  obtain ⟨hAdmits, hClear⟩ := hClear
  obtain ⟨token, rest, hStart, hToken⟩ := hRest.startsIn hAnswers
  have hFollow : StartsIn category.follow
      ((Forest.leaves trees).map Except.ok ++ answers) := ⟨token, rest, hStart, hAdmits hToken⟩
  have hNode := course_node (hInside.startsIn hFollow) hFollow
    (hWalks _ _ (.close category :: (phrases.map Goal.phrase ++ goals)) category.clear_phrases
      hFollow)
  simp only [Forest.leaves, Tree.leaves, List.map_append, List.append_assoc, List.map_cons,
    List.cons_append]
  rw [hNode, h behind answers goals hClear hAnswers, Course.after_after]
  rfl

theorem choice {choice : Choice} {branch : Branch} (hMem : branch ∈ choice.branches)
    (h : Walks (branch.parts.map Phrase.part ++ phrases) trees)
    (hRest : Fills (branch.parts.map Phrase.part ++ phrases) trees) :
    Walks (.choice choice :: phrases) trees := by
  intro behind answers goals hClear hAnswers
  obtain ⟨token, rest, hStart, hToken⟩ := hRest.startsIn hAnswers
  rw [heads_append, Choice.heads_parts hMem] at hToken
  have hClear := (hClear.1 branch hMem).append hClear.2
  rw [← h behind answers goals hClear hAnswers, hStart, List.map_cons, List.cons_append,
    course_choice (Choice.branch?_eq_some choice branch hMem _ hToken), Branch.goals_eq,
    List.map_append, List.append_assoc]

section Separated

variable {separators : List Symbol} {item : Part} {inner : .endOfInput ∉ separators}

theorem repeatedEnd (h : Walks phrases trees) (hRest : Fills phrases trees) :
    Walks (.repeated separators item inner :: phrases) trees := by
  intro behind answers goals hClear hAnswers
  obtain ⟨hDisjoint, -, hClear⟩ := hClear
  obtain ⟨token, rest, hStart, hToken⟩ := hRest.startsIn hAnswers
  have hEnd := fun hMem => hDisjoint token.symbol hMem hToken
  rw [← h behind answers goals hClear hAnswers, hStart, List.map_cons, List.cons_append,
    course_repeated_end hEnd]

theorem repeatedNext {token : Token} (hMem : token.symbol ∈ separators)
    (h : Walks (.part item :: .repeated separators item inner :: phrases) trees) :
    Walks (.repeated separators item inner :: phrases) (.leaf token :: trees) := by
  intro behind answers goals hClear hAnswers
  obtain ⟨hDisjoint, hAdmits, hClear⟩ := hClear
  calc
    _ = (course ((.part item :: .repeated separators item inner :: phrases).map Goal.phrase ++
          goals) ((Forest.leaves trees).map Except.ok ++ answers)).after [.terminal token] :=
        course_repeated_next hMem
    _ = _ := by
      rw [h behind answers goals ⟨hAdmits, hDisjoint, hAdmits, hClear⟩ hAnswers,
        Course.after_after]
      rfl

end Separated

theorem optionalSkip (h : Walks phrases trees) (hRest : Fills phrases trees) {lead : Symbol}
    {item : Part} {inner : lead ≠ .endOfInput} :
    Walks (.optional lead item inner :: phrases) trees := by
  intro behind answers goals hClear hAnswers
  obtain ⟨hLead, -, hClear⟩ := hClear
  obtain ⟨token, rest, hStart, hToken⟩ := hRest.startsIn hAnswers
  have hSkip : token.symbol ≠ lead := fun hEq => hLead (hEq ▸ hToken)
  rw [← h behind answers goals hClear hAnswers, hStart, List.map_cons, List.cons_append,
    course_optional_skip hSkip]

theorem optionalTake {item : Part} (h : Walks (.part item :: phrases) trees) {token : Token}
    {inner : token.symbol ≠ .endOfInput} :
    Walks (.optional token.symbol item inner :: phrases) (.leaf token :: trees) := by
  intro behind answers goals hClear hAnswers
  obtain ⟨-, hAdmits, hClear⟩ := hClear
  calc
    _ = (course ((.part item :: phrases).map Goal.phrase ++ goals)
          ((Forest.leaves trees).map Except.ok ++ answers)).after [.terminal token] :=
        course_optional_take inner
    _ = _ := by rw [h behind answers goals ⟨hAdmits, hClear⟩ hAnswers, Course.after_after]; rfl

end Walks

theorem Fills.walks {phrases : List Phrase} {trees : List Tree} (h : Fills phrases trees) :
    Walks phrases trees := by
  induction h with
  | nil => exact fun _ _ _ _ _ => rfl
  | terminal _ ih => exact ih.terminal
  | nonterminal hInside hRest ihInside ih => exact ih.nonterminal hRest hInside ihInside
  | choice hMem hRest ih => exact ih.choice hMem hRest
  | repeatedEnd hRest ih => exact ih.repeatedEnd hRest
  | repeatedNext hMem _ ih => exact ih.repeatedNext hMem
  | optionalSkip hRest ih => exact ih.optionalSkip hRest
  | optionalTake _ ih => exact ih.optionalTake

theorem Fills.course_eq {phrases : List Phrase} {trees : List Tree} (h : Fills phrases trees)
    {behind : List Symbol} {answers : List Answer} (goals : List Goal)
    (hClear : Clear behind phrases) (hAnswers : StartsIn behind answers) :
    course (phrases.map Goal.phrase ++ goals) ((Forest.leaves trees).map Except.ok ++ answers) =
      (course goals answers).after (Forest.events trees) :=
  h.walks behind answers goals hClear hAnswers

end TallyCheck
