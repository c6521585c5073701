import TallyCheck.Proofs.Tree

/-! # Phrases and right-hand sides

The phrases that an analysis follows stand for the right-hand sides of the productions, and a
forest fills them when it stands on what they stand for.
-/
namespace TallyCheck
set_option autoImplicit false

/-- `Unfolds phrases parts`: with choices made, options taken or left, and repetitions written
out, the phrases are the parts. -/
inductive Unfolds : List Phrase → List Part → Prop where
  | nil : Unfolds [] []
  | part {part : Part} {phrases : List Phrase} {parts : List Part} (rest : Unfolds phrases parts) :
      Unfolds (.part part :: phrases) (part :: parts)
  | choice {choice : Choice} {branch : Branch} {phrases : List Phrase} {parts : List Part}
      (mem : branch ∈ choice.branches)
      (rest : Unfolds (branch.parts.map Phrase.part ++ phrases) parts) :
      Unfolds (.choice choice :: phrases) parts
  | repeatedEnd {separators : List Symbol} {item : Part} {inner : .endOfInput ∉ separators}
      {phrases : List Phrase} {parts : List Part} (rest : Unfolds phrases parts) :
      Unfolds (.repeated separators item inner :: phrases) parts
  | repeatedNext {separators : List Symbol} {item : Part} {inner : .endOfInput ∉ separators}
      {separator : Symbol} {ne : separator ≠ .endOfInput} {phrases : List Phrase}
      {parts : List Part} (mem : separator ∈ separators)
      (rest : Unfolds (.repeated separators item inner :: phrases) parts) :
      Unfolds (.repeated separators item inner :: phrases)
        (.terminal separator ne :: item :: parts)
  | optionalSkip {lead : Symbol} {item : Part} {inner : lead ≠ .endOfInput}
      {phrases : List Phrase} {parts : List Part} (rest : Unfolds phrases parts) :
      Unfolds (.optional lead item inner :: phrases) parts
  | optionalTake {lead : Symbol} {item : Part} {inner : lead ≠ .endOfInput}
      {phrases : List Phrase} {parts : List Part} (rest : Unfolds phrases parts) :
      Unfolds (.optional lead item inner :: phrases) (.terminal lead inner :: item :: parts)

namespace Unfolds

@[simp] theorem nil_iff {parts : List Part} : Unfolds [] parts ↔ parts = [] := by
  constructor
  · rintro ⟨⟩
    rfl
  · rintro rfl
    exact .nil

@[simp] theorem part_iff {part : Part} {phrases : List Phrase} {parts : List Part} :
    Unfolds (.part part :: phrases) parts ↔
      ∃ rest, Unfolds phrases rest ∧ parts = part :: rest := by
  constructor
  · rintro (_ | hRest)
    exact ⟨_, hRest, rfl⟩
  · rintro ⟨rest, hRest, rfl⟩
    exact .part hRest

@[simp] theorem choice_iff {choice : Choice} {phrases : List Phrase} {parts : List Part} :
    Unfolds (.choice choice :: phrases) parts ↔
      ∃ branch ∈ choice.branches, Unfolds (branch.parts.map Phrase.part ++ phrases) parts := by
  constructor
  · intro h
    cases h with
    | choice hMem hRest => exact ⟨_, hMem, hRest⟩
  · rintro ⟨branch, hMem, hRest⟩
    exact .choice hMem hRest

@[simp] theorem optional_iff {lead : Symbol} {item : Part} {inner : lead ≠ .endOfInput}
    {phrases : List Phrase} {parts : List Part} :
    Unfolds (.optional lead item inner :: phrases) parts ↔ Unfolds phrases parts ∨
      ∃ rest, Unfolds phrases rest ∧ parts = .terminal lead inner :: item :: rest := by
  constructor
  · intro h
    cases h with
    | optionalSkip hRest => exact .inl hRest
    | optionalTake hRest => exact .inr ⟨_, hRest, rfl⟩
  · rintro (hRest | ⟨rest, hRest, rfl⟩)
    · exact .optionalSkip hRest
    · exact .optionalTake hRest

theorem repeated_iff {separators : List Symbol} {item : Part} {inner : .endOfInput ∉ separators}
    {parts : List Part} :
    Unfolds [.repeated separators item inner] parts ↔ Repeats separators item parts := by
  constructor
  · intro h
    generalize hPhrases : [Phrase.repeated separators item inner] = phrases at h
    induction h with
    | nil | part | choice | optionalSkip | optionalTake => cases hPhrases
    | repeatedEnd hRest =>
      cases hPhrases
      rw [nil_iff.mp hRest]
      exact .done
    | repeatedNext hMem _ ih =>
      cases hPhrases
      exact .more hMem (ih rfl)
  · intro h
    induction h with
    | done => exact .repeatedEnd .nil
    | more hMem _ ih => exact .repeatedNext hMem ih

end Unfolds

theorem Produces.unfolds {category : Nonterminal} {parts : List Part}
    (h : Produces category parts) : Unfolds category.phrases parts := by
  cases h with
  | statementList hMore | argumentList hMore | expression hMore | term hMore =>
    exact .part (Unfolds.repeated_iff.mpr hMore)
  | statement hMem =>
    simp only [List.mem_cons, List.not_mem_nil, or_false] at hMem
    rcases hMem with rfl | rfl | rfl | rfl | rfl | rfl <;>
      simp [Nonterminal.phrases, Choice.branches]
  | condition hMem =>
    simp only [List.mem_cons, List.not_mem_nil, or_false] at hMem
    rcases hMem with rfl | rfl | rfl <;>
      simp [Nonterminal.phrases, Phrase.terminal, Phrase.nonterminal, Choice.branches]
  | conditionalOperator hMem =>
    simp only [List.mem_cons, List.not_mem_nil, or_false] at hMem
    rcases hMem with rfl | rfl | rfl | rfl | rfl | rfl <;>
      simp [Nonterminal.phrases, Choice.branches]
  | factor hMem =>
    simp only [List.mem_cons, List.not_mem_nil, or_false] at hMem
    rcases hMem with rfl | rfl <;> simp [Nonterminal.phrases, Choice.branches]
  | _ => simp [Nonterminal.phrases, Phrase.terminal, Phrase.nonterminal, Choice.branches]

theorem produces_of_unfolds {category : Nonterminal} {parts : List Part}
    (h : Unfolds category.phrases parts) : Produces category parts := by
  cases category <;>
    simp only [Nonterminal.phrases, Phrase.terminal, Phrase.nonterminal, Choice.branches,
      Unfolds.part_iff, Unfolds.choice_iff, Unfolds.optional_iff, Unfolds.repeated_iff,
      Unfolds.nil_iff, List.mem_cons, List.not_mem_nil, or_false, exists_eq_or_imp, exists_eq_left,
      List.map_cons, List.map_nil, List.cons_append, List.nil_append] at h
  case statementPart => exact h ▸ .statementPart
  case statementList =>
    obtain ⟨rest, hRest, rfl⟩ := h
    exact .statementList hRest
  case statement => rcases h with rfl | rfl | rfl | rfl | rfl | rfl <;> exact .statement (by decide)
  case assignmentStatement =>
    rcases h with rfl | rfl
    · exact .stringAssignment
    · exact .assignment
  case ifStatement =>
    rcases h with rfl | rfl
    · exact .ifThen
    · exact .ifThenElse
  case whileStatement => exact h ▸ .whileLoop
  case procedureStatement => exact h ▸ .call
  case untilStatement => exact h ▸ .doUntil
  case forStatement => exact h ▸ .forLoop
  case argumentList =>
    obtain ⟨rest, hRest, rfl⟩ := h
    exact .argumentList hRest
  case condition => rcases h with rfl | rfl | rfl <;> exact .condition (by decide)
  case conditionalOperator =>
    rcases h with rfl | rfl | rfl | rfl | rfl | rfl <;> exact .conditionalOperator (by decide)
  case expression =>
    obtain ⟨rest, hRest, rfl⟩ := h
    exact .expression hRest
  case term =>
    obtain ⟨rest, hRest, rfl⟩ := h
    exact .term hRest
  case factor =>
    rcases h with rfl | rfl | rfl
    · exact .factor (by decide)
    · exact .factor (by decide)
    · exact .parentheses

/-- `Fills phrases trees`: the trees stand on what the phrases stand for. -/
inductive Fills : List Phrase → List Tree → Prop where
  | nil : Fills [] []
  | terminal {token : Token} {inner : token.symbol ≠ .endOfInput} {phrases : List Phrase}
      {trees : List Tree} (rest : Fills phrases trees) :
      Fills (.part (.terminal token.symbol inner) :: phrases) (.leaf token :: trees)
  | nonterminal {category : Nonterminal} {phrases : List Phrase} {children trees : List Tree}
      (inside : Fills category.phrases children) (rest : Fills phrases trees) :
      Fills (.part (.nonterminal category) :: phrases) (.node category children :: trees)
  | choice {choice : Choice} {branch : Branch} {phrases : List Phrase} {trees : List Tree}
      (mem : branch ∈ choice.branches)
      (rest : Fills (branch.parts.map Phrase.part ++ phrases) trees) :
      Fills (.choice choice :: phrases) trees
  | repeatedEnd {separators : List Symbol} {item : Part} {inner : .endOfInput ∉ separators}
      {phrases : List Phrase} {trees : List Tree} (rest : Fills phrases trees) :
      Fills (.repeated separators item inner :: phrases) trees
  | repeatedNext {separators : List Symbol} {item : Part} {inner : .endOfInput ∉ separators}
      {token : Token} {phrases : List Phrase} {trees : List Tree}
      (mem : token.symbol ∈ separators)
      (rest : Fills (.part item :: .repeated separators item inner :: phrases) trees) :
      Fills (.repeated separators item inner :: phrases) (.leaf token :: trees)
  | optionalSkip {lead : Symbol} {item : Part} {inner : lead ≠ .endOfInput}
      {phrases : List Phrase} {trees : List Tree} (rest : Fills phrases trees) :
      Fills (.optional lead item inner :: phrases) trees
  | optionalTake {token : Token} {item : Part} {inner : token.symbol ≠ .endOfInput}
      {phrases : List Phrase} {trees : List Tree} (rest : Fills (.part item :: phrases) trees) :
      Fills (.optional token.symbol item inner :: phrases) (.leaf token :: trees)

namespace Fills

theorem append {front back : List Phrase} {left right : List Tree} (hFront : Fills front left)
    (hBack : Fills back right) : Fills (front ++ back) (left ++ right) := by
  induction hFront with
  | nil => exact hBack
  | terminal _ ih => exact .terminal ih
  | nonterminal hInside _ _ ih => exact .nonterminal hInside ih
  | choice hMem _ ih =>
    rw [List.append_assoc] at ih
    exact .choice hMem ih
  | repeatedEnd _ ih => exact .repeatedEnd ih
  | repeatedNext hMem _ ih => exact .repeatedNext hMem ih
  | optionalSkip _ ih => exact .optionalSkip ih
  | optionalTake _ ih => exact .optionalTake ih

theorem exists_unfolds {phrases : List Phrase} {trees : List Tree} (h : Fills phrases trees) :
    ∃ parts, Unfolds phrases parts ∧ Grows parts trees := by
  induction h with
  | nil => exact ⟨[], .nil, .nil⟩
  | terminal _ ih =>
    obtain ⟨parts, hUnfolds, hGrows⟩ := ih
    exact ⟨_, .part hUnfolds, .leaf hGrows⟩
  | nonterminal _ _ ihInside ih =>
    obtain ⟨body, hBody, hInside⟩ := ihInside
    obtain ⟨parts, hUnfolds, hGrows⟩ := ih
    exact ⟨_, .part hUnfolds, .node (produces_of_unfolds hBody) hInside hGrows⟩
  | choice hMem _ ih =>
    obtain ⟨parts, hUnfolds, hGrows⟩ := ih
    exact ⟨parts, .choice hMem hUnfolds, hGrows⟩
  | repeatedEnd _ ih =>
    obtain ⟨parts, hUnfolds, hGrows⟩ := ih
    exact ⟨parts, .repeatedEnd hUnfolds, hGrows⟩
  | @repeatedNext separators item inner token phrases trees hMem _ ih =>
    obtain ⟨_, hUnfolds, hGrows⟩ := ih
    obtain ⟨parts, hRest, rfl⟩ := Unfolds.part_iff.mp hUnfolds
    have hNe : token.symbol ≠ .endOfInput := fun hEnd => inner (hEnd ▸ hMem)
    exact ⟨.terminal token.symbol hNe :: item :: parts, .repeatedNext hMem hRest, .leaf hGrows⟩
  | optionalSkip _ ih =>
    obtain ⟨parts, hUnfolds, hGrows⟩ := ih
    exact ⟨parts, .optionalSkip hUnfolds, hGrows⟩
  | optionalTake _ ih =>
    obtain ⟨_, hUnfolds, hGrows⟩ := ih
    obtain ⟨parts, hRest, rfl⟩ := Unfolds.part_iff.mp hUnfolds
    exact ⟨_, .optionalTake hRest, .leaf hGrows⟩

theorem of_unfolds_nil {phrases : List Phrase} (h : Unfolds phrases []) : Fills phrases [] := by
  generalize hParts : ([] : List Part) = parts at h
  induction h with
  | nil => exact .nil
  | part | repeatedNext | optionalTake => cases hParts
  | choice hMem _ ih => exact .choice hMem (ih hParts)
  | repeatedEnd _ ih => exact .repeatedEnd (ih hParts)
  | optionalSkip _ ih => exact .optionalSkip (ih hParts)

theorem of_unfolds_terminal {token : Token} {inner : token.symbol ≠ .endOfInput}
    {parts : List Part} {trees : List Tree}
    (hTrees : ∀ phrases, Unfolds phrases parts → Fills phrases trees) {phrases : List Phrase}
    (h : Unfolds phrases (.terminal token.symbol inner :: parts)) :
    Fills phrases (.leaf token :: trees) := by
  -- skipped options and ended repetitions come first, and the induction passes them
  generalize hParts : Part.terminal token.symbol inner :: parts = whole at h
  induction h with
  | nil => cases hParts
  | part hRest =>
    cases hParts
    exact .terminal (hTrees _ hRest)
  | choice hMem _ ih => exact .choice hMem (ih hParts)
  | repeatedEnd _ ih => exact .repeatedEnd (ih hParts)
  | repeatedNext hMem hRest =>
    cases hParts
    exact .repeatedNext hMem (hTrees _ (.part hRest))
  | optionalSkip _ ih => exact .optionalSkip (ih hParts)
  | optionalTake hRest =>
    cases hParts
    exact .optionalTake (hTrees _ (.part hRest))

theorem of_unfolds_nonterminal {category : Nonterminal} {children trees : List Tree}
    {parts : List Part} (hChildren : Fills category.phrases children)
    (hTrees : ∀ phrases, Unfolds phrases parts → Fills phrases trees) {phrases : List Phrase}
    (h : Unfolds phrases (.nonterminal category :: parts)) :
    Fills phrases (.node category children :: trees) := by
  generalize hParts : Part.nonterminal category :: parts = whole at h
  induction h with
  | nil | repeatedNext | optionalTake => cases hParts
  | part hRest =>
    cases hParts
    exact .nonterminal hChildren (hTrees _ hRest)
  | choice hMem _ ih => exact .choice hMem (ih hParts)
  | repeatedEnd _ ih => exact .repeatedEnd (ih hParts)
  | optionalSkip _ ih => exact .optionalSkip (ih hParts)

theorem of_grows {parts : List Part} {trees : List Tree} (h : Grows parts trees) :
    ∀ phrases, Unfolds phrases parts → Fills phrases trees := by
  induction h with
  | nil => exact fun _ => of_unfolds_nil
  | leaf _ ih => exact fun _ => of_unfolds_terminal ih
  | node hProduction _ _ ihInside ih =>
    exact fun _ => of_unfolds_nonterminal (ihInside _ hProduction.unfolds) ih

end Fills

theorem fills_nonterminal_iff {category : Nonterminal} {trees : List Tree} :
    Fills [.nonterminal category] trees ↔ Grows [.nonterminal category] trees := by
  constructor
  · intro h
    obtain ⟨parts, hUnfolds, hGrows⟩ := h.exists_unfolds
    obtain ⟨rest, hRest, rfl⟩ := Unfolds.part_iff.mp hUnfolds
    cases hRest
    exact hGrows
  · intro h
    exact Fills.of_grows h _ (.part .nil)

end TallyCheck
