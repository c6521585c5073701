import TallyCheck.Grammar.First
import TallyCheck.Proofs.Unfolding

/-! # What can come next

The symbols with which phrases can go on, those that can stand behind each nonterminal, and the
condition under which the symbol that comes next settles every choice, option and repetition.
-/
namespace TallyCheck
set_option autoImplicit false

/-- The symbols that can come next where the phrases are to be filled, if what stands behind them
begins with one of `behind`. -/
def heads (behind : List Symbol) : List Phrase → List Symbol
  | [] => behind
  | .part (.terminal symbol _) :: _ => [symbol]
  | .part (.nonterminal category) :: _ => category.first
  | .choice choice :: _ => choice.leads
  | .repeated separators _ _ :: phrases => separators ++ heads behind phrases
  | .optional lead _ _ :: phrases => lead :: heads behind phrases

/-- The symbols that can stand behind a nonterminal. -/
def Nonterminal.follow : Nonterminal → List Symbol
  | statementPart => [.endOfInput]
  | statementList => [.endWord, .elseWord, .untilWord]
  | statement | ifStatement | whileStatement | procedureStatement | untilStatement
  | forStatement => [.semicolon, .endWord, .elseWord, .untilWord]
  | assignmentStatement | expression =>
    [.semicolon, .rightParen, .endWord, .elseWord, .untilWord]
  | argumentList => [.rightParen]
  | condition => [.thenWord, .loopWord, .semicolon, .endWord, .elseWord, .untilWord]
  | conditionalOperator => [.identifier, .numberConstant, .stringConstant]
  | term => [.plus, .minus, .semicolon, .rightParen, .endWord, .elseWord, .untilWord]
  | factor =>
    [.times, .divide, .modulus, .plus, .minus, .semicolon, .rightParen, .endWord, .elseWord,
      .untilWord]

/-- Behind a nonterminal only symbols are expected that can stand there. -/
def Part.Admits (next : List Symbol) : Part → Prop
  | .terminal _ _ => True
  | .nonterminal category => next ⊆ category.follow

def Part.Clear (behind : List Symbol) : List Part → Prop
  | [] => True
  | part :: parts => part.Admits (heads behind (parts.map .part)) ∧ Clear behind parts

/-- A repetition or an option goes on with no symbol that can stand behind it, and each
nonterminal admits what is expected behind it. -/
def Clear (behind : List Symbol) : List Phrase → Prop
  | [] => True
  | .part part :: phrases => part.Admits (heads behind phrases) ∧ Clear behind phrases
  | .choice choice :: phrases =>
    (∀ branch ∈ choice.branches, Part.Clear (heads behind phrases) branch.parts) ∧
      Clear behind phrases
  | .repeated separators item _ :: phrases =>
    (∀ separator ∈ separators, separator ∉ heads behind phrases) ∧
      item.Admits (separators ++ heads behind phrases) ∧ Clear behind phrases
  | .optional lead item _ :: phrases =>
    lead ∉ heads behind phrases ∧ item.Admits (heads behind phrases) ∧ Clear behind phrases

instance (next : List Symbol) : DecidablePred (Part.Admits next)
  | .terminal _ _ => .isTrue trivial
  | .nonterminal category => inferInstanceAs (Decidable (next ⊆ category.follow))

instance Part.Clear.decidable (behind : List Symbol) : DecidablePred (Part.Clear behind)
  | [] => .isTrue trivial
  | part :: parts =>
    have := Clear.decidable behind parts
    inferInstanceAs (Decidable (part.Admits (heads behind (parts.map .part)) ∧
      Part.Clear behind parts))

instance Clear.decidable (behind : List Symbol) : DecidablePred (Clear behind)
  | [] => .isTrue trivial
  | .part part :: phrases =>
    have := Clear.decidable behind phrases
    inferInstanceAs (Decidable (part.Admits (heads behind phrases) ∧ Clear behind phrases))
  | .choice choice :: phrases =>
    have := Clear.decidable behind phrases
    inferInstanceAs (Decidable ((∀ branch ∈ choice.branches,
      Part.Clear (heads behind phrases) branch.parts) ∧ Clear behind phrases))
  | .repeated separators item _ :: phrases =>
    have := Clear.decidable behind phrases
    inferInstanceAs (Decidable ((∀ separator ∈ separators, separator ∉ heads behind phrases) ∧
      item.Admits (separators ++ heads behind phrases) ∧ Clear behind phrases))
  | .optional lead item _ :: phrases =>
    have := Clear.decidable behind phrases
    inferInstanceAs (Decidable (lead ∉ heads behind phrases ∧
      item.Admits (heads behind phrases) ∧ Clear behind phrases))

theorem Nonterminal.clear_phrases (category : Nonterminal) :
    Clear category.follow category.phrases := by
  cases category <;> decide

theorem Nonterminal.heads_phrases (category : Nonterminal) (behind : List Symbol) :
    heads behind category.phrases = category.first := by
  cases category <;> rfl

namespace Choice

theorem branch?_eq_some : ∀ (choice : Choice), ∀ branch ∈ choice.branches,
    ∀ symbol ∈ branch.leads, choice.branch? symbol = some branch := by
  intro choice
  cases choice <;> decide

theorem heads_parts {choice : Choice} {branch : Branch} (h : branch ∈ choice.branches)
    (behind : List Symbol) : heads behind (branch.parts.map .part) = branch.leads := by
  cases choice <;> simp only [branches, List.mem_cons, List.not_mem_nil, or_false] at h
  case statement => rcases h with rfl | rfl | rfl | rfl | rfl | rfl <;> rfl
  case conditionalOperator => rcases h with rfl | rfl | rfl | rfl | rfl | rfl <;> rfl
  case assignmentValue => rcases h with rfl | rfl <;> rfl
  case conditionOperand => rcases h with rfl | rfl | rfl <;> rfl
  case factor => rcases h with rfl | rfl | rfl <;> rfl

end Choice

theorem heads_append (behind : List Symbol) (front back : List Phrase) :
    heads behind (front ++ back) = heads (heads behind back) front := by
  induction front with
  | nil => rfl
  | cons phrase front ih =>
    cases phrase with
    | part part => cases part <;> rfl
    | choice choice => rfl
    | repeated separators item inner => exact congrArg (separators ++ ·) ih
    | optional lead item inner => exact congrArg (lead :: ·) ih

theorem Part.Clear.append {behind : List Symbol} {parts : List Part} {phrases : List Phrase}
    (hParts : Part.Clear (heads behind phrases) parts)
    (hPhrases : TallyCheck.Clear behind phrases) :
    TallyCheck.Clear behind (parts.map Phrase.part ++ phrases) := by
  induction parts with
  | nil => exact hPhrases
  | cons part parts ih =>
    obtain ⟨hPart, hParts⟩ := hParts
    rw [← heads_append] at hPart
    exact ⟨hPart, ih hParts⟩

theorem headD_append {α : Type} (front back : List α) (last : α) :
    (front ++ back).headD last = front.headD (back.headD last) := by
  cases front <;> rfl

theorem Fills.headD_mem_heads {phrases : List Phrase} {trees : List Tree}
    (h : Fills phrases trees) : ∀ {behind : List Symbol} {next : Token}, next.symbol ∈ behind →
      ((Forest.leaves trees).headD next).symbol ∈ heads behind phrases := by
  induction h with
  | nil => exact fun hNext => hNext
  | terminal _ ih => exact fun _ => List.mem_singleton.mpr rfl
  | @nonterminal category phrases children trees _ _ ihInside ih =>
    intro behind next _
    rw [Forest.leaves, Tree.leaves, headD_append]
    have hInside := ihInside (List.mem_singleton.mpr rfl :
      ((Forest.leaves trees).headD next).symbol ∈ [((Forest.leaves trees).headD next).symbol])
    rwa [Nonterminal.heads_phrases] at hInside
  | choice hMem _ ih =>
    intro behind next hNext
    have hHead := ih hNext
    rw [heads_append, Choice.heads_parts hMem] at hHead
    exact List.mem_flatMap.mpr ⟨_, hMem, hHead⟩
  | repeatedEnd _ ih => exact fun hNext => List.mem_append_right _ (ih hNext)
  | repeatedNext hMem _ _ => exact fun _ => List.mem_append_left _ hMem
  | optionalSkip _ ih => exact fun hNext => List.mem_cons_of_mem _ (ih hNext)
  | optionalTake _ _ => exact fun _ => List.mem_cons_self

end TallyCheck
