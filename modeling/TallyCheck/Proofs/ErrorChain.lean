import TallyCheck.Proofs.Context
import TallyCheck.Proofs.FrontEnds

/-! # What an error tells of itself

An error can be followed from cause to cause, or asked for its chain, its productions, its depth or
its report.  All these agree for any layers around any cause, also where a layer was put around an
error that would not have taken it.  Going out of a production adds one layer in front of all, or
leaves a bare error as it is.
-/
namespace TallyCheck.ParseError
set_option autoImplicit false

/-- `Traced error met`: going from the error to its cause, and on to the last, one meets these. -/
inductive Traced : ParseError → List ParseError → Prop where
  | last {error : ParseError} (none : error.cause? = none) : Traced error [error]
  | onward {error cause : ParseError} {met : List ParseError} (some : error.cause? = some cause)
      (rest : Traced cause met) : Traced error (error :: met)

theorem traced_causes (error : ParseError) : Traced error (error :: error.causes) := by
  induction error with
  | context production cause ih => exact .onward rfl ih
  | _ => exact .last rfl

theorem Traced.eq_causes {error : ParseError} {met : List ParseError} (h : Traced error met) :
    met = error :: error.causes := by
  induction h with
  | @last error hNone =>
    cases error with
    | context production cause => cases hNone
    | _ => rfl
  | @onward error cause met hSome _ ih =>
    cases error with
    | context production inner =>
      cases hSome
      rw [ih, causes]
    | _ => cases hSome

theorem chain_context (production : Nonterminal) (error : ParseError) :
    (context production error).chain =
      ⟨some production, "Error while parsing " ++ production.bracketed⟩ :: error.chain := rfl

theorem map_display_causes (error : ParseError) :
    (error :: error.causes).map display = error.chain.map ErrorLink.message := by
  induction error with
  | context production cause ih =>
    rw [chain_context, List.map_cons, List.map_cons, causes, ih]
    rfl
  | _ => rfl

theorem map_production_chain (error : ParseError) :
    error.chain.map ErrorLink.production = error.productions.map some ++ [none] := by
  rw [chain, List.map_append, List.map_map]
  rfl

theorem report_eq_lines (error : ParseError) :
    error.report ++ "\n" = unlines (error.diagnostic :: error.productions.reverse.map
      fun production => "  while parsing " ++ production.bracketed) := by
  have hIndent : "  while parsing " = "  " ++ "while parsing " := by decide
  rw [report_eq_unlines, contextLines, List.map_map, hIndent]
  simp only [Function.comp_def, String.append_assoc]

theorem productions_within (production : Nonterminal) (error : ParseError) :
    (error.within production).productions =
      if error.isBare then error.productions else production :: error.productions := by
  rw [within_eq]
  split <;> rfl

/-- What an error tells of itself in one way and another. -/
structure Coherent (error : ParseError) : Prop where
  exists_traced : ∃ met, Traced error met
  displays_eq : ∀ met, Traced error met → met.map display = error.chain.map ErrorLink.message
  links_eq : error.chain.map ErrorLink.production = error.productions.map some ++ [none]
  depth_eq : error.depth = error.productions.length
  report_eq : error.report ++ "\n" = unlines (error.diagnostic :: error.productions.reverse.map
    fun production => "  while parsing " ++ production.bracketed)

/-- What `outer` tells as `error` does, though it may have more productions around it. -/
structure SameCause (outer error : ParseError) : Prop where
  innermost_eq : outer.innermost = error.innermost
  diagnostic_eq : outer.diagnostic = error.diagnostic
  token?_eq : outer.token? = error.token?
  message?_eq : outer.message? = error.message?
  line?_eq : outer.line? = error.line?

theorem SameCause.of_innermost {outer error : ParseError} (h : outer.innermost = error.innermost) :
    SameCause outer error where
  innermost_eq := h
  diagnostic_eq := congrArg display h
  token?_eq := by rw [token?, token?, h]
  message?_eq := by rw [message?, message?, h]
  line?_eq := by rw [line?, line?, h]

theorem coherent (error : ParseError) : Coherent error where
  exists_traced := ⟨_, traced_causes error⟩
  displays_eq met hMet := by rw [hMet.eq_causes, map_display_causes]
  links_eq := map_production_chain error
  depth_eq := depth_eq_length_productions error
  report_eq := report_eq_lines error

/-- The chain, the productions, the depth and the report of an error tell the same of it.  A
production is put around it unless it is bare, and its cause stays the same. -/
theorem coherent_within (error : ParseError) :
    Coherent error ∧ ∀ production : Nonterminal,
      error.within production =
        (if error.isBare then error else .context production error) ∧
      (error.within production).productions =
        (if error.isBare then error.productions else production :: error.productions) ∧
      SameCause (error.within production) error :=
  ⟨coherent error, fun production => ⟨within_eq production error,
    productions_within production error, .of_innermost (innermost_within production error)⟩⟩

example : ((context .term (.scan ⟨.unterminatedString, 2⟩)).within .factor).productions =
    [.factor, .term] := rfl

end TallyCheck.ParseError
