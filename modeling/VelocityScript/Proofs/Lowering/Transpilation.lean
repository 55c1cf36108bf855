import Mathlib.Data.List.Forall2
import VelocityScript.Proofs.Lowering.Accountability
import VelocityScript.Transpile

/-!
# Templates of a source text

Every template that comes out of a text without diagnostics is that of a
function of the parsed text, and has a derivation.
-/

namespace VelocityScript.Lowering

open Script

theorem functionYields_of_mem_lowerItems {target : Target}
    {file : Template.File} (items : List Item)
    (silent : (lowerItems target items).reports = [])
    (produced : file ∈ (lowerItems target items).files) :
    ∃ function, Item.function function ∈ items ∧
      FunctionYields target function file := by
  -- The recursion of `lowerItems`: its cases are the kinds of items, and a
  -- function that is left out or not.
  induction items with
  | nil => cases produced
  | cons item others inductionHypothesis =>
      have later : (lowerItems target others).reports = [] →
          file ∈ (lowerItems target others).files →
            ∃ function, Item.function function ∈ item :: others ∧
              FunctionYields target function file := by
        intro silentRest producedRest
        obtain ⟨function, member, yielded⟩ :=
          inductionHypothesis silentRest producedRest
        exact ⟨function, List.mem_cons_of_mem item member, yielded⟩
      cases item with
      | imports declared => exact later silent produced
      | typeDeclaration span => exact later silent produced
      | statement statement => cases silent
      | function function =>
          rw [lowerItems] at silent produced
          split at silent
          · next omitted =>
              rw [if_pos omitted] at produced
              exact later silent produced
          · next kept =>
              rw [if_neg kept] at produced
              obtain ⟨silentHere, silentRest⟩ := List.append_eq_nil_iff.mp silent
              obtain ⟨found, lowered, yielded⟩ :=
                functionYields_of_reports_eq_nil silentHere
              rcases List.mem_append.mp produced with here | there
              · rw [lowered, Option.toList_some, List.mem_singleton] at here
                exact ⟨function, List.mem_cons_self, here ▸ yielded⟩
              · exact later silentRest there

/-- A function with a body has a template where there are no reports. -/
theorem exists_file_of_mem_items {target : Target} {function : FunctionDeclaration}
    (bodied : function.body.isNone = false) (items : List Item)
    (silent : (lowerItems target items).reports = [])
    (member : Item.function function ∈ items) :
    ∃ file ∈ (lowerItems target items).files,
      FunctionYields target function file := by
  induction items with
  | nil => cases member
  | cons item others inductionHypothesis =>
      cases item with
      | imports declared =>
          exact inductionHypothesis silent ((List.mem_cons.mp member).resolve_left
            nofun)
      | typeDeclaration span =>
          exact inductionHypothesis silent ((List.mem_cons.mp member).resolve_left
            nofun)
      | statement statement => cases silent
      | function declared =>
          rw [lowerItems] at silent ⊢
          split at silent
          · next omitted =>
              rw [if_pos omitted]
              refine inductionHypothesis silent
                ((List.mem_cons.mp member).resolve_left ?_)
              rintro ⟨⟩
              rw [bodied] at omitted
              cases omitted
          · next kept =>
              rw [if_neg kept]
              obtain ⟨silentHere, silentRest⟩ := List.append_eq_nil_iff.mp silent
              obtain ⟨file, lowered, yielded⟩ :=
                functionYields_of_reports_eq_nil silentHere
              rcases List.mem_cons.mp member with same | later
              · cases same
                refine ⟨file, List.mem_append_left _ ?_, yielded⟩
                rw [lowered]
                exact List.mem_singleton_self file
              · obtain ⟨found, produced, foundYielded⟩ :=
                  inductionHypothesis silentRest later
                exact ⟨found, List.mem_append_right _ produced, foundYielded⟩

/-- The functions with a body, in the order of their declarations. -/
def implementations (items : List Item) : List FunctionDeclaration :=
  items.filterMap fun
    | .function declared => if declared.body.isSome then some declared else none
    | _ => none

theorem implementations_cons_of_isSome {function : FunctionDeclaration}
    (bodied : function.body.isSome = true) (items : List Item) :
    implementations (.function function :: items) =
      function :: implementations items := by
  simp [implementations, bodied]

theorem implementations_cons_of_isNone {function : FunctionDeclaration}
    (bodiless : function.body.isNone = true) (items : List Item) :
    implementations (.function function :: items) = implementations items := by
  simp_all [implementations]

theorem FunctionYields.isSome_body {target : Target}
    {function : FunctionDeclaration} {file : Template.File}
    (yielded : FunctionYields target function file) :
    function.body.isSome = true := by
  cases yielded with
  | body complaint bodied statements =>
      rw [bodied]
      rfl

/-- Where there are no reports the templates are those of the functions with a
body, in the same order. -/
theorem lowerItems_files {target : Target} (items : List Item)
    (silent : (lowerItems target items).reports = []) :
    List.Forall₂ (FunctionYields target) (implementations items)
      (lowerItems target items).files := by
  induction items with
  | nil => exact .nil
  | cons item others inductionHypothesis =>
      cases item with
      | imports declared => exact inductionHypothesis silent
      | typeDeclaration span => exact inductionHypothesis silent
      | statement statement => cases silent
      | function function =>
          rw [lowerItems] at silent ⊢
          split at silent
          · next omitted =>
              rw [if_pos omitted, implementations_cons_of_isNone
                (Bool.and_eq_true_iff.mp omitted).1]
              exact inductionHypothesis silent
          · next kept =>
              rw [if_neg kept]
              obtain ⟨silentHere, silentRest⟩ := List.append_eq_nil_iff.mp silent
              obtain ⟨file, _, yielded⟩ :=
                functionYields_of_reports_eq_nil silentHere
              rw [yielded.lowerFunction_eq,
                implementations_cons_of_isSome yielded.isSome_body]
              exact .cons yielded (inductionHypothesis silentRest)

theorem implementations_resolve (scope : Scope) (items : List Item) :
    implementations (items.map (Item.resolve scope)) =
      (implementations items).map (FunctionDeclaration.resolve scope) := by
  induction items with
  | nil => rfl
  | cons item others inductionHypothesis =>
      cases item with
      | imports declared => exact inductionHypothesis
      | typeDeclaration span => exact inductionHypothesis
      | statement statement => exact inductionHypothesis
      | function function =>
          rw [List.map_cons, Item.resolve]
          have same : (function.resolve scope).body.isSome = function.body.isSome :=
            Option.isSome_map
          cases bodied : function.body.isSome with
          | true =>
              rw [implementations_cons_of_isSome bodied,
                implementations_cons_of_isSome (same.trans bodied), List.map_cons,
                inductionHypothesis]
          | false =>
              have bodiless : function.body.isNone = true := by
                simpa using bodied
              have stays : (function.resolve scope).body.isNone = true := by
                simpa using same.trans bodied
              rw [implementations_cons_of_isNone bodiless,
                implementations_cons_of_isNone stays, inductionHypothesis]

/-- The templates of a text without diagnostics are those of its functions with
a body, in the order of their declarations. -/
theorem files_follow_declarations {target : Target} {source : SourceText}
    (clean : (transpile target source).diagnostics = []) :
    ∃ script, parse source.text = .ok script ∧
      List.Forall₂ (fun function file =>
          file.name = templateName function ∧ file.origin = some function.span)
        (implementations script.items) (transpile target source).files := by
  unfold transpile at clean ⊢
  cases parsed : parse source.text with
  | error error =>
      rw [parsed] at clean
      cases clean
  | ok script =>
      simp only [parsed, List.map_eq_nil_iff] at clean ⊢
      have yielded := lowerItems_files script.resolve.items clean
      rw [Module.resolve, implementations_resolve,
        List.forall₂_map_left_iff] at yielded
      refine ⟨script, rfl, yielded.imp fun function file made => ?_⟩
      cases made
      exact ⟨rfl, rfl⟩

/-- A template of a text without diagnostics comes from a function of its
script. -/
theorem functionYields_of_mem_files {target : Target} {source : SourceText}
    {file : Template.File}
    (clean : (transpile target source).isClean = true)
    (produced : file ∈ (transpile target source).files) :
    ∃ script function, parse source.text = .ok script ∧
      Item.function function ∈ script.resolve.items ∧
        FunctionYields target function file := by
  unfold transpile at clean produced
  cases parsed : parse source.text with
  | error error =>
      rw [parsed] at produced
      cases produced
  | ok script =>
      simp only [parsed, Transpiled.isClean, List.isEmpty_iff,
        List.map_eq_nil_iff] at clean produced
      obtain ⟨function, member, yielded⟩ :=
        functionYields_of_mem_lowerItems script.resolve.items clean produced
      exact ⟨script, function, rfl, member, yielded⟩

/-- The functions of a source text, with their names resolved. -/
def resolvedFunctions (source : SourceText) : List FunctionDeclaration :=
  match parse source.text with
  | .error _ => []
  | .ok script =>
      script.resolve.items.filterMap fun
        | .function declared => some declared
        | _ => none

theorem exists_resolvedFunction {target : Target} {source : SourceText}
    {file : Template.File}
    (clean : (transpile target source).isClean = true)
    (produced : file ∈ (transpile target source).files) :
    ∃ function ∈ resolvedFunctions source,
      FunctionYields target function file := by
  obtain ⟨script, function, parsed, member, yielded⟩ :=
    functionYields_of_mem_files clean produced
  refine ⟨function, ?_, yielded⟩
  simp only [resolvedFunctions, parsed]
  exact List.mem_filterMap.mpr ⟨.function function, member, rfl⟩

end VelocityScript.Lowering
