import VelocityScript.Lowering.Function
import VelocityScript.Proofs.Script.ScopeStack

/-!
# Functions are translated in isolation

Each item of a module has a portion of the outcome.  The portion of a
function depends on the imports and the statements of the module alone, except
that a signature has none where its implementation follows.  So a function that
implements no signature of a module can be put anywhere among its items: it adds
its portion at its place and changes no other one.
-/

namespace VelocityScript.Lowering

open Script

/-! ## Shares of items -/

/-- The outcome of a function by itself.  Its lowering starts with no temporaries
and without preludes. -/
def ownPortion (target : Target) (function : FunctionDeclaration) : Outcome :=
  let (file, reports) := lowerFunction target function
  ⟨file.toList, reports⟩

/-- What an item adds to the outcome of its module, where others follow. -/
def portion (target : Target) (others : List Item) : Item → Outcome
  | .imports _ => ⟨[], []⟩
  | .typeDeclaration _ => ⟨[], []⟩
  | .statement statement => ⟨[], [⟨.topLevel statement.syntaxName, statement.span⟩]⟩
  | .function function =>
      if function.body.isNone &&
          others.any (implements (function.name.map Identifier.name)) then
        ⟨[], []⟩
      else
        ownPortion target function

/-- Whether an item is a signature of the given name, without a body. -/
def announces (name : Option String) : Item → Bool
  | .function declared =>
      declared.body.isNone && declared.name.map Identifier.name == name
  | _ => false

/-- The portions of all items, in order. -/
def portions (target : Target) : List Item → List Outcome
  | [] => []
  | item :: others => portion target others item :: portions target others

/-- All outcomes as one. -/
def Outcome.gather (outcomes : List Outcome) : Outcome :=
  ⟨outcomes.flatMap Outcome.files, outcomes.flatMap Outcome.reports⟩

theorem lowerItems_cons (target : Target) (item : Item) (others : List Item) :
    lowerItems target (item :: others) =
      ⟨(portion target others item).files ++ (lowerItems target others).files,
        (portion target others item).reports ++ (lowerItems target others).reports⟩ := by
  cases item with
  | imports declared => rfl
  | typeDeclaration span => rfl
  | statement content => rfl
  | function function =>
      rw [lowerItems, portion]
      split
      · rfl
      · rfl

theorem lowerItems_eq_gather (target : Target) (items : List Item) :
    lowerItems target items = .gather (portions target items) := by
  induction items with
  | nil => rfl
  | cons item others inductionHypothesis =>
      rw [lowerItems_cons, inductionHypothesis]
      rfl

/-! ## One more function -/

section Enlarged

variable {target : Target} {function : FunctionDeclaration}

/-- A function with a body is never left out. -/
theorem portion_of_bodied (bodied : function.body.isSome = true) (others : List Item) :
    portion target others (.function function) = ownPortion target function := by
  have present : function.body.isNone = false := by
    rw [Option.isNone_eq_false_iff]
    exact bodied
  rw [portion, present, Bool.false_and]
  exact if_neg Bool.false_ne_true

/-- A function implements nothing but signatures of its name. -/
theorem any_implements_insert {name : Option String} (before after : List Item)
    (other : name ≠ function.name.map Identifier.name) :
    (before ++ .function function :: after).any (implements name) =
      (before ++ after).any (implements name) := by
  have apart : implements name (.function function) = false := by
    rw [implements, Bool.and_eq_false_iff]
    exact Or.inr (beq_eq_false_iff_ne.mpr other.symm)
  rw [List.any_append, List.any_append, List.any_cons, apart, Bool.false_or]

theorem portion_insert {before after : List Item} {item : Item}
    (unannounced : announces (function.name.map Identifier.name) item = false) :
    portion target (before ++ .function function :: after) item =
      portion target (before ++ after) item := by
  cases item with
  | imports declared => rfl
  | typeDeclaration span => rfl
  | statement content => rfl
  | function signature =>
      by_cases bodied : signature.body.isSome = true
      · rw [portion_of_bodied bodied, portion_of_bodied bodied]
      · have missing : signature.body.isNone = true := by
          simpa using bodied
        rw [announces, missing, Bool.true_and, beq_eq_false_iff_ne] at unannounced
        rw [portion, portion, any_implements_insert before after unannounced]

/-- The function adds its portion where it stands among the items. -/
theorem portions_insert (target : Target) (bodied : function.body.isSome = true)
    (before after : List Item)
    (unannounced : ∀ item ∈ before ++ after,
      announces (function.name.map Identifier.name) item = false) :
    portions target (before ++ .function function :: after) =
      (portions target (before ++ after)).insertIdx before.length
        (ownPortion target function) := by
  induction before with
  | nil =>
      rw [List.nil_append, List.nil_append, portions, portion_of_bodied bodied]
      rfl
  | cons item others inductionHypothesis =>
      obtain ⟨here, later⟩ := List.forall_mem_cons.mp unannounced
      rw [List.cons_append, List.cons_append, portions, portions,
        portion_insert here, inductionHypothesis later]
      rfl

end Enlarged

/-! ## Scopes of modules -/

/-- The imports and the statements of a module. -/
def surroundings (script : Module) : Module :=
  ⟨script.items.filter fun
    | .imports _ => true
    | .statement _ => true
    | _ => false⟩

theorem scope_surroundings (script : Module) :
    (surroundings script).scope = script.scope := by
  unfold surroundings Module.scope
  dsimp only
  generalize ([] : Scope) = scope
  induction script.items generalizing scope with
  | nil => rfl
  | cons item others inductionHypothesis =>
      cases item with
      | imports declared => exact inductionHypothesis _
      | statement content => exact inductionHypothesis _
      | function declared => exact inductionHypothesis _
      | typeDeclaration span => exact inductionHypothesis _

theorem scope_insert (before after : List Item) (function : FunctionDeclaration) :
    Module.scope ⟨before ++ .function function :: after⟩ =
      Module.scope ⟨before ++ after⟩ := by
  unfold Module.scope
  rw [List.foldl_append, List.foldl_append]
  rfl

theorem announces_resolve (name : Option String) (scope : Scope) (item : Item) :
    announces name (item.resolve scope) = announces name item := by
  cases item with
  | imports declared => rfl
  | typeDeclaration span => rfl
  | statement content => rfl
  | function declared =>
      rw [Item.resolve, announces, announces, FunctionDeclaration.resolve,
        Option.isNone_map]

theorem resolve_insert (before after : List Item) (function : FunctionDeclaration) :
    (Module.resolve ⟨before ++ .function function :: after⟩).items =
      before.map (Item.resolve (Module.scope ⟨before ++ after⟩)) ++
        .function (function.resolve (Module.scope ⟨before ++ after⟩)) ::
          after.map (Item.resolve (Module.scope ⟨before ++ after⟩)) := by
  rw [Module.resolve, scope_insert, List.map_append, List.map_cons]
  rfl

/-! ## Isolation -/

/-- A function with a body that implements no signature of a module adds its own
outcome at its place among the items, resolved against the imports and the
statements of the module, and leaves the portions of all other items as they are.
The one stack of scopes is the same behind every item. -/
theorem function_is_translated_in_isolation {before after : List Item}
    {function : FunctionDeclaration} (bodied : function.body.isSome = true)
    (unannounced : ∀ item ∈ before ++ after,
      announces (function.name.map Identifier.name) item = false)
    (target : Target) :
    let script : Module := ⟨before ++ after⟩
    let enlarged : Module := ⟨before ++ .function function :: after⟩
    let others := portions target script.resolve.items
    let own := ownPortion target (function.resolve (surroundings script).scope)
    script.visit.run [] = (script.resolve, [script.scope]) ∧
      enlarged.visit.run [] = (enlarged.resolve, [script.scope]) ∧
      lowerModule target script.resolve = .gather others ∧
      lowerModule target enlarged.resolve =
        .gather (others.insertIdx before.length own) := by
  intro script enlarged others own
  have kept : enlarged.scope = script.scope := scope_insert before after function
  have resolvedBody : (function.resolve script.scope).body.isSome = true := by
    rw [FunctionDeclaration.resolve, Option.isSome_map]
    exact bodied
  have stillUnannounced :
      ∀ item ∈ before.map (Item.resolve script.scope) ++
          after.map (Item.resolve script.scope),
        announces ((function.resolve script.scope).name.map Identifier.name) item =
          false := by
    rw [← List.map_append, List.forall_mem_map]
    intro item member
    rw [announces_resolve]
    exact unannounced item member
  have inserted := portions_insert target resolvedBody _ _ stillUnannounced
  rw [List.length_map, ← List.map_append] at inserted
  refine ⟨script.visit_run, ?_, lowerItems_eq_gather target _, ?_⟩
  · rw [enlarged.visit_run, kept]
  · rw [lowerModule, resolve_insert, lowerItems_eq_gather, inserted]
    dsimp only [own]
    rw [scope_surroundings]
    rfl

/-- An exported function that returns a list with a sum, or its signature. -/
def exportedFunction (name : String) (implemented : Bool) : FunctionDeclaration where
  name := some ⟨name, ⟨0, 0⟩, .unresolved⟩
  modifiers := [.exported]
  parameters := []
  body :=
    if implemented then
      some
        ⟨[.result
          (some (.array
            [.binary .add (.number "1" ⟨0, 0⟩) (.number "2" ⟨0, 0⟩) ⟨0, 0⟩] ⟨0, 0⟩))
          ⟨⟨0, 0⟩, 0⟩], ⟨0, 0⟩⟩
    else
      none
  isGenerator := false
  span := ⟨0, 0⟩

/-- A function between the signature and the implementation of another one. -/
theorem function_is_translated_in_isolation_between :
    let before := [Item.function (exportedFunction "g" false)]
    let after := [Item.function (exportedFunction "g" true)]
    let function := exportedFunction "f" true
    function.body.isSome = true ∧
      (∀ item ∈ before ++ after, announces (some "f") item = false) ∧
      (lowerModule .appsync
        (Module.resolve ⟨before ++ .function function :: after⟩)).files.map (·.name) =
          ["f", "g"] ∧
      lowerModule .appsync (Module.resolve ⟨before ++ .function function :: after⟩) =
        .gather ((portions .appsync (Module.resolve ⟨before ++ after⟩).items).insertIdx
          1 (ownPortion .appsync
            (function.resolve (surroundings ⟨before ++ after⟩).scope))) := by
  intro before after function
  have bodied : function.body.isSome = true := rfl
  have unannounced : ∀ item ∈ before ++ after, announces (some "f") item = false := by
    decide
  obtain ⟨_, _, _, enlarged⟩ :=
    function_is_translated_in_isolation bodied unannounced .appsync
  exact ⟨bodied, unannounced, by decide +kernel, enlarged⟩

end VelocityScript.Lowering
