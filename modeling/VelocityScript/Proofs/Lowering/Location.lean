import VelocityScript.Proofs.Script.Execution

/-!
# Where templates keep variables

A variable of a script is a variable of the template, or a property of the
arguments of the request.  Variables that are kept apart can be assigned one by
one, and temporaries do not touch them.
-/

namespace VelocityScript.Lowering

open Script
open Template (Interpretation Store)

/-- Where a template keeps a variable: under its own name, or among the
arguments of the request. -/
inductive Location where
  | plain (name : String)
  | argument (name : String)
  deriving DecidableEq

/-- Where a template for the given target keeps a variable. -/
def location (target : Target) (found : Variable) : Location :=
  if target = .appsync ∧ found.binding = .parameter then
    .argument (bareName found.name)
  else
    .plain (bareName found.name)

namespace Location

def path (origin : Template.Origin) : Location → Template.Path
  | .plain name => .name ⟨name, origin⟩
  | .argument name => .chain "ctx" ["arguments", name] origin

/-- The variable of the template that a location is in. -/
def root : Location → String
  | .plain name => name
  | .argument _ => "ctx"

/-- Whether neither of two locations is within the other. -/
def isApart : Location → Location → Bool
  | .argument name, .argument other => name != other
  | here, there => here.root != there.root

end Location

/-- The variables are kept in locations apart from each other and from
temporaries. -/
structure Separate (target : Target) (scope : List Variable) : Prop where
  ordinary : ∀ found ∈ scope,
    Template.isTemporary (location target found).root = false
  isApart : ∀ found ∈ scope, ∀ other ∈ scope, found ≠ other →
    (location target found).isApart (location target other) = true

/-- A property that is set has its new value, and the others keep theirs. -/
structure LawfulProperties {Datum : Type} (interpretation : Interpretation Datum) :
    Prop where
  same : ∀ base name datum,
    interpretation.property (interpretation.withProperty base name datum) name =
      datum
  other : ∀ base name datum found, found ≠ name →
    interpretation.property (interpretation.withProperty base name datum) found =
      interpretation.property base found

variable {Datum : Type} (interpretation : Interpretation Datum)

/-- What a location holds. -/
def Location.read (store : Store Datum) (place : Location) : Datum :=
  (place.path none).evaluate interpretation store

namespace Location

@[simp]
theorem read_plain (store : Store Datum) (name : String) :
    (plain name).read interpretation store = store name := rfl

@[simp]
theorem read_argument (store : Store Datum) (name : String) :
    (argument name).read interpretation store =
      interpretation.property
        (interpretation.property (store "ctx") "arguments") name := rfl

theorem evaluate_path (store : Store Datum) (place : Location)
    (origin : Template.Origin) :
    (place.path origin).evaluate interpretation store =
      place.read interpretation store := by
  cases place <;> rfl

/-- The variable of the template, when a location in it gets a new value. -/
def written (store : Store Datum) (datum : Datum) : Location → Datum
  | .plain _ => datum
  | .argument name =>
      interpretation.withProperty (store "ctx") "arguments"
        (interpretation.withProperty
          (interpretation.property (store "ctx") "arguments") name datum)

/-- The store after a location gets a new value. -/
def write (store : Store Datum) (datum : Datum) (place : Location) :
    Store Datum :=
  Function.update store place.root (place.written interpretation store datum)

theorem write?_path (store : Store Datum) (place : Location)
    (origin : Template.Origin) (datum : Datum) :
    (place.path origin).write? interpretation store datum =
      some (place.write interpretation store datum) := by
  cases place <;> rfl

variable {interpretation}

theorem read_write_self (lawful : LawfulProperties interpretation)
    (store : Store Datum) (datum : Datum) (place : Location) :
    place.read interpretation (place.write interpretation store datum) =
      datum := by
  cases place with
  | plain name => simp [write, written, root]
  | argument name => simp [write, written, root, lawful.same]

theorem read_write_of_isApart (lawful : LawfulProperties interpretation)
    (store : Store Datum) (datum : Datum) {place other : Location}
    (separated : place.isApart other = true) :
    other.read interpretation (place.write interpretation store datum) =
      other.read interpretation store := by
  cases place with
  | plain name =>
      cases other with
      | plain found =>
          have different : found ≠ name := by
            rintro rfl
            simp [isApart, root] at separated
          simp [write, root, different]
      | argument found =>
          have different : "ctx" ≠ name := by
            rintro rfl
            simp [isApart, root] at separated
          simp [write, root, different]
  | argument name =>
      cases other with
      | plain found =>
          have different : found ≠ "ctx" := by
            rintro rfl
            simp [isApart, root] at separated
          simp [write, root, different]
      | argument found =>
          have different : found ≠ name := by
            rintro rfl
            simp [isApart] at separated
          simp [write, written, root, lawful.same, lawful.other _ _ _ _ different]

theorem read_congr {store other : Store Datum} {place : Location}
    (same : store place.root = other place.root) :
    place.read interpretation store = place.read interpretation other := by
  cases place with
  | plain name => exact same
  | argument name =>
      have context : store "ctx" = other "ctx" := same
      simp [context]

theorem root_ne_temporaryName {place : Location}
    (ordinary : Template.isTemporary place.root = false) (number : Nat) :
    place.root ≠ Template.temporaryName number := by
  intro same
  rw [same, Template.isTemporary_temporaryName] at ordinary
  cases ordinary

theorem write_temporary (store : Store Datum) (datum : Datum)
    {place : Location} (ordinary : Template.isTemporary place.root = false)
    (number : Nat) :
    place.write interpretation store datum (Template.temporaryName number) =
      store (Template.temporaryName number) := by
  rw [write, Function.update_of_ne (root_ne_temporaryName ordinary number).symm]

end Location

/-- The store holds what the environment does, for the variables in scope. -/
def Represents (target : Target) (scope : List Variable) (store : Store Datum)
    (environment : Environment Datum) : Prop :=
  ∀ found ∈ scope,
    (location target found).read interpretation store = environment found

variable {interpretation}

/-- Assigning a variable and writing to its location are the same. -/
theorem Represents.write {target : Target} {scope : List Variable}
    {store : Store Datum} {environment : Environment Datum}
    (represents : Represents interpretation target scope store environment)
    (lawful : LawfulProperties interpretation) (separate : Separate target scope)
    {assigned : Variable} (member : assigned ∈ scope) (datum : Datum) :
    Represents interpretation target scope
      ((location target assigned).write interpretation store datum)
      (Function.update environment assigned datum) := by
  intro found inScope
  by_cases same : found = assigned
  · subst same
    rw [Location.read_write_self lawful, Function.update_self]
  · have separated := separate.isApart assigned member found inScope (Ne.symm same)
    rw [Location.read_write_of_isApart lawful store datum separated,
      Function.update_of_ne same, represents found inScope]

/-- Temporaries represent nothing. -/
theorem Represents.temporary {target : Target} {scope : List Variable}
    {store : Store Datum} {environment : Environment Datum}
    (represents : Represents interpretation target scope store environment)
    (separate : Separate target scope) (number : Nat) (datum : Datum) :
    Represents interpretation target scope
      (Function.update store (Template.temporaryName number) datum)
      environment := by
  intro found inScope
  have different := Location.root_ne_temporaryName
    (separate.ordinary found inScope) number
  rw [← represents found inScope]
  exact Location.read_congr (Function.update_of_ne different datum store)

end VelocityScript.Lowering
