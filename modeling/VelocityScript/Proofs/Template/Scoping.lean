import VelocityScript.Proofs.Template.Contents
import VelocityScript.Proofs.Template.Temporary

/-!
# Variables that are read where they are set

A variable is visible after the `#set` that sets it, in the elements that
follow in the same block and in the blocks inside these.  The variable of a loop
is visible in the body of the loop.  Reads of other variables are stray.
-/

namespace VelocityScript.Template

/-- The variable that an element makes visible to the elements after it. -/
def Element.bound : Element → List String
  | .assign (.named target) _ _ => [target.name.text]
  | _ => []

/-- The variables that some elements make visible to the elements after them. -/
def boundBy (elements : List Element) : List String :=
  elements.flatMap Element.bound

/-- The names that are not visible. -/
def stray (visible names : List String) : List String :=
  names.filter fun name => !visible.contains name

mutual

/-- The stray reads of an element, where some variables are visible. -/
def Element.strayReads (visible : List String) : Element → List String
  | .assign place value _ =>
      stray visible (place.visit .reads ++ value.visit .reads)
  | .branch first others otherwise _ =>
      first.strayReads visible ++ strayReadsOfClauses visible others ++
        strayReadsOfOtherwise visible otherwise
  | .loop item iterable body _ =>
      stray visible (iterable.visit .reads) ++
        body.strayReads (item.name.text :: visible)
  | .emit value => stray visible (value.visit .reads)
  | .text _ _ | .newLine => []

def Block.strayReads (visible : List String) : Block → List String
  | .mk elements _ => strayReadsOf visible elements

def Clause.strayReads (visible : List String) : Clause → List String
  | .mk condition body _ =>
      stray visible (condition.visit .reads) ++ body.strayReads visible

/-- The stray reads of several elements: each makes its variable visible to
those after it. -/
def strayReadsOf (visible : List String) : List Element → List String
  | [] => []
  | element :: others =>
      element.strayReads visible ++
        strayReadsOf (element.bound ++ visible) others

def strayReadsOfClauses (visible : List String) : List Clause → List String
  | [] => []
  | clause :: others =>
      clause.strayReads visible ++ strayReadsOfClauses visible others

/-- The stray reads of the block that is taken when no condition holds. -/
def strayReadsOfOtherwise (visible : List String) : Option Block → List String
  | none => []
  | some block => block.strayReads visible

end

/-- No name is that of a temporary. -/
def Ordinary (names : List String) : Prop :=
  ∀ name ∈ names, isTemporary name = false

instance (names : List String) : Decidable (Ordinary names) :=
  inferInstanceAs (Decidable (∀ name ∈ names, isTemporary name = false))

theorem ordinary_nil : Ordinary [] :=
  List.forall_mem_nil _

theorem ordinary_cons {name : String} {names : List String} :
    Ordinary (name :: names) ↔ isTemporary name = false ∧ Ordinary names :=
  List.forall_mem_cons

theorem ordinary_append {first second : List String} :
    Ordinary (first ++ second) ↔ Ordinary first ∧ Ordinary second :=
  List.forall_mem_append

theorem Ordinary.temporaryName_not_mem {names : List String}
    (ordinary : Ordinary names) (number : Nat) :
    temporaryName number ∉ names := by
  intro member
  have told := ordinary _ member
  rw [isTemporary_temporaryName] at told
  cases told

theorem stray_append (visible first second : List String) :
    stray visible (first ++ second) =
      stray visible first ++ stray visible second :=
  List.filter_append first second

/-- Names that are not those of temporaries can be read anywhere. -/
theorem Ordinary.stray {names : List String} (ordinary : Ordinary names)
    (visible : List String) : Ordinary (stray visible names) :=
  fun name member => ordinary name (List.mem_filter.mp member).1

theorem stray_singleton_of_mem {visible : List String} {name : String}
    (seen : name ∈ visible) : stray visible [name] = [] := by
  simp [Template.stray, seen]

/-- Fewer names have fewer stray ones. -/
theorem ordinary_stray_of_subset {visible names others : List String}
    (ordinary : Ordinary (stray visible names)) (fewer : others ⊆ names) :
    Ordinary (stray visible others) := by
  intro name member
  obtain ⟨inOthers, unseen⟩ := List.mem_filter.mp member
  exact ordinary name (List.mem_filter.mpr ⟨fewer inOthers, unseen⟩)

theorem boundBy_append (first second : List Element) :
    boundBy (first ++ second) = boundBy first ++ boundBy second :=
  List.flatMap_append

/-- Elements that follow others are read where the variables of these are
visible. -/
theorem ordinary_strayReadsOf_append {first second : List Element}
    {visible : List String}
    (before : Ordinary (strayReadsOf visible first))
    (after : ∀ later, visible ⊆ later → boundBy first ⊆ later →
      Ordinary (strayReadsOf later second)) :
    Ordinary (strayReadsOf visible (first ++ second)) := by
  induction first generalizing visible with
  | nil => exact after visible (List.Subset.refl visible) (List.nil_subset _)
  | cons element others inductionHypothesis =>
      obtain ⟨here, there⟩ := ordinary_append.mp before
      refine ordinary_append.mpr ⟨here, inductionHypothesis there ?_⟩
      intro later seen bound
      obtain ⟨boundHere, visibleBefore⟩ := List.append_subset.mp seen
      exact after later visibleBefore
        (List.append_subset.mpr ⟨boundHere, bound⟩)

theorem strayReadsOf_singleton (visible : List String) (element : Element) :
    strayReadsOf visible [element] = element.strayReads visible :=
  List.append_nil _

end VelocityScript.Template
