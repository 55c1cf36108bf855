import VelocityScript.Proofs.Template.Temporary

/-!
# Directives that set temporaries

How the check moves through directives: what it knows grows, and directives
that each set one more temporary are accepted one after the other.
-/

namespace VelocityScript.Template

namespace CheckContext

/-- The temporaries from `first` up to `next` are set. -/
def Covers (context : CheckContext) (first next : Nat) : Prop :=
  ∀ number, first ≤ number → number < next →
    temporaryName number ∈ context.assigned

def after (context : CheckContext) (elements : List Element) : CheckContext :=
  { context with assigned := (checkElements context elements).2 }

theorem Covers.narrow {context : CheckContext} {first next lower upper : Nat}
    (covered : context.Covers first next) (above : first ≤ lower)
    (below : upper ≤ next) : context.Covers lower upper := by
  intro number isAbove isBelow
  exact covered number (Nat.le_trans above isAbove)
    (Nat.lt_of_lt_of_le isBelow below)

theorem checkName_of_valid {context : CheckContext} {name : Identifier}
    (valid : isValidIdentifier name.text = true) :
    context.checkName name = [] := by
  rw [checkName, if_pos valid]

theorem checkRead_of_not_temporary {context : CheckContext} {name : Identifier}
    (valid : isValidIdentifier name.text = true)
    (ordinary : isTemporary name.text = false) :
    context.checkRead name = [] := by
  simp [checkRead, checkName_of_valid valid, ordinary]

/-- A valid name may be read where it is set. -/
theorem checkRead_of_mem {context : CheckContext} {name : Identifier}
    (valid : isValidIdentifier name.text = true)
    (known : name.text ∈ context.assigned) : context.checkRead name = [] := by
  have member : context.assigned.contains name.text = true :=
    List.contains_iff_mem.mpr known
  rw [checkRead, checkName_of_valid valid, member, Bool.not_true,
    Bool.and_false]
  rfl

theorem checkRead_of_covers {context : CheckContext} {first next number : Nat}
    (covered : context.Covers first next) (above : first ≤ number)
    (below : number < next) (origin : Origin) :
    context.checkRead ⟨temporaryName number, origin⟩ = [] :=
  checkRead_of_mem (isValidIdentifier_temporaryName number)
    (covered number above below)

end CheckContext

theorem checkElements_append (context : CheckContext)
    (first second : List Element) :
    checkElements context (first ++ second) =
      ((checkElements context first).1 ++
          (checkElements (context.after first) second).1,
        (checkElements (context.after first) second).2) := by
  induction first generalizing context with
  | nil => rfl
  | cons element others inductionHypothesis =>
      simp only [List.cons_append, checkElements, CheckContext.after,
        inductionHypothesis, List.append_assoc]

theorem CheckContext.after_append (context : CheckContext)
    (first second : List Element) :
    context.after (first ++ second) = (context.after first).after second := by
  rw [after, checkElements_append]
  rfl

/-- The check finds nothing where the temporaries from `first` up to `next` are
set. -/
def Clean (first next : Nat) (check : CheckContext → List Finding) : Prop :=
  ∀ context, context.Covers first next → check context = []

theorem Clean.widen {first next lower upper : Nat}
    {check : CheckContext → List Finding} (clean : Clean lower upper check)
    (above : first ≤ lower) (below : upper ≤ next) : Clean first next check :=
  fun context covered => clean context (covered.narrow above below)

theorem Clean.append {first next : Nat}
    {left right : CheckContext → List Finding} (leftClean : Clean first next left)
    (rightClean : Clean first next right) :
    Clean first next fun context => left context ++ right context := by
  intro context covered
  simp only [leftClean context covered, rightClean context covered,
    List.append_nil]

/-- The place of an assignment only adds to what is set. -/
theorem Place.check_keeps (place : Place) (context : CheckContext) :
    context.assigned ⊆ (place.check context).2 := by
  intro name member
  cases place with
  | named target => exact List.mem_cons_of_mem _ member
  | property base name accessOrigin origin => exact member
  | index base subscript accessOrigin origin => exact member

mutual

/-- What is set stays set: the check only adds to it. -/
theorem Element.check_keeps (context : CheckContext) : (element : Element) →
    context.assigned ⊆ (element.check context).2
  | .assign place _ _ => place.check_keeps (context.enter .setDirective)
  | .branch first others otherwise _ => by
      intro name member
      apply checkOtherwise_keeps
      apply checkClauses_keeps
      exact first.check_keeps (context.enter .ifDirective) member
  | .loop item iterable body _ => by
      intro name member
      apply body.check_keeps
      exact List.mem_cons_of_mem _ member
  | .emit _ => fun _ member => member
  | .text _ _ => fun _ member => member
  | .newLine => fun _ member => member

theorem Block.check_keeps (context : CheckContext) : (block : Block) →
    context.assigned ⊆ (block.check context).2
  | .mk elements _ => checkElements_keeps context elements

theorem Clause.check_keeps (context : CheckContext) : (clause : Clause) →
    context.assigned ⊆ (clause.check context).2
  | .mk _ body _ => body.check_keeps context

theorem checkElements_keeps (context : CheckContext) :
    (elements : List Element) →
      context.assigned ⊆ (checkElements context elements).2
  | [] => fun _ member => member
  | element :: others => by
      intro name member
      have inElement := element.check_keeps context member
      exact checkElements_keeps { context with assigned := _ } others inElement

theorem checkClauses_keeps (context : CheckContext) :
    (clauses : List Clause) →
      context.assigned ⊆ (checkClauses context clauses).2
  | [] => fun _ member => member
  | clause :: others => by
      intro name member
      have inClause := clause.check_keeps context member
      exact checkClauses_keeps { context with assigned := _ } others inClause

theorem checkOtherwise_keeps (context : CheckContext) :
    (otherwise : Option Block) →
      context.assigned ⊆ (checkOtherwise context otherwise).2
  | none => fun _ member => member
  | some block => block.check_keeps context

end

theorem CheckContext.after_keeps (context : CheckContext)
    (elements : List Element) :
    context.assigned ⊆ (context.after elements).assigned :=
  checkElements_keeps context elements

/-- The check accepts the elements wherever they stand, and knows after them
that the temporaries from `first` up to `next` are set. -/
structure Sets (first next : Nat) (elements : List Element) : Prop where
  accepted : ∀ context, (checkElements context elements).1 = []
  covers : ∀ context : CheckContext, (context.after elements).Covers first next

namespace Sets

theorem nil (first : Nat) : Sets first first [] where
  accepted _ := rfl
  covers _ _ above below := absurd below (Nat.not_lt.mpr above)

theorem append {first middle next : Nat} {before after : List Element}
    (setBefore : Sets first middle before) (setAfter : Sets middle next after) :
    Sets first next (before ++ after) where
  accepted context := by
    rw [checkElements_append, setBefore.accepted, setAfter.accepted]
    rfl
  covers context := by
    rw [CheckContext.after_append]
    intro number above below
    by_cases early : number < middle
    · exact CheckContext.after_keeps _ after
        (setBefore.covers context number above early)
    · exact setAfter.covers _ number (Nat.not_lt.mp early) below

/-- One more assignment, which reads what is set before it. -/
theorem assign {first next : Nat} {elements : List Element}
    (set : Sets first next elements) {place : Place} {value : Expression}
    (valueClean : Clean first next value.check)
    (placeClean : Clean first next fun context => (place.check context).1)
    (origin : Origin) :
    Sets first next (elements ++ [.assign place value origin]) where
  accepted context := by
    have covered : ((context.after elements).enter .setDirective).Covers first
        next := set.covers context
    have valueFindings := valueClean _ covered
    have placeFindings := placeClean _ covered
    simp only at placeFindings
    rw [checkElements_append, set.accepted]
    simp only [checkElements, Element.check, valueFindings, placeFindings,
      List.append_nil]
  covers context := by
    rw [CheckContext.after_append]
    exact fun number above below =>
      CheckContext.after_keeps _ _ (set.covers context number above below)

/-- One more temporary, whose value reads what is set before it. -/
theorem temporary {first next : Nat} {elements : List Element}
    (set : Sets first next elements) {value : Expression}
    (valueClean : Clean first next value.check) (origin whole : Origin) :
    Sets first (next + 1)
      (elements ++
        [.assign (.named (.ofIdentifier ⟨temporaryName next, origin⟩)) value
          whole]) := by
  have placeClean : Clean first next fun context =>
      ((Place.named (.ofIdentifier ⟨temporaryName next, origin⟩)).check
        context).1 := by
    intro context _
    exact CheckContext.checkName_of_valid (isValidIdentifier_temporaryName next)
  have assigned := set.assign valueClean placeClean whole
  refine ⟨assigned.accepted, ?_⟩
  intro context number above below
  by_cases earlier : number < next
  · exact assigned.covers context number above earlier
  · have newest : number = next := by omega
    subst newest
    rw [CheckContext.after_append]
    exact List.mem_cons_self

end Sets

end VelocityScript.Template
