import VelocityScript.Proofs.Lowering.Provenance
import VelocityScript.Proofs.Template.Scoping

/-!
# The temporaries of a step

A step of the lowering makes the temporaries of one range of numbers.  It sets
each of them once, in its directives, and reads each, there or in its result.
Steps that follow each other have ranges that follow each other, so what they
have together is counted by adding up.
-/

namespace VelocityScript.Lowering

open Script

/-- How often a temporary is set by a step that makes those from one number up
to another. -/
def share (first next number : Nat) : Nat :=
  if first ≤ number ∧ number < next then 1 else 0

theorem share_self (first number : Nat) : share first first number = 0 := by
  unfold share
  split <;> omega

theorem share_add {first middle next : Nat} (before : first ≤ middle)
    (after : middle ≤ next) (number : Nat) :
    share first middle number + share middle next number =
      share first next number := by
  unfold share
  split <;> split <;> split <;> omega

theorem share_succ {first next : Nat} (counted : first ≤ next) (number : Nat) :
    share first next number + (if next = number then 1 else 0) =
      share first (next + 1) number := by
  unfold share
  split <;> split <;> split <;> omega

theorem count_temporaryName (first number : Nat) :
    [Template.temporaryName first].count (Template.temporaryName number) =
      if first = number then 1 else 0 := by
  rw [List.count_singleton]
  congr 1
  rw [beq_iff_eq, eq_iff_iff]
  exact ⟨Template.temporaryName_injective, congrArg _⟩

/-- The directives of a step and a node after them have the temporaries from
`first` up to `next`.  Each is set once and read; the directives read none that
is not visible, and neither does the node where the variables of the directives
are visible. -/
structure Allots (first next : Nat) (directives : List Template.Element)
    (targets reads : List String) (strayReads : List String → List String) :
    Prop where
  counted : first ≤ next
  single : ∀ number,
    (Template.visitElements .targets directives ++ targets).count
      (Template.temporaryName number) = share first next number
  used : ∀ number, first ≤ number → number < next →
    Template.temporaryName number ∈
      Template.visitElements .reads directives ++ reads
  closed : ∀ visible,
    Template.Ordinary (Template.strayReadsOf visible directives)
  follows : ∀ visible, Template.boundBy directives ⊆ visible →
    Template.Ordinary (strayReads visible)

/-- A node that sets nothing is given by the names it reads. -/
abbrev AllotsReads (first next : Nat) (directives : List Template.Element)
    (reads : List String) : Prop :=
  Allots first next directives [] reads fun visible =>
    Template.stray visible reads

/-- Elements that have all temporaries of a range. -/
abbrev Encloses (first next : Nat) (elements : List Template.Element) : Prop :=
  Allots first next [] (Template.visitElements .targets elements)
    (Template.visitElements .reads elements) fun visible =>
      Template.strayReadsOf visible elements

namespace Allots

variable {first middle next : Nat}
variable {before after directives : List Template.Element}
variable {targets otherTargets reads otherReads : List String}
variable {strayReads otherStrayReads : List String → List String}

/-- A node without temporaries needs no directives. -/
theorem alone (unset : Template.Ordinary targets)
    (unread : ∀ visible, Template.Ordinary (strayReads visible)) :
    Allots first first [] targets reads strayReads where
  counted := Nat.le_refl first
  single number := by
    rw [share_self]
    exact List.count_eq_zero.mpr (unset.temporaryName_not_mem number)
  used number low high := absurd (Nat.lt_of_le_of_lt low high) (Nat.lt_irrefl _)
  closed _ := Template.ordinary_nil
  follows visible _ := unread visible

/-- Two steps, one after the other, have two ranges of temporaries. -/
theorem append
    (firstAllots : Allots first middle before targets reads strayReads)
    (secondAllots :
      Allots middle next after otherTargets otherReads otherStrayReads) :
    Allots first next (before ++ after) (targets ++ otherTargets)
      (reads ++ otherReads) fun visible =>
        strayReads visible ++ otherStrayReads visible where
  counted := Nat.le_trans firstAllots.counted secondAllots.counted
  single number := by
    have inFirst := firstAllots.single number
    have inSecond := secondAllots.single number
    rw [← share_add firstAllots.counted secondAllots.counted, ← inFirst,
      ← inSecond]
    simp only [Template.visitElements_append, List.count_append]
    omega
  used number low high := by
    have found : Template.temporaryName number ∈
        (Template.visitElements .reads before ++ reads) ++
          (Template.visitElements .reads after ++ otherReads) := by
      rcases Nat.lt_or_ge number middle with early | late
      · exact List.mem_append_left _ (firstAllots.used number low early)
      · exact List.mem_append_right _ (secondAllots.used number late high)
    simp only [Template.visitElements_append, List.mem_append] at found ⊢
    grind
  closed visible := by
    refine Template.ordinary_strayReadsOf_append (firstAllots.closed visible) ?_
    exact fun later _ _ => secondAllots.closed later
  follows visible bound := by
    rw [Template.boundBy_append] at bound
    obtain ⟨boundFirst, boundSecond⟩ := List.append_subset.mp bound
    exact Template.ordinary_append.mpr
      ⟨firstAllots.follows visible boundFirst,
        secondAllots.follows visible boundSecond⟩

/-- Another node has the same temporaries. -/
theorem replace (allots : Allots first next directives targets reads strayReads)
    (same : ∀ number, otherTargets.count (Template.temporaryName number) =
      targets.count (Template.temporaryName number))
    (more : reads ⊆ otherReads)
    (follows : ∀ visible, Template.boundBy directives ⊆ visible →
      Template.Ordinary (otherStrayReads visible)) :
    Allots first next directives otherTargets otherReads otherStrayReads where
  counted := allots.counted
  single number := by
    rw [List.count_append, same, ← List.count_append]
    exact allots.single number
  used number low high := by
    rcases List.mem_append.mp (allots.used number low high) with here | there
    · exact List.mem_append_left _ here
    · exact List.mem_append_right _ (more there)
  closed := allots.closed
  follows := follows

/-- Elements after the directives stand for the node. -/
theorem placed {elements : List Template.Element}
    (allots : Allots first next directives targets reads strayReads)
    (same : ∀ number, (Template.visitElements .targets elements).count
      (Template.temporaryName number) =
        targets.count (Template.temporaryName number))
    (more : ∀ number, Template.temporaryName number ∈ reads →
      Template.temporaryName number ∈ Template.visitElements .reads elements)
    (follows : ∀ visible, Template.boundBy directives ⊆ visible →
      Template.Ordinary (Template.strayReadsOf visible elements)) :
    Encloses first next (directives ++ elements) where
  counted := allots.counted
  single number := by
    rw [← allots.single number, Template.visitElements_append]
    simp only [Template.visitElements, List.nil_append, List.count_append, same]
  used number low high := by
    rw [Template.visitElements_append]
    refine List.mem_append_right _ ?_
    rcases List.mem_append.mp (allots.used number low high) with here | there
    · exact List.mem_append_left _ here
    · exact List.mem_append_right _ (more number there)
  closed _ := Template.ordinary_nil
  follows visible _ :=
    Template.ordinary_strayReadsOf_append (allots.closed visible)
      fun later _ bound => follows later bound

end Allots

theorem reads_valueless (value : Template.Value) :
    Template.Visitor.reads.value value = [] := rfl

namespace AllotsReads

variable {first middle next : Nat}
variable {before after directives : List Template.Element}
variable {reads otherReads : List String}

theorem append (firstAllots : AllotsReads first middle before reads)
    (secondAllots : AllotsReads middle next after otherReads) :
    AllotsReads first next (before ++ after) (reads ++ otherReads) := by
  have both := Allots.append firstAllots secondAllots
  simp only [← Template.stray_append] at both
  exact both

/-- A node that reads nothing. -/
theorem nothing (first : Nat) : AllotsReads first first [] [] :=
  .alone Template.ordinary_nil fun _ => Template.ordinary_nil

/-- A node that reads one variable, which is no temporary. -/
theorem ordinary {name : String} (first : Nat)
    (ordinary : Template.isTemporary name = false) :
    AllotsReads first first [] [name] :=
  .alone Template.ordinary_nil
    (Template.Ordinary.stray (List.forall_mem_singleton.mpr ordinary))

theorem interpolated {expression : Template.Expression}
    (allots : AllotsReads first next directives (expression.visit .reads)) :
    AllotsReads first next directives
      (expression.interpolated.visit .reads) := by
  rw [Template.visit_interpolated reads_valueless]
  exact allots

/-- One more temporary takes the value of an expression. -/
theorem hoisting {expression : Template.Expression}
    (allots : AllotsReads first next directives (expression.visit .reads)) :
    AllotsReads first (next + 1)
      (directives ++ (Lowering.hoisting next expression).hoisted)
      [Template.temporaryName next] where
  counted := Nat.le_succ_of_le allots.counted
  single number := by
    have assigned : (Template.visitElements .targets
        (Lowering.hoisting next expression).hoisted) =
          [Template.temporaryName next] := by
      rw [Lowering.hoisting, Template.visitElements_singleton,
        Template.Element.visit,
        expression.visit_eq_nil Template.Visitor.targets_barren]
      rfl
    rw [← share_succ allots.counted, ← allots.single number,
      ← count_temporaryName, ← assigned, Template.visitElements_append]
    simp only [List.append_nil, List.count_append]
  used number low high := by
    rw [Template.visitElements_append, Lowering.hoisting,
      Template.visitElements_singleton]
    rcases Nat.lt_succ_iff_lt_or_eq.mp high with early | rfl
    · exact List.mem_append_left _ (allots.used number low early)
    · exact List.mem_append_right _ List.mem_cons_self
  closed visible := by
    refine Template.ordinary_strayReadsOf_append (allots.closed visible) ?_
    intro later _ bound
    rw [Lowering.hoisting, Template.strayReadsOf_singleton]
    exact allots.follows later bound
  follows visible bound := by
    rw [Template.boundBy_append] at bound
    have seen : Template.temporaryName next ∈ visible :=
      bound (List.mem_append_right _ List.mem_cons_self)
    rw [Template.stray_singleton_of_mem seen]
    exact Template.ordinary_nil

/-- One more directive sets a place that is no temporary.  It reads some of what
is read after it, and what is left. -/
theorem assign {place : Template.Place} {value : Template.Expression}
    (allots : AllotsReads first next directives reads)
    (unset : Template.Ordinary (place.visit .targets))
    (within : place.visit .reads ++ value.visit .reads ⊆ reads)
    (fewer : otherReads ⊆ reads)
    (kept : ∀ number, Template.temporaryName number ∈ reads →
      Template.temporaryName number ∈
        place.visit .reads ++ value.visit .reads ++ otherReads)
    (origin : Template.Origin) :
    AllotsReads first next (directives ++ [.assign place value origin])
      otherReads where
  counted := allots.counted
  single number := by
    have absent := List.count_eq_zero.mpr (unset.temporaryName_not_mem number)
    rw [← allots.single number, Template.visitElements_append,
      Template.visitElements_singleton, Template.Element.visit,
      value.visit_eq_nil Template.Visitor.targets_barren]
    simp only [List.append_nil, List.count_append, absent, Nat.add_zero]
  used number low high := by
    rw [Template.visitElements_append, Template.visitElements_singleton,
      List.append_assoc]
    rcases List.mem_append.mp (allots.used number low high) with here | there
    · exact List.mem_append_left _ here
    · exact List.mem_append_right _ (kept number there)
  closed visible := by
    refine Template.ordinary_strayReadsOf_append (allots.closed visible) ?_
    intro later _ bound
    rw [Template.strayReadsOf_singleton]
    exact Template.ordinary_stray_of_subset (allots.follows later bound) within
  follows visible bound := by
    rw [Template.boundBy_append] at bound
    exact Template.ordinary_stray_of_subset
      (allots.follows visible (List.append_subset.mp bound).1) fewer

end AllotsReads

/-! ## Expressions -/

/-- A reference to a place reads what the place reads, or the variable that it
is. -/
theorem reads_place_reference (place : Template.Place) :
    place.reference.path.visit .reads =
      place.visit .reads ++ place.visit .targets := by
  cases place with
  | named variableName => rfl
  | property base name accessOrigin origin =>
      rw [Template.Place.visit, Template.Place.visit,
        base.visit_eq_nil Template.Visitor.targets_barren]
      exact (List.append_nil _).symm
  | index base subscript accessOrigin origin =>
      rw [Template.Place.visit, Template.Place.visit,
        base.visit_eq_nil Template.Visitor.targets_barren,
        subscript.visit_eq_nil Template.Visitor.targets_barren]
      exact (List.append_nil _).symm

/-- An expression lowers to no temporary as a whole: only what needs a value or
a path makes one. -/
theorem Derives.ordinary_name {target : Target} {source : Expression}
    {first next : Nat} {result : Template.Expression} {effect : Effect}
    {name : Template.Identifier} {origin : Template.Origin}
    (derived : Derives target (.expression source) first result next effect)
    (unreserved : Unreserved source.names)
    (named : result.reference? = some ⟨.name name, origin⟩) :
    Template.isTemporary name.text = false := by
  cases derived with
  | identifier inner =>
      cases inner with
      | argument bound inner => cases named
      | variableName free inner =>
          obtain ⟨-, rfl, -, -⟩ := inner.name_inversion
          cases named
          exact unreserved _ (name_mem_names _)
  | receiver =>
      cases named
      exact (ordinary_of_mem_ownNames (receiver_mem_ownNames target)).2
  | numeral parsed =>
      cases parsed
      cases named
  | string =>
      unfold Template.Value.quoted at named
      split at named <;> cases named
  | assignment combined left right placed =>
      obtain ⟨reference, referred, made⟩ := Option.bind_eq_some_iff.mp placed
      have read := Template.Reference.place?_eq_some_iff.mp made
      have same : reference = ⟨.name name, origin⟩ := by
        rw [← read]
        exact Option.some.inj named
      -- The value of an assignment is its place, which was lowered before it.
      exact left.ordinary_name (unreserved_append.mp unreserved).1
        (referred.trans (congrArg some same))
  | rangeCall called range =>
      cases range
      cases named
  | call called other helper =>
      cases helper
      cases named
  | boolean | template | array | object | parenthesized | unary | binary | access
  | index | methodCall => cases named
termination_by sizeOf source

theorem Derives.ordinary_place {target : Target} {source : Expression}
    {first next : Nat} {result : Template.Expression} {effect : Effect}
    {place : Template.Place}
    (derived : Derives target (.expression source) first result next effect)
    (unreserved : Unreserved source.names)
    (referred : result.reference? = some place.reference) :
    Template.Ordinary (place.visit .targets) := by
  cases place with
  | named variableName =>
      exact List.forall_mem_singleton.mpr
        (derived.ordinary_name unreserved referred)
  | property base name accessOrigin origin =>
      rw [Template.Place.visit,
        base.visit_eq_nil Template.Visitor.targets_barren]
      exact Template.ordinary_nil
  | index base subscript accessOrigin origin =>
      rw [Template.Place.visit,
        base.visit_eq_nil Template.Visitor.targets_barren,
        subscript.visit_eq_nil Template.Visitor.targets_barren]
      exact Template.ordinary_nil

/-- An assignment reads what its place and its right side read. -/
theorem reads_assignment (combined : Option Template.BinaryOperator)
    (place : Template.Place) (right : Template.Expression) (span : Span) :
    place.visit .reads ++
        (assignedValue combined place right span).visit .reads ⊆
      place.reference.path.visit .reads ++ right.visit .reads := by
  rw [reads_place_reference]
  refine List.append_subset.mpr ⟨?_, ?_⟩
  · rw [List.append_assoc]
    exact List.subset_append_left _ _
  · rw [← reads_place_reference]
    cases combined with
    | none => exact List.subset_append_right _ _
    | some operator => exact List.Subset.refl _

theorem reads_right_subset_assignedValue
    (combined : Option Template.BinaryOperator) (place : Template.Place)
    (right : Template.Expression) (span : Span) :
    right.visit .reads ⊆
      (assignedValue combined place right span).visit .reads := by
  cases combined with
  | none => exact List.Subset.refl _
  | some operator => exact List.subset_append_right _ _

/-- The sides of an assignment, before it is made: its place is no temporary,
and is read like its right side. -/
theorem Derives.allots_sides {target : Target} {source : Expression}
    {first middle next : Nat} {left right : Template.Expression}
    {place : Template.Place} {before after : Effect}
    (derived : Derives target (.expression source) first left middle before)
    (unreserved : Unreserved source.names)
    (placed : left.reference?.bind Template.Reference.place? = some place)
    (leftAllots :
      AllotsReads first middle before.hoisted (left.visit .reads))
    (rightAllots :
      AllotsReads middle next after.hoisted (right.visit .reads)) :
    Template.Ordinary (place.visit .targets) ∧
      AllotsReads first next (before ++ after).hoisted
        (place.reference.path.visit .reads ++
          right.interpolated.visit .reads) := by
  obtain ⟨reference, referred, made⟩ := Option.bind_eq_some_iff.mp placed
  have read := Template.Reference.place?_eq_some_iff.mp made
  rw [← read] at referred
  refine ⟨derived.ordinary_place unreserved referred, ?_⟩
  rw [Template.visit_of_reference? reads_valueless referred]
  exact leftAllots.append rightAllots.interpolated

/-- A derivation has the temporaries that it makes. -/
theorem Derives.allots {target : Target} {task : Task} {first next : Nat}
    {result : task.Result} {effect : Effect}
    (derived : Derives target task first result next effect)
    (unreserved : Unreserved task.names) :
    AllotsReads first next effect.hoisted (task.visit .reads result) := by
  induction derived with
  | name valid => exact .nothing _
  | argument bound inner allotted =>
      obtain ⟨-, -, rfl, rfl⟩ := inner.name_inversion
      have inContext : "ctx" ∈ ownNames := by decide
      exact .ordinary _ (ordinary_of_mem_ownNames inContext).2
  | variableName free inner allotted =>
      obtain ⟨-, rfl, rfl, rfl⟩ := inner.name_inversion
      rw [Effect.append_empty, naming_hoisted]
      exact .ordinary _ (unreserved _ (name_mem_names _))
  | number parsed => exact .nothing _
  | identifierKey => exact .nothing _
  | stringKey =>
      simp only [Task.visit, Template.visit_quoted reads_valueless]
      exact .nothing _
  | numberKey parsed allotted => exact allotted unreserved_nil
  | identifier named allotted => exact allotted unreserved
  | receiver =>
      exact .ordinary _
        (ordinary_of_mem_ownNames (receiver_mem_ownNames target)).2
  | numeral parsed allotted => exact allotted unreserved_nil
  | string =>
      simp only [Task.visit, Template.Expression.visit,
        Template.visit_quoted reads_valueless]
      exact .nothing _
  | boolean => exact .nothing _
  | template parts allotted => exact allotted unreserved
  | array values allotted => exact allotted unreserved
  | object members allotted => exact allotted unreserved
  | parenthesized inner allotted => exact (allotted unreserved).interpolated
  | unary lowered operand allotted => exact (allotted unreserved).interpolated
  | binary lowered left right leftAllotted rightAllotted =>
      simp only [Task.names, Expression.names, unreserved_append] at unreserved
      exact (leftAllotted unreserved.1).interpolated.append
        (rightAllotted unreserved.2).interpolated
  | @assignment _ combined _ _ span _ _ _ _ right place _ _ _ left _ placed
      leftAllotted rightAllotted =>
      simp only [Task.names, Expression.names, unreserved_append] at unreserved
      obtain ⟨unset, both⟩ := left.allots_sides unreserved.1 placed
        (leftAllotted unreserved.1) (rightAllotted unreserved.2)
      refine both.assign unset (reads_assignment _ _ _ _)
        (List.subset_append_left _ _) ?_ _
      intro number member
      rcases List.mem_append.mp member with inPlace | inRight
      · exact List.mem_append_right _ inPlace
      · exact List.mem_append_left _ (List.mem_append_right _
          (reads_right_subset_assignedValue combined place _ span inRight))
  | access base name baseAllotted nameAllotted =>
      simp only [Task.names, Expression.names, unreserved_append] at unreserved
      exact (baseAllotted unreserved.1).append (nameAllotted unreserved.2)
  | index base value baseAllotted valueAllotted =>
      simp only [Task.names, Expression.names, unreserved_append] at unreserved
      exact (baseAllotted unreserved.1).append (valueAllotted unreserved.2)
  | rangeCall called range allotted =>
      exact allotted (unreserved_append.mp unreserved).2
  | call called other helper allotted =>
      simp only [Task.names, Expression.names, unreserved_append] at unreserved
      refine allotted (unreserved_cons.mpr ⟨?_, unreserved.2⟩)
      exact unreserved.1 _ (exported_mem_names called)
  | methodCall base name values baseAllotted nameAllotted valuesAllotted =>
      simp only [Task.names, Expression.names, unreserved_append] at unreserved
      exact ((baseAllotted unreserved.1.1).append
        (nameAllotted unreserved.1.2)).append (valuesAllotted unreserved.2)
  | kept inner found allotted =>
      simp only [Task.visit, Template.visit_of_value? reads_valueless found]
      exact allotted unreserved
  | hoisted inner found allotted => exact (allotted unreserved).hoisting
  | keptPath inner found allotted =>
      simp only [Task.visit, Template.visit_of_path? found]
      exact allotted unreserved
  | hoistedPath inner found allotted => exact (allotted unreserved).hoisting
  | numberBound value allotted => exact allotted unreserved
  | referenceBound value allotted => exact allotted unreserved
  | noValues => exact .nothing _
  | moreValues value values valueAllotted valuesAllotted =>
      simp only [Task.names, namesOfAll, unreserved_append] at unreserved
      exact (valueAllotted unreserved.1).append (valuesAllotted unreserved.2)
  | part value allotted =>
      rw [Effect.append_hoisted, escaping_hoisted, List.append_nil]
      exact allotted unreserved
  | noParts => exact .nothing _
  | moreParts part parts partAllotted partsAllotted =>
      simp only [Task.names, namesOfParts, unreserved_append] at unreserved
      exact (partAllotted unreserved.1).append (partsAllotted unreserved.2)
  | shorthand named allotted => exact allotted unreserved
  | property key value keyAllotted valueAllotted =>
      exact (keyAllotted unreserved_nil).append (valueAllotted unreserved)
  | noMembers => exact .nothing _
  | moreMembers member members memberAllotted membersAllotted =>
      simp only [Task.names, namesOfMembers, unreserved_append] at unreserved
      exact (memberAllotted unreserved.1).append (membersAllotted unreserved.2)
  | range lower upper lowerAllotted upperAllotted =>
      simp only [Task.names, namesOfAll, unreserved_append] at unreserved
      exact (lowerAllotted unreserved.1).append (upperAllotted unreserved.2.1)
  | helperCall base name values baseAllotted nameAllotted valuesAllotted =>
      simp only [Task.names, namesOfAll, unreserved_cons, unreserved_append]
        at unreserved
      have named : Unreserved [_] :=
        unreserved_cons.mpr ⟨unreserved.1, unreserved_nil⟩
      exact ((baseAllotted unreserved.2.1).append (nameAllotted named)).append
        (valuesAllotted unreserved.2.2)

end VelocityScript.Lowering
