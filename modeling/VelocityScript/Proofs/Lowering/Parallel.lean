import VelocityScript.Proofs.Lowering.Settlement
import VelocityScript.Proofs.Lowering.Counterpart

/-!
# Steps in parallel

Two steps run in parallel when they take counterparts to counterparts: the same
temporaries, preludes and reports, and related results.  Each operation of the
lowering is parallel to itself.
-/

namespace VelocityScript.Lowering

open Script

/-! ## Steps in parallel -/

/-- The states of two lowerings that have taken the same branches. -/
structure StateCounterpart (sites : Sites) (here there : State) : Prop where
  temporaries : here.temporaries = there.temporaries
  needsEscape : here.needsEscape = there.needsEscape
  needsStringClass : here.needsStringClass = there.needsStringClass
  reports : here.reports = there.reports
  hoisted : ElementsCounterpart sites here.hoisted there.hoisted

/-- From states that are counterparts, two steps lead to such states and have
related results. -/
def Parallel {Here There : Type} (sites : Sites) (related : Here → There → Prop)
    (here : Lower Here) (there : Lower There) : Prop :=
  ∀ first second, StateCounterpart sites first second →
    related (here.run first).1 (there.run second).1 ∧
      StateCounterpart sites (here.run first).2 (there.run second).2

section Steps

variable {sites : Sites} {Here There HereOther ThereOther : Type}
variable {HereFinal ThereFinal : Type}
variable {related : Here → There → Prop}
variable {otherRelated : HereOther → ThereOther → Prop}
variable {finalRelated : HereFinal → ThereFinal → Prop}
variable {here : Lower Here} {there : Lower There}

theorem parallel_pure {here : Here} {there : There} (same : related here there) :
    Parallel sites related (pure here) (pure there) :=
  fun _ _ states => ⟨same, states⟩

theorem Parallel.bind {hereContinued : Here → Lower HereOther}
    {thereContinued : There → Lower ThereOther}
    (parallel : Parallel sites related here there)
    (continued : ∀ hereResult thereResult, related hereResult thereResult →
      Parallel sites otherRelated (hereContinued hereResult)
        (thereContinued thereResult)) :
    Parallel sites otherRelated (here >>= hereContinued)
      (there >>= thereContinued) := by
  intro first second states
  obtain ⟨results, finals⟩ := parallel first second states
  exact continued _ _ results _ _ finals

/-- What each of two steps ensures by itself may be added to what relates
them. -/
theorem Parallel.ensuring {hereEnsures : Here → Prop} {thereEnsures : There → Prop}
    (parallel : Parallel sites related here there)
    (hereEnsured : ∀ state, hereEnsures (here.run state).1)
    (thereEnsured : ∀ state, thereEnsures (there.run state).1) :
    Parallel sites
      (fun hereResult thereResult => related hereResult thereResult ∧
        hereEnsures hereResult ∧ thereEnsures thereResult)
      here there := by
  intro first second states
  obtain ⟨results, finals⟩ := parallel first second states
  exact ⟨⟨results, hereEnsured first, thereEnsured second⟩, finals⟩

theorem Parallel.map {hereBuild : Here → HereOther}
    {thereBuild : There → ThereOther}
    (parallel : Parallel sites related here there)
    (builds : ∀ hereResult thereResult, related hereResult thereResult →
      otherRelated (hereBuild hereResult) (thereBuild thereResult)) :
    Parallel sites otherRelated (do return hereBuild (← here))
      (do return thereBuild (← there)) :=
  parallel.bind fun _ _ results => parallel_pure (builds _ _ results)

theorem optionRel_map {here : Option Here} {there : Option There}
    {hereBuild : Here → HereOther} {thereBuild : There → ThereOther}
    (options : Option.Rel related here there)
    (builds : ∀ hereResult thereResult, related hereResult thereResult →
      otherRelated (hereBuild hereResult) (thereBuild thereResult)) :
    Option.Rel otherRelated (here.map hereBuild) (there.map thereBuild) := by
  cases options with
  | some results => exact .some (builds _ _ results)
  | none => exact .none

theorem optionRel_bind {here : Option Here} {there : Option There}
    {hereBuild : Here → Option HereOther} {thereBuild : There → Option ThereOther}
    (options : Option.Rel related here there)
    (builds : ∀ hereResult thereResult, related hereResult thereResult →
      Option.Rel otherRelated (hereBuild hereResult) (thereBuild thereResult)) :
    Option.Rel otherRelated (here.bind hereBuild) (there.bind thereBuild) := by
  cases options with
  | some results => exact builds _ _ results
  | none => exact .none

/-- A step whose result, if any, is built into something else. -/
theorem Parallel.mapOption {here : Lower (Option Here)}
    {there : Lower (Option There)} {hereBuild : Here → HereOther}
    {thereBuild : There → ThereOther}
    (parallel : Parallel sites (Option.Rel related) here there)
    (builds : ∀ hereResult thereResult, related hereResult thereResult →
      otherRelated (hereBuild hereResult) (thereBuild thereResult)) :
    Parallel sites (Option.Rel otherRelated)
      (do return (← here).map hereBuild) (do return (← there).map thereBuild) :=
  parallel.map fun _ _ options => optionRel_map options builds

theorem Parallel.both {here : Lower (Option Here)} {there : Lower (Option There)}
    {hereSecond : Lower (Option HereOther)}
    {thereSecond : Lower (Option ThereOther)}
    {hereBuild : Here → HereOther → HereFinal}
    {thereBuild : There → ThereOther → ThereFinal}
    (parallel : Parallel sites (Option.Rel related) here there)
    (second : Parallel sites (Option.Rel otherRelated) hereSecond thereSecond)
    (builds : ∀ hereResult thereResult hereOther thereOther,
      related hereResult thereResult → otherRelated hereOther thereOther →
        finalRelated (hereBuild hereResult hereOther)
          (thereBuild thereResult thereOther)) :
    Parallel sites (Option.Rel finalRelated)
      (do
        let result ← here
        let other ← hereSecond
        return result.bind fun result => other.map fun other =>
          hereBuild result other)
      (do
        let result ← there
        let other ← thereSecond
        return result.bind fun result => other.map fun other =>
          thereBuild result other) := by
  refine parallel.bind fun _ _ results => second.map fun _ _ others => ?_
  refine optionRel_bind results fun _ _ result => ?_
  exact optionRel_map others fun _ _ other => builds _ _ _ _ result other

/-- The same change of what states share. -/
theorem parallel_modify {update : State → State}
    (keeps : ∀ first second, StateCounterpart sites first second →
      StateCounterpart sites (update first) (update second)) :
    Parallel sites Eq (modify update : Lower Unit) (modify update) :=
  fun first second states => ⟨rfl, keeps first second states⟩

theorem parallel_note (complaint : Complaint) (span : Span) :
    Parallel sites Eq (note complaint span) (note complaint span) :=
  parallel_modify fun _ _ states =>
    { states with reports := by simp only [states.reports] }

theorem parallel_giveUp (complaint : Complaint) (span : Span) :
    Parallel sites (Option.Rel related) (giveUp complaint span)
      (giveUp complaint span) :=
  (parallel_note complaint span).bind fun _ _ _ => parallel_pure .none

theorem parallel_emit {here there : Template.Element}
    (elements : ElementCounterpart sites here there) :
    Parallel sites Eq (emit here) (emit there) :=
  fun _ _ states =>
    ⟨rfl, { states with hoisted := states.hoisted.append (.single elements) }⟩

theorem parallel_collecting (parallel : Parallel sites related here there) :
    Parallel sites
      (fun hereResult thereResult => related hereResult.1 thereResult.1 ∧
        ElementsCounterpart sites hereResult.2 thereResult.2)
      (collecting here) (collecting there) := by
  intro first second states
  rw [run_collecting, run_collecting]
  obtain ⟨results, finals⟩ := parallel { first with hoisted := [] }
    { second with hoisted := [] } { states with hoisted := .nil }
  exact ⟨⟨results, finals.hoisted⟩, { finals with hoisted := states.hoisted }⟩

theorem parallel_temporary (origin : Template.Origin) :
    Parallel sites Eq (temporary origin) (temporary origin) := by
  intro first second states
  have counted := states.temporaries
  constructor
  · simp only [temporary, run_bind]
    exact congrArg
      (fun number => Template.Variable.ofIdentifier
        ⟨Template.temporaryName number, origin⟩) counted
  · exact { states with temporaries := congrArg (· + 1) counted }

theorem parallel_hoist {here there : Template.Expression}
    (expressions : ExpressionCounterpart sites here there) :
    Parallel sites Eq (hoist here) (hoist there) := by
  unfold hoist
  rw [expressions.origin_eq]
  refine (parallel_temporary _).bind fun _ _ same => ?_
  subst same
  refine (parallel_emit (.assign ⟨.name, rfl⟩ expressions)).bind fun _ _ _ => ?_
  exact parallel_pure rfl

/-! ## Values, paths, bounds and assignments -/

variable {here there : Option Template.Expression}

theorem parallel_asValue
    (lowered : Option.Rel (ExpressionCounterpart sites) here there) :
    Parallel sites (Option.Rel (ValueCounterpart sites)) (asValue here)
      (asValue there) := by
  cases lowered with
  | none => exact parallel_pure .none
  | @some here there expressions =>
      have values := expressions.value?
      simp only [asValue]
      generalize here.value? = hereValue at values ⊢
      generalize there.value? = thereValue at values ⊢
      cases values with
      | some value => exact parallel_pure (.some value)
      | none =>
          refine (parallel_hoist expressions).bind fun made _ same => ?_
          subst same
          exact parallel_pure (.some (.reference .name))

theorem parallel_asPath
    (lowered : Option.Rel (ExpressionCounterpart sites) here there) :
    Parallel sites (Option.Rel (PathCounterpart sites)) (asPath here)
      (asPath there) := by
  cases lowered with
  | none => exact parallel_pure .none
  | @some here there expressions =>
      have paths := expressions.path?
      simp only [asPath]
      generalize here.path? = herePath at paths ⊢
      generalize there.path? = therePath at paths ⊢
      cases paths with
      | some path => exact parallel_pure (.some path)
      | none =>
          refine (parallel_hoist expressions).bind fun made _ same => ?_
          subst same
          exact parallel_pure (.some .name)

theorem parallel_asBound (side : BoundSide) (span : Span)
    {here there : Option Template.Value}
    (lowered : Option.Rel (ValueCounterpart sites) here there) :
    Parallel sites (Option.Rel (BoundCounterpart sites))
      (asBound side span here) (asBound side span there) := by
  cases lowered with
  | none => exact parallel_pure .none
  | some values =>
      cases values with
      | number => exact parallel_pure (.some .number)
      | reference path => exact parallel_pure (.some (.reference path))
      | _ => exact parallel_giveUp _ _

theorem parallel_assign (combined : Option Template.BinaryOperator)
    {source other : Expression} (spans : source.span = other.span)
    (kinds : source.syntaxName = other.syntaxName) (span : Span)
    {hereRight thereRight : Option Template.Expression}
    (left : Option.Rel (ExpressionCounterpart sites) here there)
    (right : Option.Rel (ExpressionCounterpart sites) hereRight thereRight) :
    Parallel sites (Option.Rel (ReferenceCounterpart sites))
      (assign combined source here hereRight span)
      (assign combined other there thereRight span) := by
  cases left with
  | none => exact parallel_pure .none
  | @some here there expressions =>
      have places := optionRel_bind expressions.reference?
        fun _ _ references => references.place?
      simp only [assign, spans, kinds]
      generalize here.reference?.bind Template.Reference.place? = herePlace
        at places ⊢
      generalize there.reference?.bind Template.Reference.place? = therePlace
        at places ⊢
      cases places with
      | none => exact parallel_giveUp _ _
      | @some herePlace therePlace place =>
          cases right with
          | none => exact parallel_pure .none
          | @some hereValue thereValue value =>
              have assigned : ExpressionCounterpart sites
                  (assignedValue combined herePlace hereValue span)
                  (assignedValue combined therePlace thereValue span) := by
                cases combined with
                | none => exact value
                | some operator => exact .binary (.ofValue place.value) value
              exact (parallel_emit (.assign place assigned)).bind fun _ _ _ =>
                parallel_pure (.some place)

/-! ## Names, numbers and texts -/

theorem parallel_lowerName (name : String) (span : Span) :
    Parallel sites
      (Option.Rel fun here there =>
        here = ⟨bareName name, some span⟩ ∧ there = ⟨bareName name, some span⟩)
      (lowerName name span) (lowerName name span) := by
  unfold lowerName
  split
  · exact parallel_pure (.some ⟨rfl, rfl⟩)
  · exact parallel_giveUp _ _

theorem parallel_named {name : String} {span : Span}
    {hereBuild : Template.Identifier → Here}
    {thereBuild : Template.Identifier → There}
    (builds : related (hereBuild ⟨bareName name, some span⟩)
      (thereBuild ⟨bareName name, some span⟩)) :
    Parallel sites (Option.Rel related)
      (do
        match ← lowerName name span with
        | none => return none
        | some name => return some (hereBuild name))
      (do
        match ← lowerName name span with
        | none => return none
        | some name => return some (thereBuild name)) := by
  refine (parallel_lowerName name span).bind fun _ _ names => ?_
  cases names with
  | none => exact parallel_pure .none
  | some same =>
      obtain ⟨rfl, rfl⟩ := same
      exact parallel_pure (.some builds)

theorem parallel_lowerNumber (text : String) (span : Span) :
    Parallel sites (Option.Rel (ValueCounterpart sites)) (lowerNumber text span)
      (lowerNumber text span) := by
  unfold lowerNumber
  split
  · exact parallel_pure (.some .number)
  · exact parallel_giveUp _ _

theorem parallel_lowerPropertyName (key : PropertyName) :
    Parallel sites (Option.Rel Eq) (lowerPropertyName key)
      (lowerPropertyName key) := by
  cases key with
  | identifier name => exact parallel_pure (.some rfl)
  | string text span => exact parallel_pure (.some rfl)
  | number text span =>
      simp only [lowerPropertyName, lowerNumber]
      split
      · exact parallel_pure (.some rfl)
      · exact parallel_giveUp _ _
  | computed expression span => exact parallel_giveUp _ _
  | privateName text span => exact parallel_giveUp _ _

theorem parallel_escapeQuotes (text : String) :
    Parallel sites Eq (escapeQuotes text) (escapeQuotes text) := by
  unfold escapeQuotes
  split
  · refine Parallel.bind (parallel_modify ?_) fun _ _ _ => parallel_pure rfl
    intro first second states
    exact { states with needsEscape := rfl }
  · exact parallel_pure rfl

/-- The lowering of a name is parallel to itself for one service. -/
theorem parallel_lowerIdentifier (target : Target) (named : Identifier) :
    Parallel sites (Option.Rel (ExpressionCounterpart sites))
      (lowerIdentifier target named) (lowerIdentifier target named) := by
  unfold lowerIdentifier
  split
  · exact parallel_named (.ofPath (.property (.property .name)))
  · split
    · refine Parallel.bind (parallel_modify ?_) fun _ _ _ =>
        parallel_named (.ofPath .name)
      intro first second states
      exact { states with needsStringClass := rfl }
    · exact parallel_named (.ofPath .name)

end Steps

variable {sites : Sites}

namespace Parallel

variable {here there : Lower (Option Template.Expression)}

theorem value
    (parallel : Parallel sites (Option.Rel (ExpressionCounterpart sites)) here
      there) :
    Parallel sites (Option.Rel (ValueCounterpart sites))
      (do asValue (← here)) (do asValue (← there)) :=
  parallel.bind fun _ _ lowered => parallel_asValue lowered

theorem path
    (parallel : Parallel sites (Option.Rel (ExpressionCounterpart sites)) here
      there) :
    Parallel sites (Option.Rel (PathCounterpart sites))
      (do asPath (← here)) (do asPath (← there)) :=
  parallel.bind fun _ _ lowered => parallel_asPath lowered

theorem bound
    (parallel : Parallel sites (Option.Rel (ExpressionCounterpart sites)) here
      there) (side : BoundSide) (span : Span) :
    Parallel sites (Option.Rel (BoundCounterpart sites))
      (do asBound side span (← asValue (← here)))
      (do asBound side span (← asValue (← there))) :=
  parallel.bind fun _ _ lowered =>
    (parallel_asValue lowered).bind fun _ _ values =>
      parallel_asBound side span values

theorem assigned {hereRight thereRight : Lower (Option Template.Expression)}
    (left : Parallel sites (Option.Rel (ExpressionCounterpart sites)) here there)
    (right : Parallel sites (Option.Rel (ExpressionCounterpart sites)) hereRight
      thereRight)
    (combined : Option Template.BinaryOperator) {source other : Expression}
    (spans : source.span = other.span)
    (kinds : source.syntaxName = other.syntaxName) (span : Span) :
    Parallel sites (Option.Rel (ExpressionCounterpart sites))
      (do
        let left ← here
        let right ← hereRight
        let reference ←
          assign combined source left (right.map .interpolated) span
        return reference.map fun reference =>
          Template.Expression.ofValue reference.value)
      (do
        let left ← there
        let right ← thereRight
        let reference ←
          assign combined other left (right.map .interpolated) span
        return reference.map fun reference =>
          Template.Expression.ofValue reference.value) := by
  refine left.bind fun _ _ lefts => right.bind fun _ _ rights => ?_
  have values := optionRel_map rights fun _ _ value =>
    ExpressionCounterpart.interpolated value
  exact (parallel_assign combined spans kinds span lefts values).mapOption
    fun _ _ references => .ofValue references.value

end Parallel

end VelocityScript.Lowering
