import Mathlib.Data.List.Forall2
import VelocityScript.Proofs.Lowering.Variables

/-!
# Counterparts of templates

Two templates are counterparts when they are equal node by node, but at given
sites: there a path stands for another one, or the result of a call is dropped
in the ways of two services.
-/

namespace VelocityScript.Lowering

open Script

/-- The sites where two templates may differ: the paths of the first one that
are variables in the second one, and the expressions whose results are dropped in
two ways.  A path that is exchanged is no call and keeps its origin. -/
structure Sites where
  exchanged : Template.Path → Template.Identifier → Prop
  dropped : Expression → Prop
  origin_eq : ∀ {here : Template.Path} {there : Template.Identifier},
    exchanged here there → here.origin = there.origin
  not_call : ∀ {here : Template.Path} {there : Template.Identifier},
    exchanged here there → ∀ origin, isCall ⟨here, origin⟩ = false

mutual

inductive PathCounterpart (sites : Sites) : Template.Path → Template.Path → Prop
  | exchanged {here : Template.Path} {there : Template.Identifier} :
      sites.exchanged here there →
      PathCounterpart sites here (.name there)
  | name {identifier : Template.Identifier} :
      PathCounterpart sites (.name identifier) (.name identifier)
  | property {here there : Template.Path} {name : Template.Identifier}
      {origin : Template.Origin} :
      PathCounterpart sites here there →
      PathCounterpart sites (.property here name origin)
        (.property there name origin)
  | index {here there : Template.Path} {hereSubscript thereSubscript : Template.Value}
      {origin : Template.Origin} :
      PathCounterpart sites here there →
      ValueCounterpart sites hereSubscript thereSubscript →
      PathCounterpart sites (.index here hereSubscript origin)
        (.index there thereSubscript origin)
  | call {here there : Template.Path} {method : Template.Identifier}
      {calleeOrigin : Template.Origin}
      {hereArguments thereArguments : List Template.Value}
      {origin : Template.Origin} :
      PathCounterpart sites here there →
      List.Forall₂ (ValueCounterpart sites) hereArguments thereArguments →
      PathCounterpart sites (.call here method calleeOrigin hereArguments origin)
        (.call there method calleeOrigin thereArguments origin)

inductive ValueCounterpart (sites : Sites) :
    Template.Value → Template.Value → Prop
  | reference {here there : Template.Path} {origin : Template.Origin} :
      PathCounterpart sites here there →
      ValueCounterpart sites (.reference here origin) (.reference there origin)
  | number {value : Double} {origin : Template.Origin} :
      ValueCounterpart sites (.number value origin) (.number value origin)
  | string {text : String} {quote : Template.Quote} {origin : Template.Origin} :
      ValueCounterpart sites (.string text quote origin)
        (.string text quote origin)
  | template {head : String} {here there : List Template.TemplateSpan}
      {origin : Template.Origin} :
      List.Forall₂ (SpanCounterpart sites) here there →
      ValueCounterpart sites (.template head here origin)
        (.template head there origin)
  | boolean {truth : Bool} {origin : Template.Origin} :
      ValueCounterpart sites (.boolean truth origin) (.boolean truth origin)
  | list {here there : List Template.Value} {origin : Template.Origin} :
      List.Forall₂ (ValueCounterpart sites) here there →
      ValueCounterpart sites (.list here origin) (.list there origin)
  | range {hereFirst thereFirst hereLast thereLast : Template.RangeBound}
      {origin : Template.Origin} :
      BoundCounterpart sites hereFirst thereFirst →
      BoundCounterpart sites hereLast thereLast →
      ValueCounterpart sites (.range hereFirst hereLast origin)
        (.range thereFirst thereLast origin)
  | map {here there : List Template.MapEntry} {origin : Template.Origin} :
      List.Forall₂ (EntryCounterpart sites) here there →
      ValueCounterpart sites (.map here origin) (.map there origin)

inductive SpanCounterpart (sites : Sites) :
    Template.TemplateSpan → Template.TemplateSpan → Prop
  | mk {here there : Template.Value} {literal : String}
      {origin : Template.Origin} :
      ValueCounterpart sites here there →
      SpanCounterpart sites (.mk here literal origin) (.mk there literal origin)

inductive BoundCounterpart (sites : Sites) :
    Template.RangeBound → Template.RangeBound → Prop
  | number {value : Double} {origin : Template.Origin} :
      BoundCounterpart sites (.number value origin) (.number value origin)
  | reference {here there : Template.Path} {origin : Template.Origin} :
      PathCounterpart sites here there →
      BoundCounterpart sites (.reference here origin) (.reference there origin)

inductive EntryCounterpart (sites : Sites) :
    Template.MapEntry → Template.MapEntry → Prop
  | mk {name here there : Template.Value} {origin : Template.Origin} :
      ValueCounterpart sites here there →
      EntryCounterpart sites (.mk name here origin) (.mk name there origin)

end

inductive ExpressionCounterpart (sites : Sites) :
    Template.Expression → Template.Expression → Prop
  | ofPath {here there : Template.Path} :
      PathCounterpart sites here there →
      ExpressionCounterpart sites (.ofPath here) (.ofPath there)
  | ofValue {here there : Template.Value} :
      ValueCounterpart sites here there →
      ExpressionCounterpart sites (.ofValue here) (.ofValue there)
  | binary {hereLeft thereLeft hereRight thereRight : Template.Expression}
      {operator : Template.BinaryOperator} {origin : Template.Origin} :
      ExpressionCounterpart sites hereLeft thereLeft →
      ExpressionCounterpart sites hereRight thereRight →
      ExpressionCounterpart sites (.binary hereLeft operator hereRight origin)
        (.binary thereLeft operator thereRight origin)
  | unary {operator : Template.UnaryOperator} {here there : Template.Expression}
      {origin : Template.Origin} :
      ExpressionCounterpart sites here there →
      ExpressionCounterpart sites (.unary operator here origin)
        (.unary operator there origin)
  | parenthesized {here there : Template.Expression} {origin : Template.Origin} :
      ExpressionCounterpart sites here there →
      ExpressionCounterpart sites (.parenthesized here origin)
        (.parenthesized there origin)

/-- References are counterparts when their paths are. -/
structure ReferenceCounterpart (sites : Sites) (here there : Template.Reference) :
    Prop where
  path : PathCounterpart sites here.path there.path
  origin : here.origin = there.origin

/-- Places are counterparts when what they refer to is.  Their kinds may differ,
as of a property and a variable. -/
def PlaceCounterpart (sites : Sites) (here there : Template.Place) : Prop :=
  ReferenceCounterpart sites here.reference there.reference

mutual

/-- Elements are counterparts one by one, but for a call whose result is
dropped: it is two elements of a resolver template, which comes first, and one of
a gateway template. -/
inductive ElementsCounterpart (sites : Sites) :
    List Template.Element → List Template.Element → Prop
  | nil : ElementsCounterpart sites [] []
  | cons {here there : Template.Element}
      {hereOthers thereOthers : List Template.Element} :
      ElementCounterpart sites here there →
      ElementsCounterpart sites hereOthers thereOthers →
      ElementsCounterpart sites (here :: hereOthers) (there :: thereOthers)
  | dropped {source : Expression} {here there : Template.Path}
      {hereOthers thereOthers : List Template.Element} {origin : Template.Origin} :
      sites.dropped source →
      origin = some source.span →
      PathCounterpart sites here there →
      ElementsCounterpart sites hereOthers thereOthers →
      ElementsCounterpart sites
        (.emit
            (.reference
              (.call (.name ⟨"util", origin⟩) ⟨"qr", origin⟩ origin
                [.reference here origin] origin)
              origin) ::
          .newLine :: hereOthers)
        (.assign (.named ⟨⟨"discard", none⟩, none⟩)
            (.ofValue (.reference there origin)) origin ::
          thereOthers)

inductive ElementCounterpart (sites : Sites) :
    Template.Element → Template.Element → Prop
  | assign {herePlace therePlace : Template.Place}
      {here there : Template.Expression} {origin : Template.Origin} :
      PlaceCounterpart sites herePlace therePlace →
      ExpressionCounterpart sites here there →
      ElementCounterpart sites (.assign herePlace here origin)
        (.assign therePlace there origin)
  | branch {hereFirst thereFirst : Template.Clause}
      {hereOthers thereOthers : List Template.Clause}
      {hereOtherwise thereOtherwise : Option Template.Block}
      {origin : Template.Origin} :
      ClauseCounterpart sites hereFirst thereFirst →
      List.Forall₂ (ClauseCounterpart sites) hereOthers thereOthers →
      Option.Rel (BlockCounterpart sites) hereOtherwise thereOtherwise →
      ElementCounterpart sites (.branch hereFirst hereOthers hereOtherwise origin)
        (.branch thereFirst thereOthers thereOtherwise origin)
  | loop {item : Template.Variable} {here there : Template.Value}
      {hereBody thereBody : Template.Block} {origin : Template.Origin} :
      ValueCounterpart sites here there →
      BlockCounterpart sites hereBody thereBody →
      ElementCounterpart sites (.loop item here hereBody origin)
        (.loop item there thereBody origin)
  | emit {here there : Template.Value} :
      ValueCounterpart sites here there →
      ElementCounterpart sites (.emit here) (.emit there)
  | text {text : String} {origin : Template.Origin} :
      ElementCounterpart sites (.text text origin) (.text text origin)
  | newLine : ElementCounterpart sites .newLine .newLine

inductive BlockCounterpart (sites : Sites) :
    Template.Block → Template.Block → Prop
  | mk {here there : List Template.Element} {origin : Template.Origin} :
      ElementsCounterpart sites here there →
      BlockCounterpart sites (.mk here origin) (.mk there origin)

inductive ClauseCounterpart (sites : Sites) :
    Template.Clause → Template.Clause → Prop
  | mk {hereCondition thereCondition : Template.Expression}
      {here there : Template.Block} {origin : Template.Origin} :
      ExpressionCounterpart sites hereCondition thereCondition →
      BlockCounterpart sites here there →
      ClauseCounterpart sites (.mk hereCondition here origin)
        (.mk thereCondition there origin)

end

structure FileCounterpart (sites : Sites) (here there : Template.File) :
    Prop where
  name : here.name = there.name
  block : BlockCounterpart sites here.block there.block
  origin : here.origin = there.origin

variable {sites : Sites}

/-! ## What counterparts share -/

theorem PathCounterpart.origin_eq {here there : Template.Path}
    (related : PathCounterpart sites here there) : here.origin = there.origin := by
  cases related with
  | exchanged paths => exact sites.origin_eq paths
  | _ => rfl

theorem ValueCounterpart.origin_eq {here there : Template.Value}
    (related : ValueCounterpart sites here there) :
    here.origin = there.origin := by
  cases related <;> rfl

/-- Calls have only calls as counterparts. -/
theorem PathCounterpart.isCall_eq {here there : Template.Path}
    (related : PathCounterpart sites here there) (origin : Template.Origin) :
    isCall ⟨here, origin⟩ = isCall ⟨there, origin⟩ := by
  cases related with
  | exchanged paths => exact sites.not_call paths origin
  | _ => rfl

theorem ReferenceCounterpart.value {here there : Template.Reference}
    (related : ReferenceCounterpart sites here there) :
    ValueCounterpart sites here.value there.value := by
  unfold Template.Reference.value
  rw [related.origin]
  exact .reference related.path

theorem exists_place_of_isCall_eq_false {reference : Template.Reference}
    (notCall : isCall reference = false) :
    ∃ place, reference.place? = some place := by
  obtain ⟨path, origin⟩ := reference
  cases path with
  | call base method calleeOrigin arguments callOrigin => cases notCall
  | name identifier => exact ⟨_, rfl⟩
  | property base name propertyOrigin => exact ⟨_, rfl⟩
  | index base subscript indexOrigin => exact ⟨_, rfl⟩

/-- Whether something can be assigned to is the same for counterparts. -/
theorem ReferenceCounterpart.place? {here there : Template.Reference}
    (related : ReferenceCounterpart sites here there) :
    Option.Rel (PlaceCounterpart sites) here.place? there.place? := by
  obtain ⟨herePath, origin⟩ := here
  obtain ⟨therePath, thereOrigin⟩ := there
  obtain ⟨path, same⟩ := related
  cases same
  cases path with
  | exchanged paths =>
      obtain ⟨place, found⟩ :=
        exists_place_of_isCall_eq_false (sites.not_call paths origin)
      have refers := Template.Reference.place?_eq_some_iff.mp found
      rw [found]
      refine .some ?_
      unfold PlaceCounterpart
      rw [refers]
      exact ⟨.exchanged paths, rfl⟩
  | call base arguments => exact .none
  | name => exact .some ⟨.name, rfl⟩
  | property base => exact .some ⟨.property base, rfl⟩
  | index base subscript => exact .some ⟨.index base subscript, rfl⟩

namespace ExpressionCounterpart

variable {here there : Template.Expression}

theorem origin_eq (related : ExpressionCounterpart sites here there) :
    here.origin = there.origin := by
  cases related with
  | ofPath path => exact path.origin_eq
  | ofValue value => exact value.origin_eq
  | binary left right => rfl
  | unary operand => rfl
  | parenthesized inner => rfl

theorem interpolated (related : ExpressionCounterpart sites here there) :
    ExpressionCounterpart sites here.interpolated there.interpolated := by
  cases related with
  | ofPath path =>
      simp only [Template.Expression.interpolated, path.origin_eq]
      exact .ofValue (.reference path)
  | ofValue value => exact .ofValue value
  | binary left right => exact .binary left right
  | unary operand => exact .unary operand
  | parenthesized inner => exact .parenthesized inner

theorem value? (related : ExpressionCounterpart sites here there) :
    Option.Rel (ValueCounterpart sites) here.value? there.value? := by
  cases related with
  | ofPath path =>
      simp only [Template.Expression.value?, path.origin_eq]
      exact .some (.reference path)
  | ofValue value => exact .some value
  | binary left right => exact .none
  | unary operand => exact .none
  | parenthesized inner => exact .none

theorem path? (related : ExpressionCounterpart sites here there) :
    Option.Rel (PathCounterpart sites) here.path? there.path? := by
  cases related with
  | ofPath path => exact .some path
  | ofValue value => exact .none
  | binary left right => exact .none
  | unary operand => exact .none
  | parenthesized inner => exact .none

theorem reference? (related : ExpressionCounterpart sites here there) :
    Option.Rel (ReferenceCounterpart sites) here.reference? there.reference? := by
  cases related with
  | ofPath path => exact .some ⟨path, path.origin_eq⟩
  | ofValue value =>
      cases value with
      | reference path => exact .some ⟨path, rfl⟩
      | _ => exact .none
  | binary left right => exact .none
  | unary operand => exact .none
  | parenthesized inner => exact .none

end ExpressionCounterpart

namespace ElementsCounterpart

variable {here there hereOthers thereOthers : List Template.Element}

theorem append :
    ∀ {here there : List Template.Element},
      ElementsCounterpart sites here there →
      ElementsCounterpart sites hereOthers thereOthers →
        ElementsCounterpart sites (here ++ hereOthers) (there ++ thereOthers)
  | _, _, .nil, others => others
  | _, _, .cons first rest, others => .cons first (rest.append others)
  | _, _, .dropped drops origin path rest, others =>
      .dropped drops origin path (rest.append others)

theorem isEmpty_eq (related : ElementsCounterpart sites here there) :
    here.isEmpty = there.isEmpty := by
  cases related <;> rfl

theorem single {here there : Template.Element}
    (related : ElementCounterpart sites here there) :
    ElementsCounterpart sites [here] [there] :=
  .cons related .nil

end ElementsCounterpart

/-! ## Templates without differences -/

/-- There are no sites where something differs. -/
structure Sites.Uniform (sites : Sites) : Prop where
  exchanged : ∀ {here : Template.Path} {there : Template.Identifier},
    sites.exchanged here there → here = .name there
  dropped : ∀ source, ¬sites.dropped source

mutual

theorem PathCounterpart.eq (uniform : sites.Uniform) :
    ∀ {here there : Template.Path}, PathCounterpart sites here there → here = there
  | _, _, .exchanged paths => uniform.exchanged paths
  | _, _, .name => rfl
  | _, _, .property base => by rw [base.eq uniform]
  | _, _, .index base subscript => by rw [base.eq uniform, subscript.eq uniform]
  | _, _, .call base arguments => by
      rw [base.eq uniform, eq_of_values uniform arguments]
termination_by structural here => here

theorem ValueCounterpart.eq (uniform : sites.Uniform) :
    ∀ {here there : Template.Value}, ValueCounterpart sites here there →
      here = there
  | _, _, .reference path => by rw [path.eq uniform]
  | _, _, .number => rfl
  | _, _, .string => rfl
  | _, _, .template spans => by rw [eq_of_spans uniform spans]
  | _, _, .boolean => rfl
  | _, _, .list values => by rw [eq_of_values uniform values]
  | _, _, .range first last => by rw [first.eq uniform, last.eq uniform]
  | _, _, .map entries => by rw [eq_of_entries uniform entries]
termination_by structural here => here

theorem BoundCounterpart.eq (uniform : sites.Uniform) :
    ∀ {here there : Template.RangeBound}, BoundCounterpart sites here there →
      here = there
  | _, _, .number => rfl
  | _, _, .reference path => by rw [path.eq uniform]
termination_by structural here => here

theorem eq_of_values (uniform : sites.Uniform) :
    ∀ {here there : List Template.Value},
      List.Forall₂ (ValueCounterpart sites) here there → here = there
  | _, _, .nil => rfl
  | _, _, .cons value others => by
      rw [value.eq uniform, eq_of_values uniform others]
termination_by structural here => here

theorem eq_of_spans (uniform : sites.Uniform) :
    ∀ {here there : List Template.TemplateSpan},
      List.Forall₂ (SpanCounterpart sites) here there → here = there
  | _, _, .nil => rfl
  | _, _, .cons (.mk value) others => by
      rw [value.eq uniform, eq_of_spans uniform others]
termination_by structural here => here

theorem eq_of_entries (uniform : sites.Uniform) :
    ∀ {here there : List Template.MapEntry},
      List.Forall₂ (EntryCounterpart sites) here there → here = there
  | _, _, .nil => rfl
  | _, _, .cons (.mk value) others => by
      rw [value.eq uniform, eq_of_entries uniform others]
termination_by structural here => here

end

theorem ExpressionCounterpart.eq (uniform : sites.Uniform)
    {here there : Template.Expression}
    (related : ExpressionCounterpart sites here there) : here = there := by
  induction related with
  | ofPath path => rw [path.eq uniform]
  | ofValue value => rw [value.eq uniform]
  | binary _ _ leftSame rightSame => rw [leftSame, rightSame]
  | unary _ same => rw [same]
  | parenthesized _ same => rw [same]

theorem ReferenceCounterpart.eq (uniform : sites.Uniform)
    {here there : Template.Reference}
    (related : ReferenceCounterpart sites here there) : here = there := by
  obtain ⟨herePath, hereOrigin⟩ := here
  obtain ⟨therePath, thereOrigin⟩ := there
  have path : herePath = therePath := related.path.eq uniform
  have origin : hereOrigin = thereOrigin := related.origin
  rw [path, origin]

/-- What a place refers to says which place it is. -/
theorem PlaceCounterpart.eq (uniform : sites.Uniform) {here there : Template.Place}
    (related : PlaceCounterpart sites here there) : here = there := by
  have same := ReferenceCounterpart.eq uniform related
  have found := Template.Reference.place?_eq_some_iff.mpr same
  rw [Template.Reference.place?_eq_some_iff.mpr rfl] at found
  exact (Option.some.inj found).symm

mutual

theorem ElementsCounterpart.eq (uniform : sites.Uniform) :
    ∀ {here there : List Template.Element}, ElementsCounterpart sites here there →
      here = there
  | _, _, .nil => rfl
  | _, _, .cons first others => by rw [first.eq uniform, others.eq uniform]
  | _, _, .dropped drops _ _ _ => absurd drops (uniform.dropped _)
termination_by structural here => here

theorem ElementCounterpart.eq (uniform : sites.Uniform) :
    ∀ {here there : Template.Element}, ElementCounterpart sites here there →
      here = there
  | _, _, .assign place value => by
      rw [PlaceCounterpart.eq uniform place, value.eq uniform]
  | _, _, .branch first others .none => by
      rw [first.eq uniform, eq_of_clauses uniform others]
  | _, _, .branch first others (.some otherwise) => by
      rw [first.eq uniform, eq_of_clauses uniform others, otherwise.eq uniform]
  | _, _, .loop value body => by rw [value.eq uniform, body.eq uniform]
  | _, _, .emit value => by rw [value.eq uniform]
  | _, _, .text => rfl
  | _, _, .newLine => rfl
termination_by structural here => here

theorem BlockCounterpart.eq (uniform : sites.Uniform) :
    ∀ {here there : Template.Block}, BlockCounterpart sites here there →
      here = there
  | _, _, .mk elements => by rw [elements.eq uniform]
termination_by structural here => here

theorem ClauseCounterpart.eq (uniform : sites.Uniform) :
    ∀ {here there : Template.Clause}, ClauseCounterpart sites here there →
      here = there
  | _, _, .mk condition body => by rw [condition.eq uniform, body.eq uniform]
termination_by structural here => here

theorem eq_of_clauses (uniform : sites.Uniform) :
    ∀ {here there : List Template.Clause},
      List.Forall₂ (ClauseCounterpart sites) here there → here = there
  | _, _, .nil => rfl
  | _, _, .cons clause others => by
      rw [clause.eq uniform, eq_of_clauses uniform others]
termination_by structural here => here

end

/-- Counterparts without differences are equal. -/
theorem FileCounterpart.eq (uniform : sites.Uniform) {here there : Template.File}
    (related : FileCounterpart sites here there) : here = there := by
  obtain ⟨hereName, hereBlock, hereOrigin⟩ := here
  obtain ⟨thereName, thereBlock, thereOrigin⟩ := there
  have name : hereName = thereName := related.name
  have block : hereBlock = thereBlock := related.block.eq uniform
  have origin : hereOrigin = thereOrigin := related.origin
  rw [name, block, origin]

end VelocityScript.Lowering
