import Mathlib.Data.List.Forall2
import VelocityScript.Proofs.Lowering.StatementDerivation

/-!
# Scripts that match

Two scripts match when they are equal node by node, but for what their lowering
does not look at and for the names in them, which are taken to match or not.  A
helper that is called, the arguments of a range after the second one, computed
keys and what the names of a pattern stand for are not looked at.
-/

namespace VelocityScript.Lowering

open Script

/-- The names that are taken to match, and the receivers and the expressions
that stand as statements where this is allowed.  Names that match stand at one
place. -/
structure Matching where
  names : Identifier → Identifier → Prop
  receivers : Span → Prop
  evaluated : Expression → Prop
  span_eq : ∀ {here there : Identifier}, names here there → here.span = there.span

mutual

inductive ExpressionMatch (matching : Matching) : Expression → Expression → Prop
  | identifier {here there : Identifier} :
      matching.names here there →
      ExpressionMatch matching (.identifier here) (.identifier there)
  | receiver {span : Span} :
      matching.receivers span →
      ExpressionMatch matching (.receiver span) (.receiver span)
  | number {text : String} {span : Span} :
      ExpressionMatch matching (.number text span) (.number text span)
  | string {text : String} {span : Span} :
      ExpressionMatch matching (.string text span) (.string text span)
  | boolean {truth : Bool} {span : Span} :
      ExpressionMatch matching (.boolean truth span) (.boolean truth span)
  | template {head : String} {here there : List TemplatePart} {span : Span} :
      List.Forall₂ (PartMatch matching) here there →
      ExpressionMatch matching (.template head here span) (.template head there span)
  | array {here there : List Expression} {span : Span} :
      List.Forall₂ (ExpressionMatch matching) here there →
      ExpressionMatch matching (.array here span) (.array there span)
  | object {here there : List ObjectMember} {span : Span} :
      List.Forall₂ (MemberMatch matching) here there →
      ExpressionMatch matching (.object here span) (.object there span)
  | parenthesized {here there : Expression} {span : Span} :
      ExpressionMatch matching here there →
      ExpressionMatch matching (.parenthesized here span)
        (.parenthesized there span)
  | unary {operator : UnaryOperator} {here there : Expression} {span : Span} :
      ExpressionMatch matching here there →
      ExpressionMatch matching (.unary operator here span)
        (.unary operator there span)
  | binary {operator : BinaryOperator}
      {hereLeft thereLeft hereRight thereRight : Expression} {span : Span} :
      ExpressionMatch matching hereLeft thereLeft →
      ExpressionMatch matching hereRight thereRight →
      ExpressionMatch matching (.binary operator hereLeft hereRight span)
        (.binary operator thereLeft thereRight span)
  | assignment {operator : AssignmentOperator}
      {herePlace therePlace hereValue thereValue : Expression} {span : Span} :
      ExpressionMatch matching herePlace therePlace →
      ExpressionMatch matching hereValue thereValue →
      ExpressionMatch matching (.assignment operator herePlace hereValue span)
        (.assignment operator therePlace thereValue span)
  | member {here there : Expression} {property : Identifier} {isPrivate : Bool}
      {span : Span} :
      ExpressionMatch matching here there →
      ExpressionMatch matching (.member here property isPrivate span)
        (.member there property isPrivate span)
  | index {here there hereSubscript thereSubscript : Expression} {span : Span} :
      ExpressionMatch matching here there →
      ExpressionMatch matching hereSubscript thereSubscript →
      ExpressionMatch matching (.index here hereSubscript span)
        (.index there thereSubscript span)
  | rangeCall {hereCallee thereCallee : Expression} {nameSpan : Span}
      {here there : List Expression} {returns : ReturnKind} {span : Span} :
      calleeForm hereCallee = .helper Catalogue.rangeHelper nameSpan →
      calleeForm thereCallee = .helper Catalogue.rangeHelper nameSpan →
      BoundsMatch matching here there →
      ExpressionMatch matching (.call hereCallee here returns span)
        (.call thereCallee there returns span)
  | helperCall {hereCallee thereCallee : Expression} {exported : String}
      {nameSpan : Span} {here there : List Expression} {returns : ReturnKind}
      {span : Span} :
      calleeForm hereCallee = .helper exported nameSpan →
      calleeForm thereCallee = .helper exported nameSpan →
      exported ≠ Catalogue.rangeHelper →
      List.Forall₂ (ExpressionMatch matching) here there →
      ExpressionMatch matching (.call hereCallee here returns span)
        (.call thereCallee there returns span)
  | methodCall {hereCallee thereCallee : Expression}
      {here there : List Expression} {returns : ReturnKind} {span : Span} :
      calleeForm hereCallee = .method →
      calleeForm thereCallee = .method →
      ExpressionMatch matching hereCallee thereCallee →
      List.Forall₂ (ExpressionMatch matching) here there →
      ExpressionMatch matching (.call hereCallee here returns span)
        (.call thereCallee there returns span)
  | otherCall {hereCallee thereCallee : Expression} {syntaxName : String}
      {here there : List Expression} {returns : ReturnKind} {span : Span} :
      calleeForm hereCallee = .unsupported syntaxName →
      calleeForm thereCallee = .unsupported syntaxName →
      hereCallee.span = thereCallee.span →
      ExpressionMatch matching (.call hereCallee here returns span)
        (.call thereCallee there returns span)
  | other {kind : OtherExpression} {span : Span} :
      ExpressionMatch matching (.other kind span) (.other kind span)

/-- The arguments of a range match in the first two. -/
inductive BoundsMatch (matching : Matching) :
    List Expression → List Expression → Prop
  | nil : BoundsMatch matching [] []
  | single {here there : Expression} :
      ExpressionMatch matching here there →
      BoundsMatch matching [here] [there]
  | pair {hereFirst thereFirst hereLast thereLast : Expression}
      {hereOthers thereOthers : List Expression} :
      ExpressionMatch matching hereFirst thereFirst →
      ExpressionMatch matching hereLast thereLast →
      BoundsMatch matching (hereFirst :: hereLast :: hereOthers)
        (thereFirst :: thereLast :: thereOthers)

inductive PartMatch (matching : Matching) : TemplatePart → TemplatePart → Prop
  | mk {here there : Expression} {literal : String} :
      ExpressionMatch matching here there →
      PartMatch matching (.mk here literal) (.mk there literal)

/-- Members match also where a shorthand is written out. -/
inductive MemberMatch (matching : Matching) : ObjectMember → ObjectMember → Prop
  | shorthand {here there : Identifier} :
      here.name = there.name →
      matching.names here there →
      MemberMatch matching (.shorthand here) (.shorthand there)
  | writtenOut {named key value : Identifier} :
      key.name = named.name →
      key.span = named.span →
      matching.names named value →
      MemberMatch matching (.shorthand named)
        (.property (.identifier key) (.identifier value) key.span)
  | property {hereKey thereKey : PropertyName} {here there : Expression}
      {span : Span} :
      lowerPropertyName hereKey = lowerPropertyName thereKey →
      ExpressionMatch matching here there →
      MemberMatch matching (.property hereKey here span)
        (.property thereKey there span)
  | other {kind : OtherMember} {span : Span} :
      MemberMatch matching (.other kind span) (.other kind span)

end

/-- Identifiers with one name at one place. -/
structure SameName (here there : Identifier) : Prop where
  name : here.name = there.name
  span : here.span = there.span

inductive PatternMatch : BindingName → BindingName → Prop
  | identifier {here there : Identifier} :
      SameName here there → PatternMatch (.identifier here) (.identifier there)
  | array {here there : List BindingElement} {span : Span} :
      here.length = there.length →
      Option.Rel (fun hereNames thereNames =>
          SameName hereNames.1 thereNames.1 ∧ SameName hereNames.2 thereNames.2)
        (entryNames? here) (entryNames? there) →
      PatternMatch (.array here span) (.array there span)
  | object {here there : List BindingName} {span : Span} :
      PatternMatch (.object here span) (.object there span)

structure DeclarationMatch (matching : Matching) (here there : Declaration) :
    Prop where
  name : PatternMatch here.name there.name
  initial : Option.Rel (ExpressionMatch matching) here.initial there.initial
  span : here.span = there.span

inductive StatementMatch (matching : Matching) : Statement → Statement → Prop
  | block {here there : List Statement} {placement : Placement} :
      List.Forall₂ (StatementMatch matching) here there →
      StatementMatch matching (.block here placement) (.block there placement)
  | expression {here there : Expression} {placement : Placement} :
      matching.evaluated here →
      ExpressionMatch matching here there →
      StatementMatch matching (.expression here placement)
        (.expression there placement)
  | branch {hereCondition thereCondition : Expression}
      {hereConsequent thereConsequent : Statement}
      {hereAlternative thereAlternative : Option Statement}
      {placement : Placement} :
      ExpressionMatch matching hereCondition thereCondition →
      StatementMatch matching hereConsequent thereConsequent →
      Option.Rel (StatementMatch matching) hereAlternative thereAlternative →
      StatementMatch matching
        (.branch hereCondition hereConsequent hereAlternative placement)
        (.branch thereCondition thereConsequent thereAlternative placement)
  | loop {here there : Declaration} {hereIterable thereIterable : Expression}
      {hereBody thereBody : Statement} {placement : Placement} :
      PatternMatch here.name there.name →
      ExpressionMatch matching hereIterable thereIterable →
      StatementMatch matching hereBody thereBody →
      StatementMatch matching (.loop (.declaration here) hereIterable hereBody
          placement)
        (.loop (.declaration there) thereIterable thereBody placement)
  | otherLoop {here there hereIterable thereIterable : Expression}
      {hereBody thereBody : Statement} {placement : Placement} :
      here.span = there.span →
      StatementMatch matching (.loop (.expression here) hereIterable hereBody
          placement)
        (.loop (.expression there) thereIterable thereBody placement)
  | result {here there : Option Expression} {placement : Placement} :
      Option.Rel (ExpressionMatch matching) here there →
      StatementMatch matching (.result here placement) (.result there placement)
  | declarations {keyword : DeclarationKeyword} {here there : List Declaration}
      {placement : Placement} :
      List.Forall₂ (DeclarationMatch matching) here there →
      StatementMatch matching (.declarations keyword here placement)
        (.declarations keyword there placement)
  | other {kind : OtherStatement} {placement : Placement} :
      StatementMatch matching (.other kind placement) (.other kind placement)

structure BlockMatch (matching : Matching) (here there : Block) : Prop where
  statements :
    List.Forall₂ (StatementMatch matching) here.statements there.statements
  span : here.span = there.span

/-- Functions match when their bodies do and the rest is lowered alike. -/
structure FunctionMatch (matching : Matching) (here there : FunctionDeclaration) :
    Prop where
  name : templateName here = templateName there
  complaint : functionComplaint? here = functionComplaint? there
  body : Option.Rel (BlockMatch matching) here.body there.body
  span : here.span = there.span

/-! ## What matching parts share -/

variable {matching : Matching} {here there : Expression}

theorem ExpressionMatch.span_eq (same : ExpressionMatch matching here there) :
    here.span = there.span := by
  cases same with
  | identifier names => exact matching.span_eq names
  | _ => rfl

theorem ExpressionMatch.syntaxName_eq (same : ExpressionMatch matching here there) :
    here.syntaxName = there.syntaxName := by
  cases same <;> rfl

theorem returnsNothing_call {callee otherCallee : Expression}
    {arguments otherArguments : List Expression} (returns : ReturnKind)
    (span : Span) :
    returnsNothing (.call callee arguments returns span) =
      returnsNothing (.call otherCallee otherArguments returns span) := by
  cases returns <;> rfl

theorem ExpressionMatch.returnsNothing_eq
    (same : ExpressionMatch matching here there) :
    returnsNothing here = returnsNothing there := by
  cases same with
  | rangeCall _ _ _ | helperCall _ _ _ _ | methodCall _ _ _ _ | otherCall _ _ _ =>
      exact returnsNothing_call _ _
  | _ => rfl

theorem ExpressionMatch.standsAlone_eq (same : ExpressionMatch matching here there) :
    standsAlone here = standsAlone there := by
  cases same <;> rfl

theorem StatementMatch.span_eq {here there : Statement}
    (same : StatementMatch matching here there) : here.span = there.span := by
  cases same <;> rfl

end VelocityScript.Lowering
