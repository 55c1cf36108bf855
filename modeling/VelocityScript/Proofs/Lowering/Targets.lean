import VelocityScript.Proofs.Lowering.ParallelLowering

/-!
# Lowering for two services

The lowerings of a function for a resolver and for a gateway take the same
branches, make the same temporaries and the same reports, and build counterparts.
The services differ at receivers, at parameters and at calls whose result is
dropped, and nowhere else.
-/

namespace VelocityScript.Lowering

open Script

/-- The paths that differ between a resolver and a gateway: a receiver is `ctx`
or `context`, and a parameter is a property of the arguments or a variable. -/
inductive ServicePath (reach : Reach) :
    Template.Path → Template.Identifier → Prop
  | receiver {span : Span} :
      span ∈ reach.receivers →
      ServicePath reach (.name ⟨"ctx", some span⟩) ⟨"context", some span⟩
  | parameter {named : Identifier} :
      named ∈ reach.mentioned →
      named.binding = .parameter →
      ServicePath reach
        (.chain "ctx" ["arguments", bareName named.name] (some named.span))
        ⟨bareName named.name, some named.span⟩

/-- The sites where a resolver and a gateway differ: receivers, parameters and
dropped results, among what is reached. -/
def serviceSites (reach : Reach) : Sites where
  exchanged := ServicePath reach
  dropped source := source ∈ reach.evaluated ∧ dropsResult source = true
  origin_eq paths := by cases paths <;> rfl
  not_call paths origin := by cases paths <;> rfl

/-- Nothing is reached for which the services differ. -/
structure Uniform (reach : Reach) : Prop where
  receivers : reach.receivers = []
  parameters : ∀ named ∈ reach.mentioned, named.binding ≠ .parameter
  results : ∀ source ∈ reach.evaluated, dropsResult source = false

theorem Uniform.serviceSites {reach : Reach} (uniform : Uniform reach) :
    (serviceSites reach).Uniform where
  exchanged paths := by
    cases paths with
    | receiver reached =>
        rw [uniform.receivers] at reached
        cases reached
    | parameter mentioned bound =>
        exact absurd bound (uniform.parameters _ mentioned)
  dropped source dropped := by
    have kept := uniform.results source dropped.1
    rw [dropped.2] at kept
    cases kept

/-! ## What is reached matches itself -/

/-- What is reached matches only itself. -/
def reached (reach : Reach) : Matching where
  names here there := here = there ∧ here ∈ reach.mentioned
  receivers span := span ∈ reach.receivers
  evaluated source := source ∈ reach.evaluated
  span_eq same := congrArg Identifier.span same.1

variable {whole : Reach}

/-- A parameter is the only name for which the services differ. -/
theorem services_agree (reach : Reach) :
    Agreement (serviceSites reach) (reached reach) .appsync .apigateway where
  names := by
    rintro named _ ⟨rfl, mentioned⟩
    by_cases bound : named.binding = .parameter
    · unfold lowerIdentifier
      rw [if_pos ⟨rfl, bound⟩, if_neg (fun both => nomatch both.1), bound]
      exact parallel_named (.ofPath (.exchanged (.parameter mentioned bound)))
    · have same : lowerIdentifier .appsync named =
          lowerIdentifier .apigateway named := by
        unfold lowerIdentifier
        rw [if_neg (fun both => bound both.2), if_neg (fun both => bound both.2)]
      rw [same]
      exact parallel_lowerIdentifier _ _
  receivers allowed := .exchanged (.receiver allowed)
  discards := by
    intro source hereCall thereCall evaluated drops placed references
    obtain ⟨herePath, origin⟩ := hereCall
    obtain ⟨therePath, _⟩ := thereCall
    obtain ⟨path, same⟩ := references
    cases same
    exact .dropped ⟨evaluated, drops⟩ placed path .nil

mutual

theorem match_self :
    ∀ source : Expression, source.reach.Within whole →
      ExpressionMatch (reached whole) source source
  | .identifier _, within =>
      .identifier ⟨rfl, within.mentioned List.mem_cons_self⟩
  | .receiver _, within => .receiver (within.receivers List.mem_cons_self)
  | .number _ _, _ => .number
  | .string _ _, _ => .string
  | .boolean _ _, _ => .boolean
  | .template _ parts _, within => .template (match_parts parts within.right)
  | .array elements _, within => .array (match_all elements within)
  | .object members _, within => .object (match_members members within)
  | .parenthesized inner _, within => .parenthesized (match_self inner within)
  | .unary _ operand _, within => .unary (match_self operand within)
  | .binary _ left right _, within =>
      .binary (match_self left within.left) (match_self right within.right)
  | .assignment _ place value _, within =>
      .assignment (match_self place within.left) (match_self value within.right)
  | .member object _ _ _, within => .member (match_self object within)
  | .index object subscript _, within =>
      .index (match_self object within.left) (match_self subscript within.right)
  | .call callee arguments _ _, within => by
      have callees := match_self callee
      have bounds := match_bounds arguments
      have all := match_all arguments
      unfold Expression.reach at within
      cases form : calleeForm callee with
      | unsupported syntaxName => exact .otherCall form form rfl
      | method =>
          simp only [form] at within
          exact .methodCall form form (callees within.left) (all within.right)
      | helper exported nameSpan =>
          simp only [form] at within
          by_cases isRange : exported = Catalogue.rangeHelper
          · rw [if_pos isRange] at within
            rw [isRange] at form
            exact .rangeCall form form (bounds within)
          · rw [if_neg isRange] at within
            exact .helperCall form form isRange (all within)
  | .other _ _, _ => .other

theorem match_all :
    ∀ sources : List Expression, (reachOfAll sources).Within whole →
      List.Forall₂ (ExpressionMatch (reached whole)) sources sources
  | [], _ => .nil
  | source :: others, within =>
      .cons (match_self source within.left) (match_all others within.right)

theorem match_bounds :
    ∀ sources : List Expression, (reachOfBounds sources).Within whole →
      BoundsMatch (reached whole) sources sources
  | [], _ => .nil
  | [lowest], within => .single (match_self lowest within)
  | lowest :: highest :: _, within =>
      .pair (match_self lowest within.left) (match_self highest within.right)

theorem match_parts :
    ∀ parts : List TemplatePart, (reachOfParts parts).Within whole →
      List.Forall₂ (PartMatch (reached whole)) parts parts
  | [], _ => .nil
  | .mk source _ :: others, within =>
      .cons (.mk (match_self source within.left.left))
        (match_parts others within.right)

theorem match_members :
    ∀ members : List ObjectMember, (reachOfMembers members).Within whole →
      List.Forall₂ (MemberMatch (reached whole)) members members
  | [], _ => .nil
  | .shorthand _ :: others, within =>
      .cons (.shorthand rfl ⟨rfl, within.left.mentioned List.mem_cons_self⟩)
        (match_members others within.right)
  | .property _ value _ :: others, within =>
      .cons (.property rfl (match_self value within.left))
        (match_members others within.right)
  | .other _ _ :: others, within =>
      .cons .other (match_members others within.right)

end

theorem match_option :
    ∀ source : Option Expression, (reachOfOption source).Within whole →
      Option.Rel (ExpressionMatch (reached whole)) source source
  | none, _ => .none
  | some source, within => .some (match_self source within)

theorem match_pattern (pattern : BindingName) : PatternMatch pattern pattern := by
  cases pattern with
  | identifier named => exact .identifier ⟨rfl, rfl⟩
  | object properties span => exact .object
  | array elements span =>
      refine .array rfl ?_
      cases entryNames? elements with
      | none => exact .none
      | some names => exact .some ⟨⟨rfl, rfl⟩, ⟨rfl, rfl⟩⟩

theorem match_declaration (declared : Declaration)
    (within : declared.reach.Within whole) :
    DeclarationMatch (reached whole) declared declared where
  name := match_pattern declared.name
  initial := by
    unfold Declaration.reach at within
    cases initialised : declared.initial with
    | none => exact .none
    | some initial =>
        rw [initialised] at within
        exact .some (match_self initial within.right)
  span := rfl

theorem match_declarations :
    ∀ declared : List Declaration, (reachOfDeclarations declared).Within whole →
      List.Forall₂ (DeclarationMatch (reached whole)) declared declared
  | [], _ => .nil
  | declaration :: others, within =>
      .cons (match_declaration declaration within.left)
        (match_declarations others within.right)

mutual

theorem match_statement :
    ∀ source : Statement, source.reach.Within whole →
      StatementMatch (reached whole) source source
  | .block statements _, within => .block (match_statements statements within)
  | .expression evaluated _, within =>
      .expression (within.left.evaluated List.mem_cons_self)
        (match_self evaluated within.right)
  | .branch condition consequent alternative _, within =>
      .branch (match_self condition within.left.left)
        (match_statement consequent within.left.right)
        (match_alternative alternative within.right)
  | .loop (.declaration declared) iterable body _, within =>
      .loop (match_pattern declared.name) (match_self iterable within.left.right)
        (match_statement body within.right)
  | .loop (.expression _) _ _ _, _ => .otherLoop rfl
  | .result returned _, within => .result (match_option returned within)
  | .declarations _ declared _, within =>
      .declarations (match_declarations declared within)
  | .other _ _, _ => .other

theorem match_statements :
    ∀ sources : List Statement, (reachOfStatements sources).Within whole →
      List.Forall₂ (StatementMatch (reached whole)) sources sources
  | [], _ => .nil
  | source :: others, within =>
      .cons (match_statement source within.left)
        (match_statements others within.right)

theorem match_alternative :
    ∀ source : Option Statement, (reachOfAlternative source).Within whole →
      Option.Rel (StatementMatch (reached whole)) source source
  | none, _ => .none
  | some source, within => .some (match_statement source within)

end

theorem match_function (function : FunctionDeclaration) :
    FunctionMatch (reached function.reach) function function where
  name := rfl
  complaint := rfl
  body := by
    cases bodied : function.body with
    | none => exact .none
    | some body =>
        refine .some ⟨match_statements body.statements ?_, rfl⟩
        simp only [FunctionDeclaration.reach, bodied]
        exact .refl _
  span := rfl

/-! ## Functions -/

theorem eq_of_optionRel {Result : Type} {related : Result → Result → Prop}
    {here there : Option Result} (options : Option.Rel related here there)
    (same : ∀ hereResult thereResult, related hereResult thereResult →
      hereResult = thereResult) : here = there := by
  cases options with
  | none => rfl
  | some results => rw [same _ _ results]

/-- A function has the same reports, the same number of temporaries and the same
preludes for both services, and a template for both or for neither.  The two
templates are equal but for the receivers, the parameters and the dropped
results of the function, so they are equal where it has none of these; and at
each of these they differ as the services do. -/
theorem targets_differ_only_at_sites (function : FunctionDeclaration) :
    (lowerFunction .appsync function).2 =
        (lowerFunction .apigateway function).2 ∧
      temporaryCount .appsync function = temporaryCount .apigateway function ∧
      ((functionStep .appsync function).run {}).2.needsEscape =
        ((functionStep .apigateway function).run {}).2.needsEscape ∧
      ((functionStep .appsync function).run {}).2.needsStringClass =
        ((functionStep .apigateway function).run {}).2.needsStringClass ∧
      Option.Rel (FileCounterpart (serviceSites function.reach))
        (lowerFunction .appsync function).1
        (lowerFunction .apigateway function).1 ∧
      (Uniform function.reach →
        lowerFunction .appsync function = lowerFunction .apigateway function) ∧
      (∀ span state,
        (lowerExpression .appsync (.receiver span)).run state =
            (some (.ofPath (.name ⟨"ctx", some span⟩)), state) ∧
          (lowerExpression .apigateway (.receiver span)).run state =
            (some (.ofPath (.name ⟨"context", some span⟩)), state)) ∧
      (∀ named : Identifier, named.binding = .parameter →
        Template.isValidIdentifier named.name = true → ∀ state,
          (lowerExpression .appsync (.identifier named)).run state =
              (some (.ofPath
                (.chain "ctx" ["arguments", bareName named.name]
                  (some named.span))), state) ∧
            (lowerExpression .apigateway (.identifier named)).run state =
              (some (.ofPath (.name ⟨bareName named.name, some named.span⟩)),
                state)) ∧
      ∀ callee arguments returns span base method calleeOrigin values origin,
        returns ≠ .nothing →
          let call : Template.Reference :=
            ⟨.call base method calleeOrigin values origin, origin⟩
          let source := Expression.call callee arguments returns span
          standalone .appsync source call =
              [.emit
                (.reference
                  (.call (.name ⟨"util", origin⟩) ⟨"qr", origin⟩ origin
                    [call.value] origin)
                  origin),
                .newLine] ∧
            standalone .apigateway source call =
              [.assign (.named ⟨⟨"discard", none⟩, none⟩) (.ofValue call.value)
                origin] := by
  obtain ⟨files, states⟩ := parallel_function (services_agree function.reach)
    (match_function function) {} {} ⟨rfl, rfl, rfl, rfl, .nil⟩
  refine ⟨states.reports, states.temporaries, states.needsEscape,
    states.needsStringClass, files, fun uniform => ?_, fun span state => ?_,
    fun named bound valid state => ?_, ?_⟩
  · refine Prod.ext ?_ states.reports
    exact eq_of_optionRel files fun _ _ related => related.eq uniform.serviceSites
  · exact ⟨rfl, rfl⟩
  · have lowered : lowerName named.name named.span =
        pure (some ⟨bareName named.name, some named.span⟩) := if_pos valid
    simp only [lowerExpression, lowerIdentifier, bound, lowered]
    exact ⟨rfl, rfl⟩
  · intro callee arguments returns span base method calleeOrigin values origin
      valued call source
    cases returns with
    | nothing => exact absurd rfl valued
    | unknown => exact ⟨rfl, rfl⟩
    | never => exact ⟨rfl, rfl⟩
    | value => exact ⟨rfl, rfl⟩

/-- A method of a parameter is called on the receiver, and its result is
dropped. -/
theorem targets_differ_only_at_sites_method :
    let span : Span := ⟨0, 0⟩
    let parameter : Identifier := ⟨"$p", span, .parameter⟩
    let method := Expression.member (.identifier parameter)
      ⟨"go", span, .unresolved⟩ false span
    let function : FunctionDeclaration :=
      { name := none
        modifiers := [.exported]
        parameters := [⟨.identifier parameter, false, span⟩]
        body := some
          { statements :=
              [.expression (.call method [.receiver span] .value span) ⟨span, 0⟩]
            span }
        isGenerator := false
        span }
    (parameter.binding = .parameter ∧
      Template.isValidIdentifier parameter.name = true) ∧
      Option.Rel (FileCounterpart (serviceSites function.reach))
        (lowerFunction .appsync function).1
        (lowerFunction .apigateway function).1 ∧
      (lowerFunction .appsync function).1.map (·.render {}) =
        some ("## Function: default\n" ++
          "$\x7butil.qr($\x7bctx.arguments.p.go($ctx)\x7d)\x7d\n") ∧
      (lowerFunction .apigateway function).1.map (·.render {}) =
        some ("## Function: default\n" ++
          "#set($discard = $\x7bp.go($context)\x7d)\n") := by
  intro span parameter method function
  obtain ⟨-, -, -, -, files, -⟩ := targets_differ_only_at_sites function
  exact ⟨⟨rfl, by decide⟩, files, by decide +kernel, by decide +kernel⟩

end VelocityScript.Lowering
