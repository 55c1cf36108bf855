import VelocityScript.Lowering.Function
import VelocityScript.Proofs.Lowering.Settlement

/-!
# Derivations of lowered statements

Statements always lower to some elements, and leave out what they report.
`Yields` is the relation of the lowerings that leave nothing out: as in
`Derives`, a rule has one premise for every step of its construct, and every
premise has a result.  A lowering of statements that reports nothing is one of
these.
-/

namespace VelocityScript.Lowering

open Script

/-- An effect whose directives have been taken out. -/
def Effect.collected (effect : Effect) : Effect :=
  { effect with hoisted := [] }

/-- Only a pattern of two names takes an entry apart. -/
theorem eq_of_entryNames? {elements : List BindingElement}
    {key value : Identifier} (named : entryNames? elements = some (key, value)) :
    elements = [.bound (.identifier key), .bound (.identifier value)] := by
  unfold entryNames? at named
  split at named
  · cases named
    rfl
  · cases named

@[simp]
theorem Effect.collected_hoisted (effect : Effect) :
    effect.collected.hoisted = [] := rfl

@[simp]
theorem Effect.collected_needsEscape (effect : Effect) :
    effect.collected.needsEscape = effect.needsEscape := rfl

@[simp]
theorem Effect.collected_needsStringClass (effect : Effect) :
    effect.collected.needsStringClass = effect.needsStringClass := rfl

/-- Whether an expression that stands as a statement is lowered for its
reference. -/
def standsAlone : Expression → Bool
  | .assignment _ _ _ _ | .binary _ _ _ _ => false
  | _ => true

theorem lowerEvaluation_of_standsAlone (target : Target) {source : Expression}
    (alone : standsAlone source = true) :
    lowerEvaluation target source = do
      let (lowered, hoisted) ← collecting (lowerExpression target source)
      match lowered with
      | none => return hoisted
      | some lowered =>
          match lowered.reference? with
          | none =>
              note (.expressionStatement source.syntaxName) source.span
              return hoisted
          | some reference => return hoisted ++ standalone target source reference := by
  cases source with
  | assignment operator place value span => cases alone
  | binary operator left right span => cases alone
  | _ => rfl

def isBranch : Statement → Bool
  | .branch _ _ _ _ => true
  | _ => false

theorem lowerAlternative_of_not_branch (target : Target) {source : Statement}
    (notBranch : isBranch source = false) :
    lowerAlternative target (some source) = (do
      let elements ← lowerStatement target source
      return some ⟨[], some (.mk elements (some source.span))⟩) := by
  cases source with
  | branch condition consequent alternative placement => cases notBranch
  | _ => rfl

/-- A step of the lowering of statements. -/
inductive Passage where
  | evaluation (source : Expression)
  | result (returned : Option Expression)
  | declaration (declared : Declaration)
  | declarations (declared : List Declaration)
  | loopPattern (pattern : BindingName)
  | branch (condition : Expression) (consequent : Statement)
      (alternative : Option Statement)
  | alternative (source : Option Statement)
  | statement (source : Statement)
  | statements (sources : List Statement)

namespace Passage

/-- What a step results in. -/
@[reducible]
def Result : Passage → Type
  | .evaluation _ | .result _ | .declaration _ | .declarations _
  | .statement _ | .statements _ => List Template.Element
  | .loopPattern _ => Template.Variable × List Template.Element
  | .branch _ _ _ => BranchParts
  | .alternative _ => BranchRest

/-- The step as the lowering takes it.  Only patterns and branches can give
up. -/
def run (target : Target) : (passage : Passage) → Lower (Option passage.Result)
  | .evaluation source => return some (← lowerEvaluation target source)
  | .result returned => return some (← lowerResult target returned)
  | .declaration declared => return some (← lowerDeclaration target declared)
  | .declarations declared => return some (← lowerDeclarations target declared)
  | .loopPattern pattern => lowerLoopPattern pattern
  | .branch condition consequent rest =>
      lowerBranch (lowerExpression target condition)
        (lowerStatement target consequent) consequent.span
        (lowerAlternative target rest)
  | .alternative source => lowerAlternative target source
  | .statement source => return some (← lowerStatement target source)
  | .statements sources => return some (← lowerStatements target sources)

end Passage

/-- `Yields target passage first result next effect` means that the step
`passage`, taken when `first` temporaries exist, has the given result with
nothing left out, leaves `next` temporaries and adds `effect`. -/
inductive Yields (target : Target) :
    (passage : Passage) → Nat → passage.Result → Nat → Effect → Prop
  | assignment {operator : AssignmentOperator} {place value : Expression}
      {span : Span} {first next : Nat} {result : Template.Expression}
      {effect : Effect} :
      Derives target (.expression (.assignment operator place value span)) first
        result next effect →
      Yields target (.evaluation (.assignment operator place value span)) first
        effect.hoisted next effect.collected
  | standalone {source : Expression} {first next : Nat}
      {result : Template.Expression} {reference : Template.Reference}
      {effect : Effect} :
      standsAlone source = true →
      Derives target (.expression source) first result next effect →
      result.reference? = some reference →
      Yields target (.evaluation source) first
        (effect.hoisted ++ standalone target source reference) next
        effect.collected
  | noResult {first : Nat} : Yields target (.result none) first [] first ∅
  | result {source : Expression} {first next : Nat} {value : Template.Value}
      {effect : Effect} :
      Derives target (.value source) first value next effect →
      Yields target (.result (some source)) first
        ((if effect.hoisted.isEmpty then [] else effect.hoisted ++ [.newLine]) ++
          [.emit value])
        next effect.collected
  | uninitialised {declared : Declaration} {first : Nat} :
      declared.initial = none →
      Yields target (.declaration declared) first [] first ∅
  | initialised {declared : Declaration} {name : Identifier}
      {initial : Expression} {first middle next : Nat}
      {place : Template.Identifier} {value : Template.Expression}
      {before after : Effect} :
      declared.name = .identifier name →
      declared.initial = some initial →
      Derives target (.name name.name name.span) first place middle before →
      Derives target (.expression initial) middle value next after →
      Yields target (.declaration declared) first
        (after.hoisted ++
          [.assign (.named (.ofIdentifier place)) value.interpolated
            (some declared.span)])
        next (before ++ after.collected)
  | noDeclarations {first : Nat} :
      Yields target (.declarations []) first [] first ∅
  | moreDeclarations {declared : Declaration} {others : List Declaration}
      {first middle next : Nat} {elements rest : List Template.Element}
      {before after : Effect} :
      Yields target (.declaration declared) first elements middle before →
      Yields target (.declarations others) middle rest next after →
      Yields target (.declarations (declared :: others)) first
        (elements ++ rest) next (before ++ after)
  | item {name : Identifier} {first next : Nat} {place : Template.Identifier}
      {effect : Effect} :
      Derives target (.name name.name name.span) first place next effect →
      Yields target (.loopPattern (.identifier name)) first
        (.ofIdentifier place, []) next effect
  | entry {elements : List BindingElement} {span : Span}
      {key value : Identifier} {first middle next : Nat}
      {keyName valueName : Template.Identifier} {before after : Effect} :
      entryNames? elements = some (key, value) →
      Derives target (.name key.name key.span) (first + 1) keyName middle
        before →
      Derives target (.name value.name value.span) middle valueName next after →
      Yields target (.loopPattern (.array elements span)) first
        (temporaryVariable first (some span),
          [entryPart (temporaryVariable first (some span)) keyName "key" key.span,
            entryPart (temporaryVariable first (some span)) valueName "value"
              value.span,
            .newLine])
        next (before ++ after)
  | branch {condition : Expression} {consequent : Statement}
      {alternative : Option Statement} {first second third next : Nat}
      {result : Template.Expression} {elements : List Template.Element}
      {rest : BranchRest} {before between after : Effect} :
      Derives target (.expression condition) first result second before →
      Yields target (.statement consequent) second elements third between →
      Yields target (.alternative alternative) third rest next after →
      Yields target (.branch condition consequent alternative) first
        { first :=
            .mk result.interpolated (.mk elements (some consequent.span))
              (some consequent.span)
          others := rest.others
          otherwise := rest.otherwise }
        next (before ++ between ++ after)
  | noAlternative {first : Nat} :
      Yields target (.alternative none) first ⟨[], none⟩ first ∅
  | chained {condition : Expression} {consequent : Statement}
      {alternative : Option Statement} {placement : Placement}
      {first next : Nat} {parts : BranchParts} {effect : Effect} :
      Yields target (.branch condition consequent alternative) first parts next
        effect →
      Yields target
        (.alternative (some (.branch condition consequent alternative placement)))
        first ⟨parts.first :: parts.others, parts.otherwise⟩ next effect
  | otherwise {source : Statement} {first next : Nat}
      {elements : List Template.Element} {effect : Effect} :
      isBranch source = false →
      Yields target (.statement source) first elements next effect →
      Yields target (.alternative (some source)) first
        ⟨[], some (.mk elements (some source.span))⟩ next effect
  | block {statements : List Statement} {placement : Placement}
      {first next : Nat} {elements : List Template.Element} {effect : Effect} :
      Yields target (.statements statements) first elements next effect →
      Yields target (.statement (.block statements placement)) first
        (blankLines placement ++ elements) next effect
  | evaluation {source : Expression} {placement : Placement}
      {first next : Nat} {elements : List Template.Element} {effect : Effect} :
      Yields target (.evaluation source) first elements next effect →
      Yields target (.statement (.expression source placement)) first
        (blankLines placement ++ elements) next effect
  | branching {condition : Expression} {consequent : Statement}
      {alternative : Option Statement} {placement : Placement}
      {first next : Nat} {parts : BranchParts} {effect : Effect} :
      Yields target (.branch condition consequent alternative) first parts next
        effect →
      Yields target
        (.statement (.branch condition consequent alternative placement)) first
        (blankLines placement ++ effect.hoisted ++
          [.branch parts.first parts.others parts.otherwise
            (some placement.span)])
        next effect.collected
  | looping {declared : Declaration} {iterable : Expression}
      {body : Statement} {placement : Placement}
      {first second third next : Nat} {item : Template.Variable}
      {opening elements : List Template.Element} {value : Template.Value}
      {before between after : Effect} :
      Yields target (.loopPattern declared.name) first (item, opening) second
        before →
      Derives target (.value iterable) second value third between →
      Yields target (.statement body) third elements next after →
      Yields target
        (.statement (.loop (.declaration declared) iterable body placement))
        first
        (blankLines placement ++ between.hoisted ++
          [.loop item value (.mk (opening ++ elements) (some body.span))
            (some placement.span)])
        next (before ++ between.collected ++ after)
  | returning {returned : Option Expression} {placement : Placement}
      {first next : Nat} {elements : List Template.Element} {effect : Effect} :
      Yields target (.result returned) first elements next effect →
      Yields target (.statement (.result returned placement)) first
        (blankLines placement ++ elements) next effect
  | declaring {keyword : DeclarationKeyword} {declared : List Declaration}
      {placement : Placement} {first next : Nat}
      {elements : List Template.Element} {effect : Effect} :
      Yields target (.declarations declared) first elements next effect →
      Yields target (.statement (.declarations keyword declared placement))
        first (blankLines placement ++ elements) next effect
  | noStatements {first : Nat} : Yields target (.statements []) first [] first ∅
  | moreStatements {source : Statement} {others : List Statement}
      {first middle next : Nat} {elements rest : List Template.Element}
      {before after : Effect} :
      Yields target (.statement source) first elements middle before →
      Yields target (.statements others) middle rest next after →
      Yields target (.statements (source :: others)) first (elements ++ rest)
        next (before ++ after)

end VelocityScript.Lowering
