import VelocityScript.Lowering.Expression

/-!
# Lowering statements
-/

namespace VelocityScript.Lowering

open Script

/-- A call whose result is not printed. -/
def discardCall (target : Target) (call : Template.Reference) :
    List Template.Element :=
  match target with
  | .appsync =>
      let quiet :=
        Template.Path.call (.name ⟨"util", call.origin⟩) ⟨"qr", call.origin⟩
          call.origin [call.value] call.origin
      [.emit (.reference quiet call.origin), .newLine]
  | .apigateway =>
      [.assign (.named ⟨⟨"discard", none⟩, none⟩) (.ofValue call.value) call.origin]

def returnsNothing : Expression → Bool
  | .call _ _ .nothing _ => true
  | _ => false

def isCall (reference : Template.Reference) : Bool :=
  match reference.path with
  | .call _ _ _ _ _ => true
  | _ => false

/-- The elements of a reference that stands as a statement. -/
def standalone (target : Target) (source : Expression)
    (reference : Template.Reference) : List Template.Element :=
  if isCall reference && !returnsNothing source then
    discardCall target reference
  else
    [.emit reference.value, .newLine]

/-- Lowers an expression that stands as a statement.  An assignment leaves only
its directives. -/
def lowerEvaluation (target : Target) (expression : Expression) :
    Lower (List Template.Element) := do
  match expression with
  | .assignment _ _ _ _ =>
      let (_, hoisted) ← collecting (lowerExpression target expression)
      return hoisted
  | .binary operator _ _ span =>
      note (.binaryStatement operator) span
      return []
  | _ =>
      let (lowered, hoisted) ← collecting (lowerExpression target expression)
      match lowered with
      | none => return hoisted
      | some lowered =>
          match lowered.reference? with
          | none =>
              note (.expressionStatement expression.syntaxName) expression.span
              return hoisted
          | some reference =>
              return hoisted ++ standalone target expression reference

/-- Lowers a return statement: its value is printed. -/
def lowerResult (target : Target) (returned : Option Expression) :
    Lower (List Template.Element) := do
  match returned with
  | none => return []
  | some expression =>
      let (value, hoisted) ← collecting (lowerValue target expression)
      let before := if hoisted.isEmpty then [] else hoisted ++ [.newLine]
      return before ++ (value.map .emit).toList

/-- Lowers one declaration.  Without an initial value there is nothing to do. -/
def lowerDeclaration (target : Target) (declaration : Declaration) :
    Lower (List Template.Element) := do
  match declaration.initial with
  | none => return []
  | some initial =>
      match declaration.name with
      | .identifier name =>
          let place ← lowerName name.name name.span
          let (value, hoisted) ← collecting (lowerExpression target initial)
          match place, value with
          | some place, some value =>
              return hoisted ++
                [.assign (.named (.ofIdentifier place)) value.interpolated
                  (some declaration.span)]
          | _, _ => return hoisted
      | pattern =>
          note .destructuring pattern.span
          return []

def lowerDeclarations (target : Target) :
    List Declaration → Lower (List Template.Element)
  | [] => return []
  | declaration :: others => do
      let elements ← lowerDeclaration target declaration
      return elements ++ (← lowerDeclarations target others)

/-- The two names of an array pattern that takes an entry apart. -/
def entryNames? : List BindingElement → Option (Identifier × Identifier)
  | [.bound (.identifier key), .bound (.identifier value)] => some (key, value)
  | _ => none

/-- The directive that takes one part of an entry. -/
def entryPart (entry : Template.Variable) (place : Template.Identifier)
    (property : String) (span : Span) : Template.Element :=
  let path :=
    Template.Path.property (.name entry.name) ⟨property, some span⟩ (some span)
  .assign (.named (.ofIdentifier place)) (.ofValue (.reference path (some span)))
    (some span)

/-- Lowers the pattern of a loop over entries: the variable of the loop, and
the directives that take an entry apart. -/
def lowerEntryPattern (elements : List BindingElement) (span : Span) :
    Lower (Option (Template.Variable × List Template.Element)) := do
  if elements.length ≠ 2 then
    giveUp .entryPatternSize span
  else
    match entryNames? elements with
    | none => giveUp .entryPatternNames span
    | some (key, value) =>
        let entry ← temporary (some span)
        match ← lowerName key.name key.span with
        | none => return none
        | some keyName =>
            match ← lowerName value.name value.span with
            | none => return none
            | some valueName =>
                return some
                  (entry,
                    [entryPart entry keyName "key" key.span,
                      entryPart entry valueName "value" value.span, .newLine])

/-- Lowers what a loop declares: its variable, and the directives at the start
of its body. -/
def lowerLoopPattern : BindingName →
    Lower (Option (Template.Variable × List Template.Element))
  | .identifier name => do
      let place ← lowerName name.name name.span
      return place.map fun place => (.ofIdentifier place, [])
  | .array elements span => lowerEntryPattern elements span
  | .object _ span => giveUp .loopPattern span

structure BranchParts where
  first : Template.Clause
  others : List Template.Clause
  otherwise : Option Template.Block

/-- What follows the first clause of a branch directive. -/
structure BranchRest where
  others : List Template.Clause
  otherwise : Option Template.Block

/-- The parts of a branch, from the steps that lower its parts. -/
def lowerBranch (condition : Lower (Option Template.Expression))
    (consequent : Lower (List Template.Element)) (span : Span)
    (alternative : Lower (Option BranchRest)) : Lower (Option BranchParts) := do
  let condition ← condition
  let elements ← consequent
  let rest ← alternative
  return condition.bind fun condition => rest.map fun rest =>
    { first :=
        .mk condition.interpolated (.mk elements (some span)) (some span)
      others := rest.others
      otherwise := rest.otherwise }

/-- The empty lines in front of a statement: one line break less than in the
source. -/
def blankLines (placement : Placement) : List Template.Element :=
  List.replicate (placement.leadingNewlines - 1) .newLine

mutual

def lowerStatement (target : Target) :
    Statement → Lower (List Template.Element)
  | .block statements placement => do
      return blankLines placement ++ (← lowerStatements target statements)
  | .expression evaluated placement => do
      return blankLines placement ++ (← lowerEvaluation target evaluated)
  | .branch condition consequent alternative placement => do
      let (parts, hoisted) ← collecting
        (lowerBranch (lowerExpression target condition)
          (lowerStatement target consequent) consequent.span
          (lowerAlternative target alternative))
      let directive :=
        parts.map fun parts =>
          Template.Element.branch parts.first parts.others parts.otherwise
            (some placement.span)
      return blankLines placement ++ hoisted ++ directive.toList
  | .loop header iterable body placement => do
      match header with
      | .expression assigned =>
          note .loopHeader assigned.span
          return blankLines placement
      | .declaration declared =>
          let pattern ← lowerLoopPattern declared.name
          let (iterable, hoisted) ← collecting (lowerValue target iterable)
          let elements ← lowerStatement target body
          let directive :=
            pattern.bind fun (item, opening) => iterable.map fun iterable =>
              Template.Element.loop item iterable
                (.mk (opening ++ elements) (some body.span)) (some placement.span)
          return blankLines placement ++ hoisted ++ directive.toList
  | .result returned placement => do
      return blankLines placement ++ (← lowerResult target returned)
  | .declarations _ declared placement => do
      return blankLines placement ++ (← lowerDeclarations target declared)
  | .other kind placement => do
      note (.statement kind) placement.span
      return blankLines placement ++
        [.text ("## " ++ kind.syntaxName ++ "\n") (some placement.span)]

def lowerStatements (target : Target) :
    List Statement → Lower (List Template.Element)
  | [] => return []
  | statement :: others => do
      let elements ← lowerStatement target statement
      return elements ++ (← lowerStatements target others)

/-- Lowers the other side of a branch.  A branch there adds its clauses to
those of the branch around it. -/
def lowerAlternative (target : Target) :
    Option Statement → Lower (Option BranchRest)
  | none => return some ⟨[], none⟩
  | some (.branch condition consequent alternative _) => do
      let parts ← lowerBranch (lowerExpression target condition)
        (lowerStatement target consequent) consequent.span
        (lowerAlternative target alternative)
      return parts.map fun parts =>
        ⟨parts.first :: parts.others, parts.otherwise⟩
  | some statement => do
      let elements ← lowerStatement target statement
      return some ⟨[], some (.mk elements (some statement.span))⟩

end

end VelocityScript.Lowering
