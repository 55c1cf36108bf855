import VelocityScript.Script.Tree

/-!
# Names in scripts

The names of a script that its template is made with: names of variables,
parameters and properties, and the names under which helpers are exported.
Keys of objects become strings of the template and are not among them.
-/

namespace VelocityScript.Script

/-- The name of an identifier, and that of the helper it stands for. -/
def Identifier.names (identifier : Identifier) : List String :=
  match identifier.binding with
  | .helper _ exported _ => [identifier.name, exported]
  | _ => [identifier.name]

mutual

def Expression.names : Expression → List String
  | .identifier named => named.names
  | .receiver _ | .number _ _ | .string _ _ | .boolean _ _ | .other _ _ => []
  | .template _ parts _ => namesOfParts parts
  | .array elements _ => namesOfAll elements
  | .object members _ => namesOfMembers members
  | .parenthesized inner _ => inner.names
  | .unary _ operand _ => operand.names
  | .binary _ left right _ => left.names ++ right.names
  | .assignment _ place value _ => place.names ++ value.names
  | .member object property _ _ => object.names ++ [property.name]
  | .index object subscript _ => object.names ++ subscript.names
  | .call callee arguments _ _ => callee.names ++ namesOfAll arguments

/-- The names in several expressions. -/
def namesOfAll : List Expression → List String
  | [] => []
  | source :: others => source.names ++ namesOfAll others

def TemplatePart.names : TemplatePart → List String
  | .mk source _ => source.names

/-- The names in the parts of a template literal. -/
def namesOfParts : List TemplatePart → List String
  | [] => []
  | part :: others => part.names ++ namesOfParts others

def ObjectMember.names : ObjectMember → List String
  | .shorthand named => named.names
  | .property _ value _ => value.names
  | .other _ _ => []

def namesOfMembers : List ObjectMember → List String
  | [] => []
  | member :: others => member.names ++ namesOfMembers others

end

def namesOfOption : Option Expression → List String
  | none => []
  | some source => source.names

def Declaration.allNames (declared : Declaration) : List String :=
  declared.name.names ++ namesOfOption declared.initial

/-- The names in the header of a loop. -/
def LoopHeader.names : LoopHeader → List String
  | .declaration declared => declared.allNames
  | .expression assigned => assigned.names

def namesOfDeclarations (declared : List Declaration) : List String :=
  declared.flatMap Declaration.allNames

mutual

def Statement.names : Statement → List String
  | .block statements _ => namesOfStatements statements
  | .expression evaluated _ => evaluated.names
  | .branch condition consequent alternative _ =>
      condition.names ++ consequent.names ++ namesOfAlternative alternative
  | .loop header iterable body _ =>
      header.names ++ iterable.names ++ body.names
  | .result returned _ => namesOfOption returned
  | .declarations _ declared _ => namesOfDeclarations declared
  | .other _ _ => []

def namesOfStatements : List Statement → List String
  | [] => []
  | statement :: others => statement.names ++ namesOfStatements others

/-- The names in the other side of a branch. -/
def namesOfAlternative : Option Statement → List String
  | none => []
  | some statement => statement.names

end

def FunctionDeclaration.names (function : FunctionDeclaration) : List String :=
  match function.body with
  | none => []
  | some body => namesOfStatements body.statements

end VelocityScript.Script
