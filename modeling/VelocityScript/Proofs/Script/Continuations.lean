import VelocityScript.Script.Grammar.Item

/-!
# Shared ends of rules

Alternatives of one rule of the grammar go on in the same way.  What they share
has a name here, so that it is treated once and not for every alternative.
-/

namespace VelocityScript.Script

/-- What follows the digits of a number: the mark of a big integer, or nothing
that continues a name. -/
def Parser.numberEnd (start : Nat) (digits : List Char) : Parser NumberToken := do
  if ← eatCharacter 'n' then
    return ⟨String.ofList (digits ++ ['n']), true⟩
  else
    let stop ← get
    match stop.rest with
    | next :: _ =>
        if isNameStart next then
          failAt .identifierAfterNumber ⟨start, stop.offset + next.utf8Size⟩
        else
          return ⟨String.ofList digits, false⟩
    | [] => return ⟨String.ofList digits, false⟩

namespace Grammar

open VelocityScript.Script.Parser

/-- What follows the name of a parameter. -/
def parameterEnd (nested : Nested) (isReceiver : Bool) (start : Nat)
    (name : BindingName) : Parser Parameter := do
  discard (eat .question)
  if ← eat .colon then
    skipType .token
  skipDefault nested
  return { name, isReceiver, span := ← spanFrom start }

/-- What follows the name of a function. -/
def functionEnd (nested : Nested) (modifiers : List Modifier)
    (isGenerator : Bool) (start : Nat) (name : Option Identifier) :
    Parser FunctionDeclaration := do
  skipTypeParameters
  let parameters ← parameters nested
  skipReturnType
  let body ←
    if (← get).sees .openBrace then do
      pure (some (← block nested))
    else do
      semicolon
      pure none
  return { name, modifiers, parameters, body, isGenerator, span := ← spanFrom start }

/-- A method, from its name on. -/
def methodMember (nested : Nested) (kind : OtherMember) (start : Nat) :
    Parser ObjectMember := do
  discard (propertyName nested)
  skipMethod nested
  otherMember kind start

/-- A call of what has been read so far. -/
def callStep (nested : Nested) (start : Nat) (base : Expression) :
    Parser (Round Expression Expression) := do
  let arguments ← arguments nested
  return .again (.call base arguments .unknown (← spanFrom start))

/-- What follows the parameters of an arrow function. -/
def arrowEnd : Parser Unit := do
  if ← eat .colon then
    skipType .token
  expect .arrow

/-- The parameters of an arrow function, and the arrow. -/
def arrowParameters : Parser Unit := do
  let cursor ← get
  if cursor.seesIdentifier && cursor.punctuatorAfterWord? == some .arrow then
    discard identifier
  else
    skipBalanced '(' ')'
  arrowEnd

/-- What follows the blocks for a failure. -/
def finallyEnd (nested : Nested) : Parser (Placement → Statement) := do
  if ← eatWord "finally" then
    discard (block nested)
  return .other .try

/-- The names of an import, and the module it reads from. -/
def namedImport (start : Nat) : Parser ImportDeclaration := do
  if (← get).seesIdentifier then
    let bound ← identifier
    if ← eat .comma then
      importEnd (.default bound.name :: (← importedNames)) start
    else
      importEnd [.default bound.name] start
  else
    importEnd (← importedNames) start

end Grammar

end VelocityScript.Script
