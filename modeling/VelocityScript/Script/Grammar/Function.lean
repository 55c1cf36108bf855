import VelocityScript.Script.Grammar.Nested

/-!
# Grammar: patterns, blocks and functions
-/

namespace VelocityScript.Script.Grammar

open VelocityScript.Script.Parser

/-- An expression, or several with commas between them. -/
def expression (nested : Nested) : Parser Expression := do
  let start ← tokenOffset
  let first ← nested.assignment
  if (← get).sees .comma then
    repeating () fun _ => do
      if ← eat .comma then
        discard nested.assignment
        return .again ()
      else
        return .finished ()
    otherExpression .commaList start
  else
    return first

/-- An expression between parentheses. -/
def parenthesized (nested : Nested) : Parser Expression := do
  expect .openParen
  let inner ← expression nested
  expect .closeParen
  return inner

def propertyName (nested : Nested) : Parser PropertyName := do
  skipTrivia
  let cursor ← get
  let start := cursor.offset
  match cursor.rest with
  | character :: _ =>
      if character = '"' ∨ character = '\'' then
        let text ← stringLiteral
        return .string text (← spanFrom start)
      else if character.isDigit ∨ character = '.' then
        let token ← number
        return .number token.text (← spanFrom start)
      else if character = '[' then
        skip 1
        let key ← nested.assignment
        expect .closeBracket
        return .computed key (← spanFrom start)
      else if character = '#' then
        skip 1
        let name ← word
        return .privateName name.name (← spanFrom start)
      else
        return .identifier (← word)
  | [] => return .identifier (← word)

/-- Skips the default value of a pattern or a parameter. -/
def skipDefault (nested : Nested) : Parser Unit := do
  if ← eat .assign then
    discard nested.assignment

/-- An element of an array pattern. -/
def bindingElement (nested : Nested) : Parser BindingElement := do
  discard (eat .ellipsis)
  let name ← nested.bindingName
  skipDefault nested
  return .bound name

/-- A property of an object pattern.  Only an identifier can stand without a
pattern of its own. -/
def bindingProperty (nested : Nested) : Parser BindingName := do
  if ← eat .ellipsis then
    let name ← identifier
    skipDefault nested
    return .identifier name
  else
    let key ← propertyName nested
    if ← eat .colon then
      let name ← nested.bindingName
      skipDefault nested
      return name
    else
      match key with
      | .identifier name =>
          skipDefault nested
          return .identifier name
      | other => failAt .expectedPatternColon other.span

/-- What a declaration binds. -/
def bindingName (nested : Nested) : Parser BindingName := do
  let start ← tokenOffset
  if ← eat .openBracket then
    let elements ←
      commaSeparatedOrHoles .closeBracket (fun _ => pure .hole)
        (bindingElement nested)
    return .array elements (← spanFrom start)
  else if ← eat .openBrace then
    let properties ← commaSeparated .closeBrace (bindingProperty nested)
    return .object properties (← spanFrom start)
  else
    return .identifier (← identifier)

/-- Whether a word is an accessibility modifier of a parameter. -/
def isAccessibility (word : String) : Bool :=
  word == "public" || word == "private" || word == "protected" ||
    word == "readonly"

/-- Whether an accessibility modifier with a parameter after it comes next. -/
def seesAccessibility (cursor : Cursor) : Bool :=
  (cursor.word?.map isAccessibility).getD false &&
    (cursor.secondWord?.isSome ||
      cursor.punctuatorAfterWord? == some .openBracket ||
      cursor.punctuatorAfterWord? == some .openBrace)

/-- A parameter of a function. -/
def parameter (nested : Nested) : Parser Parameter := do
  let start ← tokenOffset
  repeating () fun _ => do
    if seesAccessibility (← get) then
      discard word
      return .again ()
    else
      return .finished ()
  discard (eat .ellipsis)
  let isReceiver := (← get).seesWord "this"
  let name ←
    if isReceiver then do
      pure (.identifier (← word))
    else
      bindingName nested
  discard (eat .question)
  if ← eat .colon then
    skipType .token
  skipDefault nested
  return { name, isReceiver, span := ← spanFrom start }

/-- The parameters of a function. -/
def parameters (nested : Nested) : Parser (List Parameter) := do
  expect .openParen
  commaSeparated .closeParen (parameter nested)

/-- A block of statements. -/
def block (nested : Nested) : Parser Block := do
  let start ← tokenOffset
  expect .openBrace
  let statements ← repeating [] fun statements => do
    if ← eat .closeBrace then
      return .finished statements
    else
      let cursor ← get
      if cursor.atEnd then
        failAt (.unclosed '{') ⟨start, cursor.endOffset⟩
      else
        return .again (statements ++ [← nested.statement])
  return { statements, span := ← spanFrom start }

/-- Whether a function keyword comes next, after at most `bound` words that can
stand before it. -/
def functionWithin : Nat → Cursor → Bool
  | 0, _ => false
  | bound + 1, cursor =>
      match cursor.word?, cursor.afterWord? with
      | some word, some after =>
          word == "function" ||
            ((word == "async" || word == "declare") &&
              functionWithin bound after)
      | _, _ => false

/-- Whether a function declaration comes next, its modifiers included. -/
def functionFollows (cursor : Cursor) : Bool :=
  functionWithin (cursor.rest.length + 1) cursor

/-- A return type, if there is one. -/
def skipReturnType : Parser Unit := do
  if ← eat .colon then
    skipType .body

/-- A function declaration that starts at the given offset, after the given
modifiers. -/
def function (nested : Nested) (modifiers : List Modifier) (start : Nat) :
    Parser FunctionDeclaration := do
  let modifiers ← repeating modifiers fun modifiers => do
    if ← eatWord "async" then
      return .again (modifiers ++ [.async])
    else if ← eatWord "declare" then
      return .again (modifiers ++ [.declared])
    else
      return .finished modifiers
  expectWord "function"
  let isGenerator ← eat .times
  let name ←
    if (← get).seesIdentifier then do
      pure (some (← identifier))
    else
      pure none
  skipTypeParameters
  let parameters ← parameters nested
  skipReturnType
  let body ←
    if (← get).sees .openBrace then do
      pure (some (← block nested))
    else do
      semicolon
      pure none
  return { name, modifiers, parameters, body, isGenerator, span := ← spanFrom start }

/-- Skips the parameters, the return type and the body of a method. -/
def skipMethod (nested : Nested) : Parser Unit := do
  skipTypeParameters
  discard (parameters nested)
  skipReturnType
  discard (block nested)

end VelocityScript.Script.Grammar
