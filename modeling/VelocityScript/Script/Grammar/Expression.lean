import VelocityScript.Script.Grammar.Function

/-!
# Grammar: expressions
-/

namespace VelocityScript.Script.Grammar

open VelocityScript.Script.Parser

/-- The parts of a template literal at the cursor. -/
def templateParts (nested : Nested) :
    Parser (String × List TemplatePart) := do
  let start := (← get).offset
  if ← eatCharacter '\x60' then
    let (head, stop) ← templateText start
    let parts ← repeating (([] : List TemplatePart), stop) fun (parts, stop) => do
      match stop with
      | .closed => return .finished parts
      | .interpolation =>
          let interpolated ← expression nested
          expect .closeBrace
          let (text, stop) ← templateText start
          return .again (parts ++ [.mk interpolated text], stop)
    return (head, parts)
  else
    fail (.expected "\x60")

/-- An element of an array literal or an argument of a call. -/
def spreadable (nested : Nested) : Parser Expression := do
  let start ← tokenOffset
  if ← eat .ellipsis then
    discard nested.assignment
    otherExpression .spread start
  else
    nested.assignment

/-- The arguments of a call. -/
def arguments (nested : Nested) : Parser (List Expression) := do
  expect .openParen
  commaSeparated .closeParen (spreadable nested)

def arrayElements (nested : Nested) : Parser (List Expression) := do
  expect .openBracket
  commaSeparatedOrHoles .closeBracket (otherExpression .omitted)
    (spreadable nested)

/-- The kind of the member that a word announces, if it is a modifier of that
member and not its name. -/
def memberModifier? (cursor : Cursor) : Option OtherMember :=
  let isName :=
    match cursor.punctuatorAfterWord? with
    | some .colon | some .openParen | some .comma | some .closeBrace
    | some .assign | some .less => true
    | _ => false
  if isName then
    none
  else if cursor.seesWord "get" then
    some .getter
  else if cursor.seesWord "set" then
    some .setter
  else if cursor.seesWord "async" then
    some .method
  else
    none

/-- A member that templates cannot express, from an offset to the cursor. -/
def otherMember (kind : OtherMember) (start : Nat) : Parser ObjectMember := do
  return .other kind (← spanFrom start)

/-- A member of an object that starts with its name. -/
def namedMember (nested : Nested) (start : Nat) : Parser ObjectMember := do
  let name ← propertyName nested
  if ← eat .colon then
    let value ← nested.assignment
    return .property name value (← spanFrom start)
  else
    let cursor ← get
    if cursor.sees .openParen || cursor.sees .less then
      skipMethod nested
      otherMember .method start
    else
      match name with
      | .identifier name =>
          if ← eat .assign then
            discard nested.assignment
            otherMember .shorthandWithDefault start
          else
            return .shorthand name
      | other => failAt .expectedPropertyColon other.span

def objectMember (nested : Nested) : Parser ObjectMember := do
  let start ← tokenOffset
  if ← eat .ellipsis then
    discard nested.assignment
    otherMember .spread start
  else
    match memberModifier? (← get) with
    | some kind =>
        discard word
        discard (eat .times)
        discard (propertyName nested)
        skipMethod nested
        otherMember kind start
    | none =>
        if ← eat .times then
          discard (propertyName nested)
          skipMethod nested
          otherMember .method start
        else
          namedMember nested start

def objectMembers (nested : Nested) : Parser (List ObjectMember) := do
  expect .openBrace
  commaSeparated .closeBrace (objectMember nested)

def wordExpression (nested : Nested) (word : String) (start : Nat) :
    Parser Expression := do
  if word = "this" then
    skip 4
    return .receiver (← spanFrom start)
  else if word = "true" then
    skip 4
    return .boolean true (← spanFrom start)
  else if word = "false" then
    skip 5
    return .boolean false (← spanFrom start)
  else if word = "null" then
    skip 4
    otherExpression .null start
  else if word = "super" then
    skip 5
    otherExpression .super start
  else if word = "function" then
    discard (function nested [] start)
    otherExpression .functionExpression start
  else if word = "class" then
    skipClass
    otherExpression .classExpression start
  else
    return .identifier (← identifier)

/-- Whether a numeric literal stands at the front of a text. -/
def startsNumber : List Char → Bool
  | '.' :: digit :: _ => digit.isDigit
  | character :: _ => character.isDigit
  | [] => false

/-- A literal, a name, or an expression between brackets. -/
def primary (nested : Nested) : Parser Expression := do
  skipTrivia
  let cursor ← get
  let start := cursor.offset
  match cursor.rest with
  | [] => fail .unexpectedEnd
  | character :: _ =>
      if startsNumber cursor.rest then
        let token ← number
        if token.isBigInteger then
          otherExpression .bigInteger start
        else
          return .number token.text (← spanFrom start)
      else if character = '"' ∨ character = '\'' then
        let text ← stringLiteral
        return .string text (← spanFrom start)
      else if character = '\x60' then
        let (head, parts) ← templateParts nested
        return .template head parts (← spanFrom start)
      else if character = '(' then
        skip 1
        let inner ← expression nested
        expect .closeParen
        return .parenthesized inner (← spanFrom start)
      else if character = '[' then
        let elements ← arrayElements nested
        return .array elements (← spanFrom start)
      else if character = '{' then
        let members ← objectMembers nested
        return .object members (← spanFrom start)
      else if character = '/' then
        skipRegularExpression
        otherExpression .regularExpression start
      else
        match cursor.word? with
        | some word => wordExpression nested word start
        | none => fail (.unexpectedCharacter character)

/-- Reads `?.` if a property name follows it. -/
def eatOptionalDot : Parser Bool := do
  let cursor ← get
  if cursor.sees .optionalDot then
    let after := cursor.tokenStart.advance 2
    if after.word?.isSome || after.tokenCharacter? == some '#' then
      set after
      return true
    else
      return false
  else
    return false

def newObject (nested : Nested) (start : Nat) : Parser Expression := do
  if ← eat .dot then
    discard word
  else
    discard (primary nested)
    repeating () fun _ => do
      if ← eat .dot then
        discard word
        return .again ()
      else
        return .finished ()
    if (← get).sees .openParen then
      discard (arguments nested)
  otherExpression .newObject start

/-- Reads what opens a property access. -/
def eatMemberDot : Parser Bool := do
  if ← eat .dot then
    return true
  else
    eatOptionalDot

/-- Reads what can stand before an index or a call, and says whether an index
or an optional call follows. -/
def eatIndexOpening : Parser Bool := do
  if ← eat .optionalDot then
    return true
  else
    return (← get).sees .openBracket

/-- One step of an access chain that starts at the given offset: a property, an
index, a call, an assertion without meaning, or a tagged template. -/
def accessStep (nested : Nested) (start : Nat) (base : Expression) :
    Parser (Round Expression Expression) := do
  if ← eatMemberDot then
    let isPrivate ← eat .hash
    let property ← word
    return .again (.member base property isPrivate (← spanFrom start))
  else if ← eatIndexOpening then
    if (← get).sees .openParen then
      let arguments ← arguments nested
      return .again (.call base arguments .unknown (← spanFrom start))
    else
      expect .openBracket
      let subscript ← expression nested
      expect .closeBracket
      return .again (.index base subscript (← spanFrom start))
  else
    let cursor ← get
    if cursor.sees .openParen then
      let arguments ← arguments nested
      return .again (.call base arguments .unknown (← spanFrom start))
    else if cursor.sees .not && !cursor.newlineBefore then
      expect .not
      return .again base
    else if cursor.tokenCharacter? = some '\x60' then
      skipTrivia
      discard (templateParts nested)
      return .again (.other .taggedTemplate (← spanFrom start))
    else
      return .finished base

/-- A primary expression with the accesses and calls after it. -/
def leftHandSide (nested : Nested) : Parser Expression := do
  let start ← tokenOffset
  let base ←
    if ← eatWord "new" then
      newObject nested start
    else
      primary nested
  repeating base (accessStep nested start)

/-- An access chain, perhaps with an increment or a decrement after it. -/
def postfixExpression (nested : Nested) : Parser Expression := do
  let start ← tokenOffset
  let operand ← leftHandSide nested
  let cursor ← get
  if !cursor.newlineBefore && (cursor.sees .increment || cursor.sees .decrement) then
    set (cursor.tokenStart.advance 2)
    otherExpression .postfixUnary start
  else
    return operand

/-- The operator in front of an operand, and the cursor after it. -/
def unaryOperator? (cursor : Cursor) : Option (UnaryOperator × Cursor) :=
  let start := cursor.tokenStart
  match Punctuator.atFront? start.rest with
  | some punctuator =>
      punctuator.unary?.map fun operator =>
        (operator, start.advance punctuator.characters.length)
  | none =>
      if cursor.seesWord "typeof" then
        some (.typeOf, start.advance 6)
      else if cursor.seesWord "void" then
        some (.discard, start.advance 4)
      else if cursor.seesWord "delete" then
        some (.delete, start.advance 6)
      else
        none

/-- Whether the next word is `await` with an operand after it. -/
def seesAwait (cursor : Cursor) : Bool :=
  cursor.seesWord "await" &&
    match cursor.afterWord? with
    | none => false
    | some after =>
        !after.atEnd &&
          match after.punctuator? with
          | some .semicolon | some .closeParen | some .closeBracket
          | some .closeBrace | some .comma | some .assign | some .dot => false
          | _ => true

/-- An operand with the operators in front of it. -/
def unary (nested : Nested) : Parser Expression := do
  let cursor ← get
  let start := cursor.tokenStart.offset
  match unaryOperator? cursor with
  | some (operator, after) =>
      set after
      let operand ← nested.unary
      return .unary operator operand (← spanFrom start)
  | none =>
      if seesAwait cursor then
        discard word
        discard nested.unary
        otherExpression .await start
      else if cursor.sees .less then
        skipBalanced '<' '>'
        discard nested.unary
        otherExpression .typeAssertion start
      else
        postfixExpression nested

/-- The level at which a type assertion after an expression binds. -/
def assertionLevel : Nat := 7

/-- One step of a chain of binary operators of at least the given level. -/
def binaryStep (nested : Nested) (least start : Nat) (left : Expression) :
    Parser (Round Expression Expression) := do
  let cursor ← get
  if least ≤ assertionLevel ∧ !cursor.newlineBefore ∧
      (cursor.seesWord "as" || cursor.seesWord "satisfies") then
    let kind := if cursor.seesWord "as" then .asType else .satisfiesType
    discard word
    skipType .token
    return .again (.other kind (← spanFrom start))
  else
    match cursor.binaryOperator? with
    | some (operator, after) =>
        if least ≤ operator.level then
          set after
          let right ← nested.binary operator.rightLevel
          return .again (.binary operator left right (← spanFrom start))
        else
          return .finished left
    | none => return .finished left

/-- Operands with binary operators of at least the given level between
them. -/
def binary (nested : Nested) (least : Nat) : Parser Expression := do
  let start ← tokenOffset
  let left ← unary nested
  repeating left (binaryStep nested least start)

/-- A binary expression, or a conditional one. -/
def conditional (nested : Nested) : Parser Expression := do
  let start ← tokenOffset
  let condition ← binary nested 1
  if ← eat .question then
    discard nested.assignment
    expect .colon
    discard nested.assignment
    otherExpression .conditional start
  else
    return condition

/-- Reads the parameters of an arrow function, up to and with the arrow. -/
def arrowHead : Parser Unit := do
  let cursor ← get
  if cursor.seesWord "async" &&
      (cursor.secondWord?.isSome ||
        cursor.punctuatorAfterWord? == some .openParen) then
    discard word
  let cursor ← get
  if cursor.seesIdentifier && cursor.punctuatorAfterWord? == some .arrow then
    discard identifier
  else
    skipBalanced '(' ')'
  if ← eat .colon then
    skipType .token
  expect .arrow

/-- Reads an arrow function, if one comes next. -/
def arrowFunction (nested : Nested) : Parser Bool := do
  match ← attempt arrowHead with
  | none => return false
  | some () =>
      if (← get).sees .openBrace then
        discard (block nested)
      else
        discard nested.assignment
      return true

/-- An expression without a comma outside of brackets. -/
def assignment (nested : Nested) : Parser Expression := do
  let start ← tokenOffset
  if ← arrowFunction nested then
    otherExpression .arrowFunction start
  else
    let target ← conditional nested
    let cursor ← get
    match cursor.punctuator? with
    | some punctuator =>
        match punctuator.assignment? with
        | some operator =>
            set (cursor.tokenStart.advance punctuator.characters.length)
            let value ← nested.assignment
            return .assignment operator target value (← spanFrom start)
        | none => return target
    | none => return target

end VelocityScript.Script.Grammar
