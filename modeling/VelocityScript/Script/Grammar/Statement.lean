import VelocityScript.Script.Grammar.Expression

/-!
# Grammar: statements

A rule for a statement gives the statement without its placement, which is
known only at its end.
-/

namespace VelocityScript.Script.Grammar

open VelocityScript.Script.Parser

/-- One declared name or pattern. -/
def declaration (nested : Nested) : Parser Declaration := do
  let start ← tokenOffset
  let name ← bindingName nested
  discard (eat .not)
  if ← eat .colon then
    skipType .token
  let initial ←
    if ← eat .assign then do
      pure (some (← nested.assignment))
    else
      pure none
  return { name, initial, span := ← spanFrom start }

def declarations (nested : Nested) (keyword : DeclarationKeyword) :
    Parser (Placement → Statement) := do
  discard word
  let first ← declaration nested
  let declared ← repeating [first] fun declared => do
    if ← eat .comma then
      return .again (declared ++ [← declaration nested])
    else
      return .finished declared
  semicolon
  return .declarations keyword declared

def branch (nested : Nested) : Parser (Placement → Statement) := do
  expectWord "if"
  let condition ← parenthesized nested
  let consequent ← nested.statement
  let alternative ←
    if ← eatWord "else" then do
      pure (some (← nested.statement))
    else
      pure none
  return .branch condition consequent alternative

/-- The part of a loop header before `of`, if there is any. -/
def loopHeader? (nested : Nested) : Parser (Option LoopHeader) := do
  let cursor ← get
  if cursor.seesWord "const" || cursor.seesWord "let" || cursor.seesWord "var" then
    discard word
    let start ← tokenOffset
    let name ← bindingName nested
    if ← eat .colon then
      skipType .token
    return some (.declaration { name, initial := none, span := ← spanFrom start })
  else if cursor.sees .semicolon then
    return none
  else
    return some (.expression (← leftHandSide nested))

/-- A loop that templates cannot express, from the opening parenthesis of its
header. -/
def otherLoop (nested : Nested) (kind : OtherStatement) (header : Cursor) :
    Parser (Placement → Statement) := do
  set header
  skipBalanced '(' ')'
  discard nested.statement
  return .other kind

def loop (nested : Nested) : Parser (Placement → Statement) := do
  expectWord "for"
  if ← eatWord "await" then
    otherLoop nested .awaitedLoop (← get)
  else
    let start ← get
    expect .openParen
    match ← loopHeader? nested with
    | some header =>
        if ← eatWord "of" then
          let iterable ← nested.assignment
          expect .closeParen
          let body ← nested.statement
          return .loop header iterable body
        else if (← get).seesWord "in" then
          otherLoop nested .keyLoop start
        else
          otherLoop nested .countingLoop start
    | none => otherLoop nested .countingLoop start

/-- A return statement. -/
def result (nested : Nested) : Parser (Placement → Statement) := do
  discard word
  let cursor ← get
  let returned ←
    if cursor.sees .semicolon || cursor.sees .closeBrace || cursor.atEnd ||
        cursor.newlineBefore then
      pure none
    else do
      pure (some (← expression nested))
  semicolon
  return .result returned

def whileLoop (nested : Nested) : Parser (Placement → Statement) := do
  discard word
  discard (parenthesized nested)
  discard nested.statement
  return .other .whileLoop

def doLoop (nested : Nested) : Parser (Placement → Statement) := do
  discard word
  discard nested.statement
  expectWord "while"
  discard (parenthesized nested)
  discard (eat .semicolon)
  return .other .doLoop

def throwing (nested : Nested) : Parser (Placement → Statement) := do
  discard word
  discard (expression nested)
  semicolon
  return .other .throw

/-- A jump, perhaps to a label on the same line. -/
def jump (kind : OtherStatement) : Parser (Placement → Statement) := do
  discard word
  let cursor ← get
  if !cursor.newlineBefore && cursor.seesIdentifier then
    discard identifier
  semicolon
  return .other kind

def switch (nested : Nested) : Parser (Placement → Statement) := do
  discard word
  discard (parenthesized nested)
  skipBalanced '{' '}'
  return .other .switch

def trying (nested : Nested) : Parser (Placement → Statement) := do
  discard word
  discard (block nested)
  if ← eatWord "catch" then
    if (← get).sees .openParen then
      skipBalanced '(' ')'
    discard (block nested)
  if ← eatWord "finally" then
    discard (block nested)
  return .other .try

def enumeration : Parser (Placement → Statement) := do
  discard (eatWord "const")
  expectWord "enum"
  discard identifier
  skipBalanced '{' '}'
  return .other .enumDeclaration

def labeled (nested : Nested) : Parser (Placement → Statement) := do
  discard identifier
  expect .colon
  discard nested.statement
  return .other .labeled

/-- An expression as a statement. -/
def evaluation (nested : Nested) : Parser (Placement → Statement) := do
  let evaluated ← expression nested
  semicolon
  return .expression evaluated

/-- A statement that starts with none of the words that announce a kind. -/
def labeledOrEvaluation (nested : Nested) :
    Parser (Placement → Statement) := do
  let cursor ← get
  if cursor.seesIdentifier && cursor.punctuatorAfterWord? == some .colon then
    labeled nested
  else
    evaluation nested

def wordStatement (nested : Nested) (word : String) (cursor : Cursor) :
    Parser (Placement → Statement) := do
  let wordFollows := cursor.secondWord?.isSome
  let patternFollows :=
    cursor.punctuatorAfterWord? == some .openBracket ||
      cursor.punctuatorAfterWord? == some .openBrace
  if word = "const" ∧ cursor.secondWord? ≠ some "enum" then
    declarations nested .const
  else if word = "var" then
    declarations nested .var
  else if word = "let" ∧ (wordFollows || patternFollows) then
    declarations nested .let
  else if word = "if" then
    branch nested
  else if word = "for" then
    loop nested
  else if word = "return" then
    result nested
  else if word = "while" then
    whileLoop nested
  else if word = "do" then
    doLoop nested
  else if word = "throw" then
    throwing nested
  else if word = "break" then
    jump .break
  else if word = "continue" then
    jump .continue
  else if word = "switch" then
    switch nested
  else if word = "try" then
    trying nested
  else if word = "debugger" then
    discard Parser.word
    semicolon
    return .other .debugger
  else if (word = "function" ∨ word = "async") ∧ functionFollows cursor then
    discard (function nested [] cursor.tokenStart.offset)
    return .other .functionDeclaration
  else if word = "class" then
    skipClass
    return .other .classDeclaration
  else if word = "interface" then
    skipTypeDeclaration
    return .other .interfaceDeclaration
  else if word = "type" ∧ wordFollows then
    skipTypeDeclaration
    return .other .typeAlias
  else if word = "enum" ∨ word = "const" then
    enumeration
  else if (word = "namespace" ∨ word = "module" ∨ word = "declare") ∧
      wordFollows then
    skipToBody
    return .other .moduleDeclaration
  else
    labeledOrEvaluation nested

def statementForm (nested : Nested) : Parser (Placement → Statement) := do
  let cursor ← get
  if cursor.sees .openBrace then
    let body ← block nested
    return .block body.statements
  else if ← eat .semicolon then
    return .other .empty
  else
    match cursor.word? with
    | some word => wordStatement nested word cursor
    | none => evaluation nested

def statement (nested : Nested) : Parser Statement := do
  let cursor ← get
  let form ← statementForm nested
  let span ← spanFrom cursor.tokenStart.offset
  return form ⟨span, cursor.leadingNewlines⟩

end VelocityScript.Script.Grammar

namespace VelocityScript.Script.Nested

/-- The parsers of constructs in which those of `nested` can stand. -/
def deeper (nested : Nested) : Nested where
  assignment := Grammar.assignment nested
  binary := Grammar.binary nested
  unary := Grammar.unary nested
  bindingName := Grammar.bindingName nested
  statement := Grammar.statement nested

/-- The parsers of constructs that are nested at most `depth` times. -/
def ofDepth (depth : Nat) : Nested :=
  depth.repeat deeper exhausted

/-- The parsers that suffice at a cursor.  A construct inside another one is
shorter by a character at least, with one exception: the expression that makes
up a statement. -/
def within (cursor : Cursor) : Nested :=
  ofDepth (cursor.rest.length + 2)

end VelocityScript.Script.Nested
