import VelocityScript.Script.Grammar.Statement

/-!
# Grammar: modules
-/

namespace VelocityScript.Script.Grammar

open VelocityScript.Script.Parser

/-- The end of an import: the module it reads from. -/
def importEnd (specifiers : List ImportSpecifier) (start : Nat) :
    Parser ImportDeclaration := do
  expectWord "from"
  let moduleName ← stringLiteral
  semicolon
  return { moduleName, specifiers, span := ← spanFrom start }

/-- Whether the next word marks the import of a type and is not a name
itself. -/
def seesTypeMark (cursor : Cursor) : Bool :=
  cursor.seesWord "type" &&
    cursor.punctuatorAfterWord? != some .comma &&
    cursor.punctuatorAfterWord? != some .closeBrace &&
    cursor.secondWord? != some "as"

/-- A name between the braces of an import. -/
def importSpecifier : Parser ImportSpecifier := do
  if seesTypeMark (← get) then
    discard word
  let imported ← word
  if ← eatWord "as" then
    let bound ← identifier
    return .named imported.name bound.name
  else
    return .named imported.name imported.name

/-- The imported names besides the default one. -/
def importedNames : Parser (List ImportSpecifier) := do
  if ← eat .times then
    expectWord "as"
    let bound ← identifier
    return [.everything bound.name]
  else if ← eat .openBrace then
    commaSeparated .closeBrace importSpecifier
  else
    return []

def importDeclaration : Parser ImportDeclaration := do
  let start ← tokenOffset
  expectWord "import"
  let cursor ← get
  if cursor.tokenCharacter? = some '"' ∨ cursor.tokenCharacter? = some '\'' then
    let moduleName ← stringLiteral
    semicolon
    return { moduleName, specifiers := [], span := ← spanFrom start }
  else
    if cursor.seesWord "type" && cursor.secondWord? != some "from" then
      discard word
    if (← get).seesIdentifier then
      let bound ← identifier
      if ← eat .comma then
        importEnd (.default bound.name :: (← importedNames)) start
      else
        importEnd [.default bound.name] start
    else
      importEnd (← importedNames) start

def typeItem (start : Nat) : Parser Item := do
  skipTypeDeclaration
  return .typeDeclaration (← spanFrom start)

/-- A statement as an item, with the placement of the `export` before it. -/
def exportedStatement
    (form : Placement → Statement) (start leadingNewlines : Nat) :
    Parser Item := do
  return .statement (form ⟨← spanFrom start, leadingNewlines⟩)

/-- What follows `export`. -/
def exportedItem (nested : Nested) (start leadingNewlines : Nat) :
    Parser Item := do
  let isDefault ← eatWord "default"
  let modifiers :=
    if isDefault then [Modifier.exported, .default] else [.exported]
  let cursor ← get
  if functionFollows cursor then
    return .function (← function nested modifiers start)
  else if !isDefault && (cursor.seesWord "interface" || cursor.seesWord "type") then
    typeItem start
  else if cursor.sees .openBrace || cursor.sees .times then
    skipExportClause
    if ← eatWord "from" then
      discard stringLiteral
    semicolon
    exportedStatement (.other .exportDeclaration) start leadingNewlines
  else if isDefault then
    discard nested.assignment
    semicolon
    exportedStatement (.other .exportAssignment) start leadingNewlines
  else
    exportedStatement (← statementForm nested) start leadingNewlines

/-- An item of a module. -/
def item (nested : Nested) : Parser Item := do
  let cursor ← get
  let start := cursor.tokenStart.offset
  if cursor.seesWord "import" &&
      cursor.punctuatorAfterWord? != some .openParen &&
      cursor.punctuatorAfterWord? != some .dot then
    return .imports (← importDeclaration)
  else if ← eatWord "export" then
    exportedItem nested start cursor.leadingNewlines
  else if functionFollows cursor then
    return .function (← function nested [] start)
  else if cursor.seesWord "interface" ||
      (cursor.seesWord "type" && cursor.secondWord?.isSome) then
    typeItem start
  else
    return .statement (← statement nested)

/-- The items up to the end of the text. -/
def items (nested : Nested) : Parser (List Item) :=
  repeating [] fun items => do
    if (← get).atEnd then
      return .finished items
    else
      return .again (items ++ [← item nested])

end VelocityScript.Script.Grammar

namespace VelocityScript.Script

/-- Parses a text. -/
def parse (text : String) : Except SyntaxError Module :=
  let start := Cursor.ofText text
  match Grammar.items (Nested.within start) start with
  | .ok (items, _) => .ok ⟨items⟩
  | .error error => .error error

end VelocityScript.Script
