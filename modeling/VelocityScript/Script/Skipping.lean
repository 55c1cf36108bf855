import VelocityScript.Script.Parser

/-!
# Skipping

Types, and constructs that templates cannot express, are read only as far as is
needed to find their end.
-/

namespace VelocityScript.Script.Parser

/-- The number of characters of a quoted text after its opening quote, up to
and with the closing one. -/
def quotedLength? (quote : Char) : List Char → Option Nat
  | [] => none
  | '\\' :: _ :: rest => (quotedLength? quote rest).map (· + 2)
  | character :: rest =>
      if character = quote then
        some 1
      else
        (quotedLength? quote rest).map (· + 1)

/-- Skips a quoted text or a comment at the cursor, if there is one. -/
def skipQuoted : Parser Bool := do
  let cursor ← get
  match cursor.rest with
  | '/' :: '/' :: _ | '/' :: '*' :: _ =>
      skipTrivia
      return true
  | quote :: rest =>
      if quote = '"' ∨ quote = '\'' ∨ quote = '\x60' then
        match quotedLength? quote rest with
        | some length =>
            skip (length + 1)
            return true
        | none =>
            failAt .unterminatedString ⟨cursor.offset, cursor.endOffset⟩
      else
        return false
  | [] => return false

/-- Skips from the next token, an opening bracket, to the bracket that closes
it.  Between angle brackets an arrow is no bracket. -/
def skipBalanced (opening closing : Char) : Parser Unit := do
  skipTrivia
  let start := (← get).offset
  if ← eatCharacter opening then
    repeating 1 fun depth => do
      if depth = 0 then
        return .finished ()
      else if ← skipQuoted then
        return .again depth
      else
        match (← get).rest with
        | [] => failAt (.unclosed opening) (← spanFrom start)
        | character :: rest =>
            if opening = '<' ∧ character = '=' ∧ rest.head? = some '>' then
              skip 2
              return .again depth
            else
              skip 1
              if character = opening then
                return .again (depth + 1)
              else if character = closing then
                return .again (depth - 1)
              else
                return .again depth
  else
    fail (.expected (String.singleton opening))

/-- What ends a type besides the closing tokens around it. -/
inductive TypeEnd where
  | token
  | body
  | newline
  deriving DecidableEq

/-- Skips a type.  It ends before a comma, a semicolon, an equals sign or a
closing bracket outside of brackets; a return type also before the body of the
function, and an alias before a line break, unless the type goes on there. -/
def skipType (ending : TypeEnd) : Parser Unit := do
  let start ← tokenOffset
  repeating (0, false) fun (depth, complete) => do
    let cursor ← get
    let goesOn :=
      cursor.sees .bitOr || cursor.sees .bitAnd || cursor.sees .dot
    if depth = 0 ∧ ending = .newline ∧ complete ∧ cursor.newlineBefore ∧
        !goesOn then
      return .finished ()
    else
      skipTrivia
      if ← skipQuoted then
        return .again (depth, true)
      else
        match (← get).rest with
        | [] =>
            if depth = 0 ∧ complete then
              return .finished ()
            else
              failAt .unterminatedType (← spanFrom start)
        | '=' :: '>' :: _ =>
            skip 2
            return .again (depth, false)
        | character :: _ =>
            if character = '(' ∨ character = '[' ∨ character = '<' then
              skip 1
              return .again (depth + 1, false)
            else if character = '{' then
              if depth = 0 ∧ ending = .body ∧ complete then
                return .finished ()
              else
                skip 1
                return .again (depth + 1, false)
            else if character = ')' ∨ character = ']' ∨ character = '}' ∨
                character = '>' then
              if depth = 0 then
                return .finished ()
              else
                skip 1
                return .again (depth - 1, true)
            else if depth = 0 ∧
                (character = ',' ∨ character = ';' ∨ character = '=') then
              return .finished ()
            else
              skip 1
              return .again (depth, isNamePart character)

/-- The number of characters of a regular expression after its opening slash,
and whether it is closed before the end of the line. -/
def regularExpressionLength : Bool → List Char → Nat × Bool
  | _, [] => (0, false)
  | inClass, '\\' :: _ :: rest =>
      let (length, closed) := regularExpressionLength inClass rest
      (length + 2, closed)
  | inClass, character :: rest =>
      if character = '\n' then
        (0, false)
      else if character = '/' ∧ !inClass then
        (1, true)
      else
        let inClass :=
          if character = '[' then
            true
          else if character = ']' then
            false
          else
            inClass
        let (length, closed) := regularExpressionLength inClass rest
        (length + 1, closed)

def skipRegularExpression : Parser Unit := do
  let start := (← get).offset
  skip 1
  let (length, closed) := regularExpressionLength false (← get).rest
  skip length
  if closed then
    discard (takeRun Char.isAlpha)
  else
    failAt .unterminatedRegularExpression (← spanFrom start)

def skipHeadToken : Parser Unit := do
  let cursor ← get
  if cursor.sees .less then
    skipBalanced '<' '>'
  else
    let start := cursor.tokenStart
    match wordAtFront? start.rest, Punctuator.atFront? start.rest with
    | some word, _ => set (start.advance word.length)
    | none, some punctuator =>
        set (start.advance punctuator.characters.length)
    | none, none => fail .unexpectedToken

/-- Skips to the next opening brace outside of angle brackets, and from there
to the brace that closes it. -/
def skipToBody : Parser Unit := do
  repeating () fun _ => do
    let cursor ← get
    if cursor.sees .openBrace then
      return .finished ()
    else if cursor.atEnd then
      fail (.expected "\x7b")
    else
      skipHeadToken
      return .again ()
  skipBalanced '{' '}'

/-- Skips type parameters, if there are any. -/
def skipTypeParameters : Parser Unit := do
  if (← get).sees .less then
    skipBalanced '<' '>'

/-- Skips an interface or a type alias. -/
def skipTypeDeclaration : Parser Unit := do
  if ← eatWord "interface" then
    discard identifier
    skipTypeParameters
    skipToBody
  else
    expectWord "type"
    discard identifier
    skipTypeParameters
    expect .assign
    skipType .newline
    semicolon

def skipClass : Parser Unit := do
  expectWord "class"
  skipToBody

/-- Skips what follows `export` when names are exported. -/
def skipExportClause : Parser Unit := do
  if ← eat .times then
    if ← eatWord "as" then
      discard word
  else
    skipBalanced '{' '}'

end VelocityScript.Script.Parser
