import VelocityScript.Script.Cursor
import VelocityScript.Script.SyntaxError
import VelocityScript.Script.Tree

/-!
# Parsers

A parser moves a cursor and gives a result, or it fails with a syntax error.
-/

namespace VelocityScript.Script

/-- A parser of values of one type. -/
abbrev Parser := StateT Cursor (Except SyntaxError)

/-- What one round of a loop gives: the state of the next round, or the result
of the loop. -/
inductive Round (State Result : Type) where
  | again (state : State)
  | finished (result : Result)

namespace Parser

def failAt {Result : Type} (problem : SyntaxProblem) (span : Span) :
    Parser Result :=
  throw ⟨problem, span⟩

/-- Fails with a problem at the next token. -/
def fail {Result : Type} (problem : SyntaxProblem) : Parser Result := do
  let start := (← get).tokenStart.offset
  failAt problem ⟨start, start⟩

/-- Repeats a round at most `bound` times. -/
def iterate {State Result : Type} (round : State → Parser (Round State Result)) :
    Nat → State → Parser Result
  | 0, _ => fail .tooDeep
  | bound + 1, state => do
      match ← round state with
      | .again next => iterate round bound next
      | .finished result => return result

/-- Repeats a round until it finishes.  Every round but the last one reads a
character, so the length of the text bounds their number. -/
def repeating {State Result : Type}
    (state : State) (round : State → Parser (Round State Result)) :
    Parser Result := do
  iterate round ((← get).rest.length + 1) state

/-- Moves over the next `count` characters. -/
def skip (count : Nat) : Parser Unit :=
  modify (·.advance count)

/-- Moves in front of the next token. -/
def skipTrivia : Parser Unit :=
  modify Cursor.tokenStart

/-- Reads the characters at the cursor that satisfy a condition. -/
def takeRun (condition : Char → Bool) : Parser (List Char) := do
  let cursor ← get
  let run := cursor.rest.takeWhile condition
  set (cursor.advance run.length)
  return run

/-- Reads the given character if it stands at the cursor. -/
def eatCharacter (character : Char) : Parser Bool := do
  if (← get).rest.head? = some character then
    skip 1
    return true
  else
    return false

def tokenOffset : Parser Nat := do
  return (← get).tokenStart.offset

/-- The span from an offset to the cursor. -/
def spanFrom (start : Nat) : Parser Span := do
  return ⟨start, (← get).offset⟩

/-- Reads a punctuator if it is the next token. -/
def eat (punctuator : Punctuator) : Parser Bool := do
  let cursor ← get
  if cursor.sees punctuator then
    set (cursor.tokenStart.advance punctuator.characters.length)
    return true
  else
    return false

/-- Reads a punctuator that must be the next token. -/
def expect (punctuator : Punctuator) : Parser Unit := do
  if ← eat punctuator then
    return ()
  else
    fail (.expected punctuator.text)

/-- Reads a word if it is the next token. -/
def eatWord (word : String) : Parser Bool := do
  let cursor ← get
  if cursor.seesWord word then
    set (cursor.tokenStart.advance word.length)
    return true
  else
    return false

/-- Reads a word that must be the next token. -/
def expectWord (word : String) : Parser Unit := do
  if ← eatWord word then
    return ()
  else
    fail (.expected word)

/-- Reads a word of `length` characters as a name. -/
def nameOf (word : List Char) : Parser Identifier := do
  let start := (← get).tokenStart
  set (start.advance word.length)
  return { name := String.ofList word, span := ← spanFrom start.offset }

/-- Reads any word, reserved or not. -/
def word : Parser Identifier := do
  match wordAtFront? (← get).tokenStart.rest with
  | some word => nameOf word
  | none => fail .expectedIdentifier

/-- Reads a word that is not reserved. -/
def identifier : Parser Identifier := do
  let start := (← get).tokenStart
  match wordAtFront? start.rest with
  | some word =>
      if isReserved (String.ofList word) then
        failAt (.reservedWord (String.ofList word))
          ⟨start.offset, start.offset + byteLength word⟩
      else
        nameOf word
  | none => fail .expectedIdentifier

/-- Reads the end of a statement.  The semicolon may be missing before a
closing brace, at the end of the text, and before a line break. -/
def semicolon : Parser Unit := do
  if ← eat .semicolon then
    return ()
  else
    let cursor ← get
    if cursor.sees .closeBrace || cursor.atEnd || cursor.newlineBefore then
      return ()
    else
      fail (.expected ";")

/-- An expression that templates cannot express, from an offset to the cursor. -/
def otherExpression (kind : OtherExpression) (start : Nat) :
    Parser Expression := do
  return .other kind (← spanFrom start)

/-- Reads items until the closing punctuator, with commas between them.  A
comma may follow the last one. -/
def commaSeparated {Result : Type}
    (closing : Punctuator) (item : Parser Result) : Parser (List Result) :=
  repeating [] fun items => do
    if ← eat closing then
      return .finished items
    else
      let items := items ++ [← item]
      if ← eat .comma then
        return .again items
      else
        expect closing
        return .finished items

end Parser

end VelocityScript.Script
