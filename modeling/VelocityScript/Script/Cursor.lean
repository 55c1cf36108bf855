import VelocityScript.Script.Punctuator
import VelocityScript.Text.Blank
import VelocityScript.Text.Letter
import VelocityScript.Text.Position

/-!
# Cursors

A cursor stands right after the last token that was read.  White space and
comments are never read by themselves: every look at the next token looks past
them, so the line breaks in front of the next token stay visible.
-/

namespace VelocityScript.Script

/-- A place in a text: its byte offset and the text after it. -/
structure Cursor where
  offset : Nat
  rest : List Char
  deriving DecidableEq

/-- Where a scan of white space and comments stands. -/
inductive TriviaMode where
  | between
  | lineComment
  | blockComment
  deriving DecidableEq

/-- Whether a character separates tokens.  The byte order mark does. -/
def isSpace (character : Char) : Bool :=
  isBlank character || character.toNat == 0xFEFF

/-- The number of characters of the white space and the comments at the front
of a text.  A block comment that is not closed reaches to the end. -/
def triviaLength : TriviaMode → List Char → Nat
  | .between, '/' :: '/' :: rest => triviaLength .lineComment rest + 2
  | .between, '/' :: '*' :: rest => triviaLength .blockComment rest + 2
  | .between, character :: rest =>
      if isSpace character then triviaLength .between rest + 1 else 0
  | .lineComment, character :: rest =>
      if character = '\n' then
        triviaLength .between rest + 1
      else
        triviaLength .lineComment rest + 1
  | .blockComment, '*' :: '/' :: rest => triviaLength .between rest + 2
  | .blockComment, _ :: rest => triviaLength .blockComment rest + 1
  | _, [] => 0

def wordAtFront? (rest : List Char) : Option (List Char) :=
  match rest with
  | [] => none
  | first :: others =>
      if isNameStart first then
        some (first :: others.takeWhile isNamePart)
      else
        none

namespace Cursor

def ofText (text : String) : Cursor :=
  ⟨0, text.toList⟩

/-- The cursor after the next `count` characters. -/
def advance (cursor : Cursor) (count : Nat) : Cursor :=
  ⟨cursor.offset + byteLength (cursor.rest.take count), cursor.rest.drop count⟩

def endOffset (cursor : Cursor) : Nat :=
  cursor.offset + byteLength cursor.rest

/-- The number of characters in front of the next token. -/
def triviaCount (cursor : Cursor) : Nat :=
  triviaLength .between cursor.rest

/-- The cursor in front of the next token. -/
def tokenStart (cursor : Cursor) : Cursor :=
  cursor.advance cursor.triviaCount

/-- Whether no token follows. -/
def atEnd (cursor : Cursor) : Bool :=
  cursor.tokenStart.rest.isEmpty

/-- The line breaks in front of the next token. -/
def leadingNewlines (cursor : Cursor) : Nat :=
  (cursor.rest.take cursor.triviaCount).count '\n'

/-- Whether the next token stands on a later line. -/
def newlineBefore (cursor : Cursor) : Bool :=
  0 < cursor.leadingNewlines

/-- The punctuator that is the next token. -/
def punctuator? (cursor : Cursor) : Option Punctuator :=
  Punctuator.atFront? cursor.tokenStart.rest

/-- Whether the next token is the given punctuator. -/
def sees (cursor : Cursor) (punctuator : Punctuator) : Bool :=
  cursor.punctuator? == some punctuator

/-- The word that is the next token. -/
def word? (cursor : Cursor) : Option String :=
  (wordAtFront? cursor.tokenStart.rest).map String.ofList

/-- Whether the next token is the given word. -/
def seesWord (cursor : Cursor) (word : String) : Bool :=
  cursor.word? == some word

/-- The cursor after the next token, if that is a word. -/
def afterWord? (cursor : Cursor) : Option Cursor :=
  (wordAtFront? cursor.tokenStart.rest).map fun word =>
    cursor.tokenStart.advance word.length

/-- The word after the next token, if both are words. -/
def secondWord? (cursor : Cursor) : Option String :=
  cursor.afterWord?.bind Cursor.word?

/-- The punctuator after the next token, if that is a word. -/
def punctuatorAfterWord? (cursor : Cursor) : Option Punctuator :=
  cursor.afterWord?.bind Cursor.punctuator?

/-- The character at which the next token starts. -/
def tokenCharacter? (cursor : Cursor) : Option Char :=
  cursor.tokenStart.rest.head?

/-- The binary operator that is the next token, and the cursor after it. -/
def binaryOperator? (cursor : Cursor) : Option (BinaryOperator × Cursor) :=
  let start := cursor.tokenStart
  match wordAtFront? start.rest with
  | some word =>
      if word = "instanceof".toList then
        some (.instanceOf, start.advance word.length)
      else if word = "in".toList then
        some (.contained, start.advance word.length)
      else
        none
  | none =>
      (Punctuator.binaryAtFront? start.rest).map fun (token, operator) =>
        (operator, start.advance token.characters.length)

end Cursor

/-- The words that are no identifiers. -/
def reservedWords : List String :=
  ["break", "case", "catch", "class", "const", "continue", "debugger",
    "default", "delete", "do", "else", "enum", "export", "extends", "false",
    "finally", "for", "function", "if", "import", "in", "instanceof", "new",
    "null", "return", "super", "switch", "this", "throw", "true", "try",
    "typeof", "var", "void", "while", "with"]

def isReserved (word : String) : Bool :=
  reservedWords.contains word

/-- Whether the next token is an identifier. -/
def Cursor.seesIdentifier (cursor : Cursor) : Bool :=
  match cursor.word? with
  | some word => !isReserved word
  | none => false

end VelocityScript.Script
