import VelocityScript.Number.Literal
import VelocityScript.Script.Parser

/-!
# Literals of scripts

Numbers keep their source text.  Strings and template texts are read with
their escapes resolved.
-/

namespace VelocityScript.Script.Parser

/-- Whether a character belongs to a run of digits. -/
def isDigitOrSeparator (character : Char) : Bool :=
  character.isDigit || character == '_'

/-- Whether a character is a hexadecimal digit. -/
def isHexDigit (character : Char) : Bool :=
  (digitValue? character).isSome

/-- Whether a text starts with the mark of a base other than ten. -/
def startsRadix : List Char → Bool
  | '0' :: mark :: _ => (radixMark? mark).isSome
  | _ => false

/-- A numeric literal: its source text, and whether it is a big integer. -/
structure NumberToken where
  text : String
  isBigInteger : Bool

/-- Reads the fraction of a number, its point included. -/
def fractionDigits : Parser (List Char) := do
  if ← eatCharacter '.' then
    return '.' :: (← takeRun isDigitOrSeparator)
  else
    return []

/-- Reads the exponent of a number, its mark included. -/
def exponentDigits (start : Nat) : Parser (List Char) := do
  match (← get).rest with
  | mark :: rest =>
      if mark = 'e' ∨ mark = 'E' then
        skip 1
        let sign := rest.take 1 |>.filter fun next => next == '+' || next == '-'
        skip sign.length
        let digits ← takeRun isDigitOrSeparator
        if digits.isEmpty then
          failAt .expectedExponent (← spanFrom start)
        else
          return mark :: (sign ++ digits)
      else
        return []
  | [] => return []

/-- Reads a numeric literal at the cursor.  No name may follow it directly. -/
def number : Parser NumberToken := do
  let cursor ← get
  let start := cursor.offset
  let digits ←
    if startsRadix cursor.rest then do
      skip 2
      let run ← takeRun fun next => next.isAlphanum || next == '_'
      pure (cursor.rest.take 2 ++ run)
    else do
      let whole ← takeRun isDigitOrSeparator
      let fraction ← fractionDigits
      let exponent ← exponentDigits start
      pure (whole ++ fraction ++ exponent)
  if ← eatCharacter 'n' then
    return ⟨String.ofList (digits ++ ['n']), true⟩
  else
    let stop ← get
    match stop.rest with
    | next :: _ =>
        if isNameStart next then
          failAt .identifierAfterNumber ⟨start, stop.offset + next.utf8Size⟩
        else
          return ⟨String.ofList digits, false⟩
    | [] => return ⟨String.ofList digits, false⟩

def hexValue (digits : List Char) : Nat :=
  (digitsFrom? 16 0 digits).getD 0

/-- Reads a given number of hexadecimal digits of the escape that starts at
`start`. -/
def hexDigits (count start : Nat) : Parser Nat := do
  let cursor ← get
  let digits := (cursor.rest.take count).takeWhile isHexDigit
  skip digits.length
  if digits.length < count then
    failAt (.expectedHexDigits count) (← spanFrom start)
  else
    return hexValue digits

def codePoint (code start : Nat) : Parser (List Char) := do
  if code.isValidChar then
    return [Char.ofNat code]
  else
    failAt (.invalidCodePoint code) (← spanFrom start)

/-- Reads hexadecimal digits up to a closing brace. -/
def bracedHexDigits (start : Nat) : Parser Nat := do
  let digits ← takeRun isHexDigit
  if digits.isEmpty then
    failAt .expectedBracedHexDigits (← spanFrom start)
  else if ← eatCharacter '}' then
    if hexValue digits < Nat.pow 2 32 then
      return hexValue digits
    else
      failAt (.hexOverflow (String.ofList digits)) (← spanFrom start)
  else
    failAt .expectedBracedHexDigits (← spanFrom start)

/-- The characters of the escapes that are one letter long. -/
def simpleEscape? (character : Char) : Option Char :=
  if character = 'b' then
    some (Char.ofNat 8)
  else if character = 'f' then
    some (Char.ofNat 12)
  else if character = 'n' then
    some '\n'
  else if character = 'r' then
    some '\r'
  else if character = 't' then
    some '\t'
  else if character = 'v' then
    some (Char.ofNat 11)
  else
    none

/-- Reads an escape, the backslash already read, and gives what it stands for.
An escaped line break stands for nothing, and any other character without a
meaning of its own for itself. -/
def escape : Parser (List Char) := do
  let cursor ← get
  let start := cursor.offset - 1
  match cursor.rest with
  | [] => fail .unterminatedEscape
  | '0' :: rest =>
      skip 1
      if (rest.head?.map Char.isDigit).getD false then
        return ['0']
      else
        return [Char.ofNat 0]
  | '\r' :: _ =>
      skip 1
      discard (eatCharacter '\n')
      return []
  | '\n' :: _ =>
      skip 1
      return []
  | 'x' :: _ =>
      skip 1
      codePoint (← hexDigits 2 start) start
  | 'u' :: _ =>
      skip 1
      if ← eatCharacter '{' then
        codePoint (← bracedHexDigits start) start
      else
        codePoint (← hexDigits 4 start) start
  | character :: _ =>
      skip 1
      return [(simpleEscape? character).getD character]

/-- Reads a string between single or double quotes and gives its value. -/
def stringLiteral : Parser String := do
  skipTrivia
  let start := (← get).offset
  match (← get).rest with
  | quote :: _ =>
      if quote = '"' ∨ quote = '\'' then
        skip 1
        repeating [] fun reversed => do
          match (← get).rest with
          | [] | '\r' :: _ | '\n' :: _ =>
              failAt .unterminatedString (← spanFrom start)
          | '\\' :: _ =>
              skip 1
              return .again ((← escape).reverse ++ reversed)
          | character :: _ =>
              skip 1
              if character = quote then
                return .finished (String.ofList reversed.reverse)
              else
                return .again (character :: reversed)
      else
        fail .expectedString
  | [] => fail .expectedString

/-- How a piece of template text ends. -/
inductive TemplateStop where
  | closed
  | interpolation
  deriving DecidableEq

/-- Reads the text of a template literal up to its end or to the next
interpolation.  A carriage return before a line break is dropped. -/
def templateText (start : Nat) : Parser (String × TemplateStop) :=
  repeating [] fun reversed => do
    match (← get).rest with
    | [] => failAt .unterminatedTemplate (← spanFrom start)
    | '\x60' :: _ =>
        skip 1
        return .finished (String.ofList reversed.reverse, .closed)
    | '\\' :: _ =>
        skip 1
        return .again ((← escape).reverse ++ reversed)
    | '$' :: '{' :: _ =>
        skip 2
        return .finished (String.ofList reversed.reverse, .interpolation)
    | '\r' :: '\n' :: _ =>
        skip 2
        return .again ('\n' :: reversed)
    | character :: _ =>
        skip 1
        return .again (character :: reversed)

end VelocityScript.Script.Parser
