/-!
# JSON text

The part of JSON that reports are written in, and its layout: two spaces a
level, one entry a line, and nothing between the brackets of an empty value.
-/

namespace VelocityScript

/-- A JSON value.  Numbers are natural numbers here. -/
inductive Json where
  | null
  | number (value : Nat)
  | string (value : String)
  | array (items : List Json)
  | object (members : List (String × Json))

namespace Json

/-- The escaped form of one character of a string. -/
def escapeCharacter (character : Char) : List Char :=
  if character = '"' then
    ['\\', '"']
  else if character = '\\' then
    ['\\', '\\']
  else if character = '\n' then
    ['\\', 'n']
  else if character = '\r' then
    ['\\', 'r']
  else if character = '\t' then
    ['\\', 't']
  else if character.toNat = 8 then
    ['\\', 'b']
  else if character.toNat = 12 then
    ['\\', 'f']
  else if character.toNat < 32 then
    let digits := Nat.toDigits 16 character.toNat
    ['\\', 'u'] ++ List.replicate (4 - digits.length) '0' ++ digits
  else
    [character]

/-- A quoted string. -/
def quote (value : String) : String :=
  String.ofList ('"' :: (value.toList.flatMap escapeCharacter ++ ['"']))

/-- The line break and the indentation of a level. -/
def lineBreak (depth : Nat) : String :=
  String.ofList ('\n' :: List.replicate (2 * depth) ' ')

mutual

/-- The text of a value whose first line stands at the given level. -/
def pretty (depth : Nat) : Json → String
  | .null => "null"
  | .number value => toString value
  | .string value => quote value
  | .array items => prettyItems depth items
  | .object members => prettyMembers depth members

/-- The text of an array. -/
def prettyItems (depth : Nat) : List Json → String
  | [] => "[]"
  | first :: others =>
      "[" ++ lineBreak (depth + 1) ++ pretty (depth + 1) first ++
        prettyMoreItems depth others

/-- The items after the first one, and the closing bracket. -/
def prettyMoreItems (depth : Nat) : List Json → String
  | [] => lineBreak depth ++ "]"
  | next :: others =>
      "," ++ lineBreak (depth + 1) ++ pretty (depth + 1) next ++
        prettyMoreItems depth others

/-- The text of an object. -/
def prettyMembers (depth : Nat) : List (String × Json) → String
  | [] => "\x7b\x7d"
  | (key, value) :: others =>
      "\x7b" ++ lineBreak (depth + 1) ++ quote key ++ ": " ++
        pretty (depth + 1) value ++ prettyMoreMembers depth others

/-- The members after the first one, and the closing brace. -/
def prettyMoreMembers (depth : Nat) : List (String × Json) → String
  | [] => lineBreak depth ++ "\x7d"
  | (key, value) :: others =>
      "," ++ lineBreak (depth + 1) ++ quote key ++ ": " ++
        pretty (depth + 1) value ++ prettyMoreMembers depth others

end

end Json

end VelocityScript
