import VelocityScript.Number.Literal
import VelocityScript.Yaml.Glyph

/-!
# Anchors, tags and directives of a YAML text

An anchor names a node, and a tag says of what kind it is.  A tag is written
in full, or as a handle and a rest, where directives in front of the document
say what a handle stands for.
-/

namespace VelocityScript.Yaml

/-- Whether a character may stand in a name. -/
def isNameCharacter (character : Char) : Bool :=
  character.isAlphanum || character == '_' || character == '-'

/-- Reads the longest name that a text starts with. -/
def nameFrom (text : List Glyph) : List Char × List Glyph :=
  let isName := fun (glyph : Glyph) => isNameCharacter glyph.character
  ((text.takeWhile isName).map (·.character), text.dropWhile isName)

/-- Reads the name of an anchor.  A blank or one of some marks follows it. -/
def anchorName? (text : List Glyph) : Option (String × List Glyph) :=
  let (name, rest) := nameFrom text
  let ends := startsBlank rest ||
    (firstCharacter? rest).any fun character =>
      ['?', ':', ',', ']', '\x7d', '%', '@', '\x60'].contains character
  if name ≠ [] ∧ ends then some (String.ofList name, rest) else none

/-- Whether a character may stand in a tag as itself.  Commas and brackets may
where the end of the tag is marked. -/
def isTagCharacter (marked : Bool) (character : Char) : Bool :=
  isNameCharacter character ||
    [';', '/', '?', ':', '@', '&', '=', '+', '$', '.', '!', '~', '*', '\'',
      '(', ')'].contains character ||
    (marked && [',', '[', ']'].contains character)

/-- The number of octets that follow the first octet of an encoded
character. -/
def furtherOctets? (octet : Nat) : Option Nat :=
  if octet < 0x80 then
    some 0
  else if 0xC0 ≤ octet ∧ octet < 0xE0 then
    some 1
  else if 0xE0 ≤ octet ∧ octet < 0xF0 then
    some 2
  else if 0xF0 ≤ octet ∧ octet < 0xF8 then
    some 3
  else
    none

/-- Reads the text of a tag.  A percent sign with two digits stands for an
octet of an encoded character, of which `owed` octets are still to come; every
character of the result is an octet. -/
def tagTextFrom? (marked : Bool) :
    (owed : Nat) → List Glyph → Option (List Char × List Glyph)
  | owed, ⟨'%', _, _, _⟩ :: first :: second :: rest => do
      let octet :=
        (← digitIn? 16 first.character) * 16 + (← digitIn? 16 second.character)
      let owed ←
        if owed = 0 then furtherOctets? octet
        else if 0x80 ≤ octet ∧ octet < 0xC0 then some (owed - 1)
        else none
      let (text, finish) ← tagTextFrom? marked owed rest
      return (Char.ofNat octet :: text, finish)
  | owed, glyph :: rest =>
      if owed = 0 ∧ isTagCharacter marked glyph.character then do
        let (text, finish) ← tagTextFrom? marked 0 rest
        return (glyph.character :: text, finish)
      else if owed = 0 ∧ glyph.character ≠ '%' then
        some ([], glyph :: rest)
      else
        none
  | owed, [] => if owed = 0 then some ([], []) else none

/-- Reads the text of a tag that is not empty. -/
def tagText? (marked : Bool) (text : List Glyph) :
    Option (List Char × List Glyph) :=
  (tagTextFrom? marked 0 text).filter fun (characters, _) => characters ≠ []

/-- A tag as it is written: a handle, and the text after the handle.  The
handle of a tag that is written in full is empty. -/
structure TagName where
  handle : String
  suffix : String
  deriving DecidableEq

/-- Reads a tag after its first exclamation mark.  An exclamation mark alone
is a tag too. -/
def tagBody? (text : List Glyph) : Option (TagName × List Glyph) :=
  if firstCharacter? text = some '<' then do
    let (suffix, rest) ← tagText? true text.tail
    if firstCharacter? rest = some '>' then
      return (⟨"", String.ofList suffix⟩, rest.tail)
    else
      none
  else
    let (name, rest) := nameFrom text
    if firstCharacter? rest = some '!' then do
      let (suffix, rest) ← tagText? false rest.tail
      return (⟨String.ofList ('!' :: name ++ ['!']), String.ofList suffix⟩, rest)
    else do
      let (suffix, rest) ← tagTextFrom? false 0 text
      if suffix = [] then
        return (⟨"", "!"⟩, rest)
      else
        return (⟨"!", String.ofList suffix⟩, rest)

/-- Reads a tag after its first exclamation mark.  A blank follows it, or a
comma between brackets. -/
def tagName? (inFlow : Bool) (text : List Glyph) :
    Option (TagName × List Glyph) :=
  (tagBody? text).filter fun (_, rest) =>
    startsBlank rest || (inFlow && firstCharacter? rest == some ',')

/-- A line in front of a document: the version of the format, or what a handle
of tags stands for. -/
inductive Directive where
  | version (major minor : Nat)
  | handle (name lead : String)
  deriving DecidableEq

/-- Reads a number of at most nine digits. -/
def versionNumber? (text : List Glyph) : Option (Nat × List Glyph) := do
  let isDigit := fun (glyph : Glyph) => glyph.character.isDigit
  let digits := text.takeWhile isDigit
  let value ← digits? 10 (digits.map (·.character))
  if digits.length ≤ 9 then
    return (value, text.dropWhile isDigit)
  else
    none

/-- Reads a version. -/
def version? (text : List Glyph) : Option (Directive × List Glyph) := do
  let (major, rest) ← versionNumber? text
  if firstCharacter? rest = some '.' then
    let (minor, rest) ← versionNumber? rest.tail
    return (.version major minor, rest)
  else
    none

/-- Reads a handle between exclamation marks, or one exclamation mark. -/
def handleName? (text : List Glyph) : Option (List Char × List Glyph) :=
  if firstCharacter? text = some '!' then
    let (name, rest) := nameFrom text.tail
    if firstCharacter? rest = some '!' then
      some ('!' :: name ++ ['!'], rest.tail)
    else if name = [] then
      some (['!'], rest)
    else
      none
  else
    none

/-- Reads a handle and what it stands for. -/
def handle? (text : List Glyph) : Option (Directive × List Glyph) := do
  let (name, rest) ← handleName? text
  if (firstCharacter? rest).any isInlineBlank then
    let (lead, rest) ← tagText? true (dropBlanks rest)
    if startsBlank rest then
      return (.handle (String.ofList name) (String.ofList lead), rest)
    else
      none
  else
    none

/-- Reads a directive after its percent sign, up to the end of its line. -/
def directive? (text : List Glyph) : Option (Directive × List Glyph) := do
  let (name, rest) := nameFrom text
  let (directive, rest) ←
    if !startsBlank rest then none
    else if name = ['Y', 'A', 'M', 'L'] then version? (dropBlanks rest)
    else if name = ['T', 'A', 'G'] then handle? (dropBlanks rest)
    else none
  return (directive, ← finishLine? rest)

end VelocityScript.Yaml
