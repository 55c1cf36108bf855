import VelocityScript.Number.Literal
import VelocityScript.Yaml.Glyph

/-!
# Plain and quoted YAML scalars

A scalar may reach over several lines.  Blanks around a line break are not
part of its text; a line feed reads as a space, unless more breaks follow it,
and all other breaks are kept.
-/

namespace VelocityScript.Yaml

/-- What stands between two parts of a scalar: blanks, or line breaks with
blanks around them.  The first break of a gap is missing where a backslash
took it away. -/
inductive Gap where
  | inline (blanks : List Char)
  | broken (first : Option Char) (further : List Char)
  deriving DecidableEq

namespace Gap

/-- No blanks. -/
def nothing : Gap :=
  .inline []

/-- The text of a gap between two parts of a scalar. -/
def text : Gap → List Char
  | .inline blanks => blanks
  | .broken (some '\n') [] => [' ']
  | .broken (some '\n') further => further
  | .broken first further => first.toList ++ further

def blank (character : Char) : Gap → Gap
  | .inline blanks => .inline (blanks ++ [character])
  | gap => gap

def lineBreak (character : Char) : Gap → Gap
  | .inline _ => .broken (some character) []
  | .broken first further => .broken first (further ++ [character])

/-- Whether the gap reaches over a line break. -/
def crossesLine : Gap → Bool
  | .inline _ => false
  | .broken _ _ => true

end Gap

/-- The characters with a meaning of their own at the start of a scalar. -/
def indicators : List Char :=
  ['#', '&', '*', '!', '|', '>', '\'', '"', '%', '@', '\x60']

/-- Whether a plain scalar can start with a character, given the text after
it. -/
def startsPlain (inFlow : Bool) (character : Char) (rest : List Glyph) : Bool :=
  if character = '-' then
    !startsBlank rest
  else if character = '?' ∨ character = ':' then
    !inFlow && !startsBlank rest
  else
    !isInlineBlank character && !isBreak character && !isFlowMark character &&
      !indicators.contains character

/-- A plain scalar: its text, whether it ended only after a line break, and
what follows. -/
structure PlainScalar where
  text : List Char
  crossesLine : Bool
  rest : List Glyph
  deriving DecidableEq

/-- Reads on in a plain scalar, after a gap.  The scalar ends before a comment,
a colon with a blank after it, a mark between documents, a line that is
indented less than `least`, and, between brackets, the characters that delimit
collections. -/
def plainFrom (inFlow : Bool) (least : Nat) :
    Gap → List Glyph → Option PlainScalar
  | gap, [] => some ⟨[], gap.crossesLine, []⟩
  | gap, glyph :: rest =>
      let character := glyph.character
      if isBreak character then
        plainFrom inFlow least (gap.lineBreak character) rest
      else if isInlineBlank character then
        if character == '\t' && gap.crossesLine && glyph.column < least then
          none
        else
          plainFrom inFlow least (gap.blank character) rest
      else if (gap != .nothing && character == '#') ||
          (gap.crossesLine &&
            (seesDocumentMark (glyph :: rest) ||
              (!inFlow && glyph.column < least))) ||
          (character == ':' && startsBlank rest) ||
          (inFlow && isFlowMark character) then
        some ⟨[], gap.crossesLine, glyph :: rest⟩
      else if inFlow && character == ':' &&
          (firstCharacter? rest).any fun next =>
            isFlowMark next || next == '?' then
        none
      else do
        let scalar ← plainFrom inFlow least .nothing rest
        return { scalar with text := gap.text ++ character :: scalar.text }

/-- Reads on in a scalar between single quotes, where two quotes stand for
one. -/
def singleQuotedFrom : Gap → List Glyph → Option (List Char × List Glyph)
  | _, [] => none
  | gap, glyph :: rest =>
      let character := glyph.character
      if isBreak character then
        singleQuotedFrom (gap.lineBreak character) rest
      else if isInlineBlank character then
        singleQuotedFrom (gap.blank character) rest
      else if seesDocumentMark (glyph :: rest) then
        none
      else if character = '\'' then
        match rest with
        | [] => some (gap.text, [])
        | next :: others =>
            if next.character = '\'' then do
              let (text, finish) ← singleQuotedFrom .nothing others
              return (gap.text ++ '\'' :: text, finish)
            else
              some (gap.text, next :: others)
      else do
        let (text, finish) ← singleQuotedFrom .nothing rest
        return (gap.text ++ character :: text, finish)

/-- The character that a letter stands for after a backslash. -/
def escape? (letter : Char) : Option Char :=
  [('0', Char.ofNat 0), ('a', Char.ofNat 7), ('b', Char.ofNat 8),
    ('t', '\t'), ('\t', '\t'), ('n', '\n'), ('v', Char.ofNat 11),
    ('f', Char.ofNat 12), ('r', '\r'), ('e', Char.ofNat 27), (' ', ' '),
    ('"', '"'), ('/', '/'), ('\\', '\\'), ('N', '\u0085'), ('_', '\u00a0'),
    ('L', '\u2028'), ('P', '\u2029')].lookup letter

/-- The number of hexadecimal digits after a letter after a backslash. -/
def escapeDigits? (letter : Char) : Option Nat :=
  [('x', 2), ('u', 4), ('U', 8)].lookup letter

/-- The character with the given code, unless it is no character. -/
def character? (code : Nat) : Option Char :=
  if code.isValidChar then some (Char.ofNat code) else none

/-- Where a scalar between double quotes stands: at a character, or at digits
of a code that are still to come. -/
inductive EscapeState where
  | none
  | backslash
  | digits (remaining code : Nat)
  deriving DecidableEq

/-- Reads on in a scalar between double quotes.  A line break after a backslash
is not part of the text. -/
def doubleQuotedFrom :
    EscapeState → Gap → List Glyph → Option (List Char × List Glyph)
  | _, _, [] => .none
  | .digits remaining code, gap, glyph :: rest => do
      let value ← digitIn? 16 glyph.character
      let code := code * 16 + value
      if remaining ≤ 1 then
        let character ← character? code
        let (text, finish) ← doubleQuotedFrom .none .nothing rest
        return (gap.text ++ character :: text, finish)
      else
        doubleQuotedFrom (.digits (remaining - 1) code) gap rest
  | .backslash, gap, glyph :: rest =>
      if isBreak glyph.character then do
        let (text, finish) ← doubleQuotedFrom .none (.broken .none []) rest
        return (gap.text ++ text, finish)
      else
        match escapeDigits? glyph.character with
        | some count => doubleQuotedFrom (.digits count 0) gap rest
        | .none => do
            let character ← escape? glyph.character
            let (text, finish) ← doubleQuotedFrom .none .nothing rest
            return (gap.text ++ character :: text, finish)
  | .none, gap, glyph :: rest =>
      let character := glyph.character
      if isBreak character then
        doubleQuotedFrom .none (gap.lineBreak character) rest
      else if isInlineBlank character then
        doubleQuotedFrom .none (gap.blank character) rest
      else if seesDocumentMark (glyph :: rest) then
        .none
      else if character = '"' then
        some (gap.text, rest)
      else if character = '\\' then
        doubleQuotedFrom .backslash gap rest
      else do
        let (text, finish) ← doubleQuotedFrom .none .nothing rest
        return (gap.text ++ character :: text, finish)

end VelocityScript.Yaml
