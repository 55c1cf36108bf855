import VelocityScript.Text.Table

/-!
# Spans and positions of a source text

Offsets count the bytes of the UTF-8 form of a text.  Lines and columns start
at zero, and a column counts characters, not bytes.
-/

namespace VelocityScript

/-- A half-open range of byte offsets. -/
structure Span where
  start : Nat
  stop : Nat
  deriving DecidableEq

/-- The smallest span that covers both arguments. -/
def Span.cover (left right : Span) : Span :=
  ⟨min left.start right.start, max left.stop right.stop⟩

/-- A place in a text: its line, its column in that line and its offset. -/
structure Position where
  line : Nat
  column : Nat
  offset : Nat
  deriving DecidableEq

/-- A region of a named text. -/
structure Location where
  file : String
  first : Position
  last : Position
  deriving DecidableEq

/-- A text together with the path under which it is reported. -/
structure SourceText where
  path : String
  text : String

/-- The number of bytes of the UTF-8 form. -/
def byteLength : List Char → Nat
  | [] => 0
  | character :: rest => character.utf8Size + byteLength rest

@[simp]
theorem byteLength_append (left right : List Char) :
    byteLength (left ++ right) = byteLength left + byteLength right := by
  induction left with
  | nil =>
      simp [byteLength]
  | cons character rest inductionHypothesis =>
      simp [byteLength, inductionHypothesis, Nat.add_assoc]

/-- The characters that lie wholly in the first `count` bytes. -/
def charactersWithin : Nat → List Char → List Char
  | _, [] => []
  | count, character :: rest =>
      if character.utf8Size ≤ count then
        character :: charactersWithin (count - character.utf8Size) rest
      else
        []

/-- The characters under a span. -/
def Span.excerpt (text : List Char) (span : Span) : List Char :=
  (charactersWithin span.stop text).drop
    (charactersWithin span.start text).length

/-- The offsets right behind the line breaks of a text that starts at an
offset. -/
def lineStartsBehind (offset : Nat) : List Char → List Nat
  | [] => []
  | character :: rest =>
      let next := offset + character.utf8Size
      if character = '\n' then
        next :: lineStartsBehind next rest
      else
        lineStartsBehind next rest

namespace SourceText

def characters (source : SourceText) : List Char :=
  source.text.toList

/-- The offsets at which the lines of a text start. -/
def lineStarts (source : SourceText) : Array Nat :=
  (0 :: lineStartsBehind 0 source.characters).toArray

/-- The position of a byte offset: its line is the last one that starts there or
before.  An offset past the end means the end. -/
def position (source : SourceText) (offset : Nat) : Position :=
  let offset := min offset (byteLength source.characters)
  let starts := source.lineStarts
  let line := lastIndexUpTo starts offset
  { line
    column := (Span.excerpt source.characters ⟨starts.getD line 0, offset⟩).length
    offset }

/-- The region of a span. -/
def location (source : SourceText) (span : Span) : Location :=
  { file := source.path
    first := source.position span.start
    last := source.position span.stop }

end SourceText

end VelocityScript
