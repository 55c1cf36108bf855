import VelocityScript.Yaml.BlockScalar
import VelocityScript.Yaml.Node
import VelocityScript.Yaml.Property
import VelocityScript.Yaml.Scalar

/-!
# YAML tokens

Indentation becomes tokens that open and close collections.  Whether a scalar
or a collection between brackets is a key shows only at the colon after it, so
every place where a key may have started is kept until the colon or until it
is too late: a key stands on one line and has at most `keyLimit` bytes.
-/

namespace VelocityScript.Yaml

/-- A token.  The end of a text is no token. -/
inductive Token where
  | directive (directive : Directive)
  | documentStart
  | documentEnd
  | blockSequence
  | blockMapping
  | blockEnd
  | flowSequence
  | flowSequenceEnd
  | flowMapping
  | flowMappingEnd
  | dash
  | comma
  | key
  | value
  | reference (name : String)
  | anchor (name : String)
  | tag (name : TagName)
  | scalar (style : ScalarStyle) (text : String)
  deriving DecidableEq

/-- The greatest distance in bytes between the start of a key and its colon. -/
def keyLimit : Nat := 1024

/-- A place where a key may have started, and the number of tokens before it.
A key is required where an entry of a mapping has to start. -/
structure KeyCandidate where
  start : Glyph
  required : Bool
  tokensBefore : Nat
  deriving DecidableEq

/-- How far a text has been cut into tokens.  The newest tokens and the
innermost columns and levels come first.

* `indents` are the columns of the collections that indentation delimits;
* `candidate?` is the place where a key may have started, on this level of
  brackets;
* `outer` are those places on the levels around it;
* `keyAllowed` says whether a key may start at the next token. -/
structure Scan where
  rest : List Glyph
  tokens : List Token := []
  indents : List Nat := []
  candidate? : Option KeyCandidate := none
  outer : List (Option KeyCandidate) := []
  keyAllowed : Bool := true
  deriving DecidableEq

namespace Scan

/-- Whether the next token stands between brackets. -/
def inFlow (scan : Scan) : Bool :=
  !scan.outer.isEmpty

/-- The least column of text that belongs to the innermost collection. -/
def least (scan : Scan) : Nat :=
  match scan.indents with
  | [] => 0
  | indent :: _ => indent + 1

/-- The scan after one more token. -/
def emit (scan : Scan) (token : Token) (rest : List Glyph) : Scan :=
  { scan with tokens := token :: scan.tokens, rest := rest }

/-- Closes the collections whose column does not satisfy `stays`.  Between
brackets indentation has no meaning. -/
def closeIndents (scan : Scan) (stays : Nat → Bool) : Scan :=
  if scan.inFlow then
    scan
  else
    let closed := scan.indents.takeWhile fun indent => !stays indent
    { scan with
      indents := scan.indents.drop closed.length
      tokens := closed.map (fun _ => Token.blockEnd) ++ scan.tokens }

/-- Whether a collection at a column is deeper than all open ones. -/
def opensIndent (scan : Scan) (column : Nat) : Bool :=
  !scan.inFlow && scan.indents.head?.all (· < column)

/-- Opens a collection at a column, unless it is open already. -/
def openIndent (scan : Scan) (token : Token) (column : Nat) : Scan :=
  if scan.opensIndent column then
    { scan with
      indents := column :: scan.indents
      tokens := token :: scan.tokens }
  else
    scan

/-- Gives up the place where a key may have started.  A required key cannot be
given up. -/
def dropCandidate? (scan : Scan) : Option Scan :=
  if scan.candidate?.any (·.required) then
    none
  else
    some { scan with candidate? := none }

/-- Keeps the place of the next token if a key may start there. -/
def saveCandidate? (scan : Scan) (start : Glyph) : Option Scan :=
  if scan.keyAllowed then do
    let scan ← scan.dropCandidate?
    let required := !scan.inFlow && scan.indents.head? == some start.column
    return { scan with
      candidate? := some ⟨start, required, scan.tokens.length⟩ }
  else
    some scan

/-- A place where a key may have started, seen from a later place: nothing if
the key would be too long or reach over a line break, which a required key
must not. -/
def refresh? (now : Glyph) : Option KeyCandidate → Option (Option KeyCandidate)
  | none => some none
  | some candidate =>
      if candidate.start.line < now.line ∨
          candidate.start.offset + keyLimit < now.offset then
        if candidate.required then none else some none
      else
        some (some candidate)

/-- Makes a scalar or a collection a key after the fact: the tokens for a key,
and for a mapping if none is open at this column, go in front of it. -/
def insertKey (scan : Scan) (candidate : KeyCandidate) : Scan :=
  let count := scan.tokens.length - candidate.tokensBefore
  let column := candidate.start.column
  let opened := scan.opensIndent column
  { scan with
    tokens :=
      scan.tokens.take count ++
        .key :: (if opened then [.blockMapping] else []) ++
        scan.tokens.drop count
    indents := if opened then column :: scan.indents else scan.indents
    candidate? := none
    keyAllowed := false }

/-- Reads a directive or a mark between documents. -/
def boundary? (scan : Scan) (token : Token) (rest : List Glyph) :
    Option Scan := do
  let scan ← (scan.closeIndents fun _ => false).dropCandidate?
  return { scan.emit token rest with keyAllowed := false }

/-- Reads an opening bracket, which may start a key. -/
def openFlow? (scan : Scan) (token : Token) (start : Glyph)
    (rest : List Glyph) : Option Scan := do
  let scan ← scan.saveCandidate? start
  return { scan.emit token rest with
    outer := scan.candidate? :: scan.outer
    candidate? := none
    keyAllowed := true }

/-- Reads a closing bracket. -/
def closeFlow? (scan : Scan) (token : Token) (rest : List Glyph) :
    Option Scan := do
  let scan ← scan.dropCandidate?
  return { scan.emit token rest with
    outer := scan.outer.tail
    candidate? := scan.outer.head?.getD scan.candidate?
    keyAllowed := false }

/-- Reads a dash or a question mark, which start an entry.  Outside brackets a
collection is opened where needed, which is possible only where a key may
start. -/
def entry? (scan : Scan) (token collection : Token) (start : Glyph)
    (rest : List Glyph) : Option Scan :=
  if scan.inFlow || scan.keyAllowed then do
    let scan ← (scan.openIndent collection start.column).dropCandidate?
    return { scan.emit token rest with
      keyAllowed := token == .dash || !scan.inFlow }
  else
    none

/-- Reads a colon, after a key or by itself. -/
def colon? (scan : Scan) (start : Glyph) (rest : List Glyph) : Option Scan :=
  match scan.candidate? with
  | some candidate => some ((scan.insertKey candidate).emit .value rest)
  | none =>
      if scan.inFlow || scan.keyAllowed then
        some { (scan.openIndent .blockMapping start.column).emit .value rest with
          keyAllowed := !scan.inFlow }
      else
        none

/-- Reads something that may be, or may start, a key.  No other key may start
right after it. -/
def content? (scan : Scan) (start : Glyph)
    (read : Option (Token × List Glyph)) : Option Scan := do
  let scan ← scan.saveCandidate? start
  let (token, rest) ← read
  return { scan.emit token rest with keyAllowed := false }

/-- Reads a plain scalar.  If it ended only after a line break, a key may
follow. -/
def plain? (scan : Scan) (start : Glyph) (rest : List Glyph) : Option Scan := do
  let scan ← scan.saveCandidate? start
  let scalar ← plainFrom scan.inFlow scan.least .nothing rest
  let text := String.ofList (start.character :: scalar.text)
  return { scan.emit (.scalar .plain text) scalar.rest with
    keyAllowed := scalar.crossesLine }

/-- Reads a scalar that its indentation delimits.  A key may follow. -/
def block? (scan : Scan) (style : ScalarStyle) (rest : List Glyph) :
    Option Scan := do
  let scan ← scan.dropCandidate?
  let (text, rest) ← blockScalar? (style = .folded) scan.least rest
  return { scan.emit (.scalar style (String.ofList text)) rest with
    keyAllowed := true }

/-- Reads the next token, which starts with the given character. -/
def token? (scan : Scan) (start : Glyph) (rest : List Glyph) : Option Scan :=
  let named := fun (token : String → Token) =>
    (anchorName? rest).map fun (name, rest) => (token name, rest)
  let quoted := fun (scalar : Option (List Char × List Glyph)) =>
    scalar.map fun (text, rest) =>
      (Token.scalar .quoted (String.ofList text), rest)
  if start.column = 0 ∧ start.character = '%' then do
    let (directive, rest) ← directive? rest
    scan.boundary? (.directive directive) rest
  else if seesMark '-' (start :: rest) then
    scan.boundary? .documentStart (rest.drop 2)
  else if seesMark '.' (start :: rest) then
    scan.boundary? .documentEnd (rest.drop 2)
  else if start.character = '-' ∧ startsBlank rest then
    scan.entry? .dash .blockSequence start rest
  else if start.character = '?' ∧ (scan.inFlow ∨ startsBlank rest) then
    scan.entry? .key .blockMapping start rest
  else if start.character = ':' ∧ (scan.inFlow ∨ startsBlank rest) then
    scan.colon? start rest
  else if startsPlain scan.inFlow start.character rest then
    scan.plain? start rest
  else
    match start.character with
    | '[' => scan.openFlow? .flowSequence start rest
    | '\x7b' => scan.openFlow? .flowMapping start rest
    | ']' => scan.closeFlow? .flowSequenceEnd rest
    | '\x7d' => scan.closeFlow? .flowMappingEnd rest
    | ',' => do
        let scan ← scan.dropCandidate?
        return { scan.emit .comma rest with keyAllowed := true }
    | '*' => scan.content? start (named .reference)
    | '&' => scan.content? start (named .anchor)
    | '!' =>
        scan.content? start
          ((tagName? scan.inFlow rest).map fun (name, rest) => (.tag name, rest))
    | '|' => if scan.inFlow then none else scan.block? .literal rest
    | '>' => if scan.inFlow then none else scan.block? .folded rest
    | '\'' => scan.content? start (quoted (singleQuotedFrom .nothing rest))
    | '"' => scan.content? start (quoted (doubleQuotedFrom .none .nothing rest))
    | _ => none

/-- Reads the next token after the blanks, comments and line breaks in front of
it; none if the text is over.  A place on an outer level is looked at again
when its level is reached. -/
def next? (scan : Scan) : Option (Option Scan) :=
  let (keyAllowed, rest) := dropGap scan.inFlow scan.keyAllowed false scan.rest
  match rest with
  | [] => some none
  | start :: rest => do
      let candidate? ← refresh? start scan.candidate?
      let scan := { scan with candidate?, keyAllowed }
      return some (← (scan.closeIndents (· ≤ start.column)).token? start rest)

/-- The tokens of the rest of a text.  The first argument bounds their
number. -/
def finish? : Nat → Scan → Option (List Token)
  | 0, _ => none
  | bound + 1, scan => do
      match ← scan.next? with
      | some scan => finish? bound scan
      | none =>
          let scan ← (scan.closeIndents fun _ => false).dropCandidate?
          return scan.tokens.reverse

end Scan

def tokens? (text : String) : Option (List Token) :=
  if text.toList.all isAllowed then
    let characters := glyphs text
    Scan.finish? (characters.length + 1) { rest := characters }
  else
    none

end VelocityScript.Yaml
