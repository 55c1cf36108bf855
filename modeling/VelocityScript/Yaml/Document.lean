import VelocityScript.Yaml.Token

/-!
# YAML documents

A document is read from tokens.  The depth of the recursion is bounded by a
number that falls with every nested read; no token needs more than four of
them.
-/

namespace VelocityScript.Yaml

/-- How far a document has been read: the tokens that are left, what the
handles of tags stand for, the anchors so far with the newest first, and the
nodes that carry them. -/
structure Reading where
  tokens : List Token
  handles : List (String × String)
  names : List (String × Nat) := []
  anchors : List (Nat × Node) := []

/-- Where a node stands: in a document or after a dash, after a key or a colon
outside brackets, or between brackets. -/
inductive NodePlace where
  | item
  | entry
  | flow
  deriving DecidableEq

/-- Reads a part of a document, or refuses it. -/
abbrev Reader (Result : Type) : Type :=
  StateT Reading Option Result

namespace Reader

/-- Whether the next token is one of the given ones. -/
def sees (tokens : List Token) : Reader Bool := do
  return (← get).tokens.head?.any tokens.contains

/-- Passes over the next token. -/
def skip : Reader Unit :=
  modify fun reading => { reading with tokens := reading.tokens.tail }

/-- Passes over the next token if it is the given one. -/
def takes (token : Token) : Reader Bool := do
  if ← sees [token] then
    skip
    return true
  else
    return false

/-- Passes over the next token, which has to be the given one. -/
def expect (token : Token) : Reader Unit := do
  if !(← takes token) then
    failure

/-- Reads an anchor, if there is one.  It names the node that starts here. -/
def anchor? : Reader (Option Nat) := do
  match (← get).tokens with
  | .anchor name :: rest =>
      let number := (← get).names.length
      modify fun reading =>
        { reading with tokens := rest, names := (name, number) :: reading.names }
      return some number
  | _ => return none

/-- Reads a tag, if there is one, and writes it in full. -/
def tag? : Reader (Option String) := do
  match (← get).tokens with
  | .tag name :: _ =>
      skip
      if name.handle = "" then
        return some name.suffix
      else
        let lead ← (← get).handles.lookup name.handle
        return some (lead ++ name.suffix)
  | _ => return none

/-- Reads an anchor and a tag, in any order. -/
def properties : Reader (Option Nat × Option String) := do
  let tag ← tag?
  let anchor ← anchor?
  if tag.isSome then
    return (anchor, tag)
  else
    return (anchor, ← tag?)

def keep (anchor : Option Nat) (node : Node) : Reader Node := do
  match anchor with
  | none => return node
  | some number =>
      modify fun reading =>
        { reading with anchors := (number, node) :: reading.anchors }
      return node

/-- Reads a scalar without its properties.  The tag that is an exclamation
mark alone says nothing.  A node may have properties and nothing else. -/
def scalar (anchor : Option Nat) (tag : Option String) : Reader Node := do
  match (← get).tokens with
  | .scalar style text :: _ =>
      skip
      return .scalar ⟨style, tag.filter (· ≠ "!"), text⟩
  | _ =>
      if anchor.isSome || tag.isSome then
        return .scalar ⟨.plain, tag, ""⟩
      else
        failure

mutual

/-- Reads a node. -/
def node : Nat → NodePlace → Reader Node
  | 0, _ => failure
  | bound + 1, place => do
      match (← get).tokens with
      | .reference name :: _ =>
          skip
          let number ← (← get).names.lookup name
          return .reference number
      | _ =>
          let (anchor, tag) ← properties
          if place == .entry && (← sees [.dash]) then
            keep anchor (.sequence (← looseItems bound))
          else if ← takes .flowSequence then
            keep anchor (.sequence (← flowItems bound true))
          else if ← takes .flowMapping then
            keep anchor (.mapping (← flowEntries bound true))
          else if place != .flow && (← takes .blockSequence) then
            keep anchor (.sequence (← blockItems bound))
          else if place != .flow && (← takes .blockMapping) then
            keep anchor (.mapping (← blockEntries bound))
          else
            keep anchor (← scalar anchor tag)

/-- Reads a node, unless one of the given tokens follows. -/
def nodeUnless : Nat → NodePlace → List Token → Reader Node
  | 0, _, _ => failure
  | bound + 1, place, tokens => do
      if ← sees tokens then
        return .empty
      else
        node bound place

/-- Reads a node after a colon.  Where there is no colon, or nothing after it,
nothing is written. -/
def valueUnless : Nat → NodePlace → List Token → Reader Node
  | 0, _, _ => failure
  | bound + 1, place, tokens => do
      if ← takes .value then
        nodeUnless bound place tokens
      else
        return .empty

/-- Reads the items of a sequence at the column of the key before it. -/
def looseItems : Nat → Reader (List Node)
  | 0 => failure
  | bound + 1 => do
      if ← takes .dash then
        let item ← nodeUnless bound .item [.dash, .key, .value, .blockEnd]
        return item :: (← looseItems bound)
      else
        return []

/-- Reads the items of a sequence by indentation. -/
def blockItems : Nat → Reader (List Node)
  | 0 => failure
  | bound + 1 => do
      if ← takes .blockEnd then
        return []
      else
        expect .dash
        let item ← nodeUnless bound .item [.dash, .blockEnd]
        return item :: (← blockItems bound)

/-- Reads the entries of a mapping by indentation. -/
def blockEntries : Nat → Reader (List (Node × Node))
  | 0 => failure
  | bound + 1 => do
      if ← takes .blockEnd then
        return []
      else
        expect .key
        let ends : List Token := [.key, .value, .blockEnd]
        let key ← nodeUnless bound .entry ends
        let value ← valueUnless bound .entry ends
        return (key, value) :: (← blockEntries bound)

/-- Reads the items of a sequence between brackets.  A comma stands before
every item but the first.  An item with a key is a mapping of one entry; the
token after a question mark without a key is passed over. -/
def flowItems : Nat → (first : Bool) → Reader (List Node)
  | 0, _ => failure
  | bound + 1, first => do
      if ← takes .flowSequenceEnd then
        return []
      else
        if !first then
          expect .comma
        if ← takes .flowSequenceEnd then
          return []
        else if ← takes .key then
          let ends : List Token := [.comma, .flowSequenceEnd]
          let key ←
            if ← sees (.value :: ends) then
              skip
              pure .empty
            else
              node bound .flow
          let value ← valueUnless bound .flow ends
          return .mapping [(key, value)] :: (← flowItems bound false)
        else
          let item ← node bound .flow
          return item :: (← flowItems bound false)

/-- Reads the entries of a mapping between braces.  A comma stands before every
entry but the first. -/
def flowEntries : Nat → (first : Bool) → Reader (List (Node × Node))
  | 0, _ => failure
  | bound + 1, first => do
      if ← takes .flowMappingEnd then
        return []
      else
        if !first then
          expect .comma
        if ← takes .flowMappingEnd then
          return []
        else if ← takes .key then
          let ends : List Token := [.comma, .flowMappingEnd]
          let key ← nodeUnless bound .flow (.value :: ends)
          let value ← valueUnless bound .flow ends
          return (key, value) :: (← flowEntries bound false)
        else
          let key ← node bound .flow
          return (key, .empty) :: (← flowEntries bound false)

end

end Reader

/-- What the handles of tags stand for if no directive says otherwise. -/
def commonHandles : List (String × String) :=
  [("!", "!"), ("!!", "tag:yaml.org,2002:")]

/-- Whether directives can stand in front of one document: at most one version,
which has to be a known one, and no handle twice. -/
def areDirectives (directives : List Directive) : Bool :=
  let versions : List (Nat × Nat) := directives.filterMap fun
    | .version major minor => some (major, minor)
    | .handle _ _ => none
  let names : List String := directives.filterMap fun
    | .version _ _ => none
    | .handle name _ => some name
  versions.length ≤ 1 &&
    versions.all (fun (major, minor) => major == 1 && (minor == 1 || minor == 2)) &&
    decide names.Nodup

/-- The directives in front of tokens, and the tokens after them. -/
def takeDirectives : List Token → List Directive × List Token
  | .directive directive :: rest =>
      let (directives, rest) := takeDirectives rest
      (directive :: directives, rest)
  | tokens => ([], tokens)

/-- Reads the tokens of a document up to the end of the text. -/
def Document.ofTokens? (handles : List (String × String))
    (tokens : List Token) : Option Document := do
  let (root, reading) ←
    (Reader.node (4 * tokens.length + 4) .item).run { tokens, handles }
  if reading.tokens.all (· == .documentEnd) then
    return { root, anchors := reading.anchors }
  else
    none

/-- Whether a document without a node ends here. -/
def endsDocument : List Token → Bool
  | [] | .documentStart :: _ | .documentEnd :: _ | .directive _ :: _ => true
  | _ => false

/-- Reads the one document of a text.  The result is nothing for a text without
a document. -/
def document? (text : String) : Option (Option Document) := do
  let tokens ← tokens? text
  let (directives, rest) := takeDirectives tokens
  let handles := directives.filterMap (fun
    | .version _ _ => none
    | .handle name lead => some (name, lead)) ++ commonHandles
  match tokens, rest with
  | [], _ => return none
  | _, .documentStart :: rest =>
      if !areDirectives directives then
        none
      else if endsDocument rest then
        if rest.all (· == .documentEnd) then some (some ⟨.empty, []⟩) else none
      else
        some (some (← Document.ofTokens? handles rest))
  | _, _ =>
      if directives.isEmpty then
        some (some (← Document.ofTokens? handles rest))
      else
        none

end VelocityScript.Yaml
