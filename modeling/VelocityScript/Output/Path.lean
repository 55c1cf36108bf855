import VelocityScript.Text.Split

/-!
# File paths

A path is a text with `/` between its components.  Repeated separators, `.`
after the first component and separators at the end have no meaning for the
components, but the operations that return texts keep the text they are given.
-/

namespace VelocityScript.Output

/-- A component of a path. -/
inductive Component where
  | root
  | current
  | parent
  | name (text : List Char)
  deriving DecidableEq

namespace Path

/-- The component that a text between separators stands for, if any. -/
def component? (piece : List Char) : Option Component :=
  if piece = [] ∨ piece = ['.'] then
    none
  else if piece = ['.', '.'] then
    some .parent
  else
    some (.name piece)

/-- The components of a text without a leading separator or dot. -/
def bodyComponents (text : List Char) : List Component :=
  (splitWhere (· == '/') text).filterMap component?

/-- The part of a path that is one component by itself, a leading separator or
a leading dot, and the rest. -/
def cutHead (text : List Char) : List Char × List Char :=
  match text with
  | '/' :: rest => (['/'], rest)
  | ['.'] => (['.'], [])
  | '.' :: '/' :: rest => (['.'], '/' :: rest)
  | _ => ([], text)

/-- The component of a leading separator or dot. -/
def headComponents (head : List Char) : List Component :=
  if head = ['/'] then
    [.root]
  else if head = ['.'] then
    [.current]
  else
    []

/-- The components of a path. -/
def components (text : List Char) : List Component :=
  let (head, body) := cutHead text
  headComponents head ++ bodyComponents body

/-- Whether a path starts at the root. -/
def isAbsolute (text : List Char) : Bool :=
  text.head? == some '/'

/-- Drops the pieces without meaning from the front. -/
def dropIdle : List (List Char) → List (List Char) :=
  List.dropWhile fun piece => (component? piece).isNone

/-- The text without separators and dots at its end. -/
def trimEnd (text : List Char) : List Char :=
  let (head, body) := cutHead text
  head ++ joinWith '/' (dropIdle (splitWhere (· == '/') body).reverse).reverse

/-- The text without its last component; none if there is no component but the
root. -/
def parent? (text : List Char) : Option (List Char) :=
  let (head, body) := cutHead text
  match dropIdle (splitWhere (· == '/') body).reverse with
  | _ :: others => some (head ++ joinWith '/' (dropIdle others).reverse)
  | [] => if head = ['.'] then some [] else none

/-- The last component, if it is a name. -/
def fileName? (text : List Char) : Option (List Char) :=
  match (components text).getLast? with
  | some (.name name) => some name
  | _ => none

/-- Cuts a file name at its last dot, unless the dot is its first character. -/
def cutExtension (name : List Char) : List Char × List Char :=
  let reversed := name.reverse
  let extension := reversed.takeWhile (· != '.')
  match reversed.dropWhile (· != '.') with
  | _ :: stem@(_ :: _) => (stem.reverse, extension.reverse)
  | _ => (name, [])

/-- The path without the characters of its extension.  The dot before them
stays. -/
def dropExtension (text : List Char) : List Char :=
  match fileName? text with
  | none => text
  | some name => text.take (text.length - (cutExtension name).2.length)

/-- The path with another extension after its file name.  A path without a
file name does not change, and neither does what is left of one whose file
name was all dots before its extension: that is no name but a step upwards. -/
def withExtension (text extension : List Char) : List Char :=
  let kept := dropExtension text
  match fileName? kept with
  | none => kept
  | some name =>
      let trimmed := trimEnd kept
      let stem :=
        trimmed.take (trimmed.length - name.length) ++ (cutExtension name).1
      if extension = [] then stem else stem ++ '.' :: extension

/-- A path below another one.  An absolute path stands alone. -/
def join (base text : List Char) : List Char :=
  if isAbsolute text then
    text
  else if base = [] ∨ base.getLast? = some '/' then
    base ++ text
  else
    base ++ '/' :: text

/-- Drops `count` meaningful pieces from the front, and the pieces without
meaning after them. -/
def dropPieces : Nat → List (List Char) → List (List Char)
  | 0, pieces => dropIdle pieces
  | count + 1, pieces =>
      match dropIdle pieces with
      | [] => []
      | _ :: others => dropPieces count others

/-- The text of a path after a base; none if the components of the base are
not the first ones of the path. -/
def relative? (base text : List Char) : Option (List Char) :=
  if (components base).isPrefixOf (components text) then
    match (components base).length with
    | 0 => some (trimEnd text)
    | count + 1 =>
        let (head, body) := cutHead (trimEnd text)
        let taken := if head = [] then count + 1 else count
        some (joinWith '/' (dropPieces taken (splitWhere (· == '/') body)))
  else
    none

def componentText : Component → List Char
  | .root => ['/']
  | .current => ['.']
  | .parent => ['.', '.']
  | .name text => text

def ofComponents (path : List Component) : List Char :=
  path.foldl (fun text component => join text (componentText component)) []

end Path

end VelocityScript.Output
