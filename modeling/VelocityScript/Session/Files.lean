import VelocityScript.Output.Path
import VelocityScript.Text.Position

/-!
# Files

A store of files as a run sees it.  A path is followed name by name, so a name
that is missing, or that is a file where a directory is needed, stops the way.
Directories exist above every file, and where they have been made.
-/

namespace VelocityScript.Session

open Output

/-- Why an access to a file fails. -/
inductive FileProblem where
  | missing
  | exists
  | notDirectory
  | isDirectory
  | nameTooLong
  | containsNul
  | notText
  | other (message : String)
  deriving DecidableEq

/-- The wording of a problem. -/
def FileProblem.message : FileProblem → String
  | .missing => "No such file or directory (os error 2)"
  | .exists => "File exists (os error 17)"
  | .notDirectory => "Not a directory (os error 20)"
  | .isDirectory => "Is a directory (os error 21)"
  | .nameTooLong => "File name too long (os error 36)"
  | .containsNul => "file name contained an unexpected NUL byte"
  | .notText => "stream did not contain valid UTF-8"
  | .other message => message

/-- A failed access: the path it concerns, and why it failed. -/
structure FileError where
  path : String
  problem : FileProblem
  deriving DecidableEq

/-- What a file holds. -/
inductive Content where
  | text (content : String)
  | binary
  deriving DecidableEq

def Content.read : Content → Except FileProblem String
  | .text content => .ok content
  | .binary => .error .notText

/-- Where the names of a place start: a number of directories above the
working directory, or at the root. -/
inductive Start where
  | above (levels : Nat)
  | root
  deriving DecidableEq

/-- A place in the tree of files. -/
structure Place where
  start : Start := .above 0
  names : List String := []
  deriving DecidableEq

namespace Place

/-- The directory above a place.  Nothing is above the root. -/
def up (place : Place) : Place :=
  match place.names, place.start with
  | _ :: _, start => ⟨start, place.names.dropLast⟩
  | [], .above levels => ⟨.above (levels + 1), []⟩
  | [], .root => place

/-- The place that one piece of a path leads to. -/
def enter (place : Place) (piece : List Char) : Place :=
  if piece = ['.'] then
    place
  else if piece = ['.', '.'] then
    place.up
  else
    ⟨place.start, place.names ++ [String.ofList piece]⟩

/-- Where following a path starts. -/
def origin (path : List Char) : Place :=
  if Path.isAbsolute path then ⟨.root, []⟩ else {}

/-- The greatest number of bytes in a name. -/
def nameLimit : Nat := 255

/-- Whether nothing can be at a place because of its name. -/
def isTooLong (place : Place) : Bool :=
  place.names.getLast?.any (nameLimit < ·.utf8ByteSize)

/-- Why there is nothing at a place. -/
def absence (place : Place) : FileProblem :=
  if place.isTooLong then .nameTooLong else .missing

/-- The path of a place from the working directory. -/
def text (place : Place) : String :=
  String.intercalate "/" place.names

end Place

def pathPieces (path : List Char) : List (List Char) :=
  (splitWhere (· == '/') path).filter (!·.isEmpty)

/-- Whether a path ends with a separator, so that it can only mean a
directory. -/
def endsWithSeparator (path : List Char) : Bool :=
  path.getLast? == some '/'

/-- The greatest number of bytes in a path. -/
def pathLimit : Nat := 4095

/-- Why a path is refused before it is followed, if it is. -/
def pathProblem? (path : List Char) : Option FileProblem :=
  if '\x00' ∈ path then
    some .containsNul
  else if path.isEmpty then
    some .missing
  else if pathLimit < byteLength path then
    some .nameTooLong
  else
    none

/-- The files, and the directories that have been made. -/
structure FileStore where
  files : List (Place × Content) := []
  directories : List Place := []

namespace FileStore

def content? (store : FileStore) (place : Place) : Option Content :=
  store.files.lookup place

/-- Whether a place is another one, or lies above it. -/
def isAbove (place other : Place) : Bool :=
  place.start == other.start && place.names.isPrefixOf other.names

/-- Whether a place is a directory.  The working directory, those above it and
the root always are. -/
def isDirectory (store : FileStore) (place : Place) : Bool :=
  (store.content? place).isNone &&
    (place.names.isEmpty ||
      store.files.any (fun file => isAbove place file.1) ||
      store.directories.any (isAbove place))

/-- What stops the way at a place that is not a directory. -/
def obstacle (store : FileStore) (place : Place) : FileProblem :=
  if (store.content? place).isSome then .notDirectory else place.absence

/-- Follows the pieces of a path.  The last one need not exist. -/
def follow (store : FileStore) :
    Place → List (List Char) → Except FileProblem Place
  | place, [] => .ok place
  | place, piece :: pieces =>
      if store.isDirectory place then
        follow store (place.enter piece) pieces
      else
        .error (store.obstacle place)

def place (store : FileStore) (path : List Char) :
    Except FileProblem Place :=
  match pathProblem? path with
  | some problem => .error problem
  | none => store.follow (Place.origin path) (pathPieces path)

def read (store : FileStore) (path : String) : Except FileProblem String := do
  let place ← store.place path.toList
  match store.content? place with
  | some content =>
      if endsWithSeparator path.toList then
        .error .notDirectory
      else
        content.read
  | none =>
      .error (if store.isDirectory place then .isDirectory else place.absence)

def isFile (store : FileStore) (path : String) : Bool :=
  match store.place path.toList with
  | .ok place =>
      (store.content? place).isSome && !endsWithSeparator path.toList
  | .error _ => false

/-- Makes one directory, unless it is there.  The one above it has to exist. -/
def makeDirectory (store : FileStore) (path : List Char) :
    Except FileProblem FileStore := do
  let place ← store.place path
  if store.isDirectory place then
    .ok store
  else if (store.content? place).isSome then
    .error .exists
  else if place.isTooLong then
    .error .nameTooLong
  else
    .ok { store with directories := place :: store.directories }

/-- Makes a directory, and where one above it is missing, that first.  The
first argument bounds the number of directories. -/
def makeDirectories (store : FileStore) :
    Nat → (path : List Char) → Except FileProblem FileStore
  | 0, path => store.makeDirectory path
  | bound + 1, path =>
      match store.makeDirectory path, Path.parent? path with
      | .error .missing, some (first :: rest) => do
          let made ← store.makeDirectories bound (first :: rest)
          made.makeDirectory path
      | outcome, _ => outcome

/-- The store with a file at a place, instead of the one before. -/
def put (store : FileStore) (place : Place) (content : String) : FileStore :=
  { store with
    files :=
      (place, .text content) :: store.files.filter (·.1 != place) }

@[simp]
theorem content?_put_self
    (store : FileStore) (place : Place) (content : String) :
    (store.put place content).content? place = some (.text content) := by
  simp [content?, put]

theorem content?_put_of_ne
    (store : FileStore) {place other : Place} (content : String)
    (different : other ≠ place) :
    (store.put place content).content? other = store.content? other := by
  have unequal : (other == place) = false := by simpa using different
  simp only [content?, put, List.lookup_cons, unequal]
  induction store.files with
  | nil =>
      rfl
  | cons file files inductionHypothesis =>
      obtain ⟨known, held⟩ := file
      by_cases same : known = place
      · simp [same, List.lookup_cons, unequal, inductionHypothesis]
      · simp [same, List.lookup_cons, inductionHypothesis]

/-- Writes a file whose directory exists. -/
def replace (store : FileStore) (path content : String) :
    Except FileProblem FileStore := do
  let place ← store.place path.toList
  if store.isDirectory place || endsWithSeparator path.toList then
    .error .isDirectory
  else if place.isTooLong then
    .error .nameTooLong
  else
    return store.put place content

/-- Makes the directory of a path, unless that is the working directory. -/
def makeParent (store : FileStore) (path : String) :
    Except FileError FileStore :=
  match Path.parent? path.toList with
  | none | some [] => .ok store
  | some parent =>
      match store.makeDirectories parent.length parent with
      | .ok made => .ok made
      | .error problem => .error ⟨String.ofList parent, problem⟩

/-- Writes a file and makes the directories above it. -/
def write (store : FileStore) (path content : String) :
    Except FileError FileStore := do
  let made ← store.makeParent path
  match made.replace path content with
  | .ok written => return written
  | .error problem => .error ⟨path, problem⟩

/-- The store with the given files below the working directory. -/
def ofFiles (files : List (String × String)) : FileStore :=
  { files :=
      files.map fun (path, content) =>
        ((pathPieces path.toList).foldl Place.enter {}, .text content) }

/-- The text files below the working directory that are new or changed since
`before`. -/
def changes (before after : FileStore) : List (String × String) :=
  after.files.filterMap fun (place, content) =>
    match content with
    | .text content =>
        if place.start = .above 0 ∧
            before.content? place ≠ some (.text content) then
          some (place.text, content)
        else
          none
    | .binary => none

end FileStore

end VelocityScript.Session
