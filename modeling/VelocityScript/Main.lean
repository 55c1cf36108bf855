import VelocityScript.Session.Run

/-!
# The program

The surroundings of the process, and the entry point.
-/

namespace VelocityScript.Session

/-- Whether a code is the given error number.  Some calls give the number with
its sign changed. -/
def isErrorNumber (number code : UInt32) : Bool :=
  code == number || code == 0 - number

/-- The problem behind a failure of the operating system. -/
def problemOf (failure : IO.Error) : FileProblem :=
  match failure with
  | .noFileOrDirectory _ _ _ => .missing
  | .alreadyExists _ _ _ => .exists
  | .inappropriateType _ code _ =>
      if isErrorNumber 20 code then
        .notDirectory
      else if isErrorNumber 21 code then
        .isDirectory
      else
        .other (toString failure)
  | .invalidArgument _ code _ =>
      if isErrorNumber 36 code then .nameTooLong else .other (toString failure)
  | _ => .other (toString failure)

def textOf (bytes : ByteArray) : Except FileProblem String :=
  match String.fromUTF8? bytes with
  | some text => .ok text
  | none => .error .notText

/-- Reads the bytes of a stream up to its end. -/
partial def readBytes (stream : IO.FS.Stream) (before : ByteArray) :
    IO ByteArray := do
  let more ← stream.read 65536
  if more.isEmpty then
    return before
  else
    readBytes stream (before ++ more)

def readProcessInput : IO (Except FileProblem String) := do
  return textOf (← readBytes (← IO.getStdin) ByteArray.empty)

/-- Whether a path leads to something of the given kind. -/
def isProcessKind (kind : IO.FS.FileType) (path : String) : IO Bool := do
  try
    let place ← IO.FS.realPath path
    return (← place.metadata).type == kind
  catch _ =>
    return false

/-- Does something with a path, unless the path is refused. -/
def attempt {Result : Type} (path : String) (action : IO Result) :
    IO (Except FileProblem Result) := do
  match pathProblem? path.toList with
  | some problem => return .error problem
  | none =>
      try
        return .ok (← action)
      catch failure =>
        return .error (problemOf failure)

def readProcessFile (path : String) : IO (Except FileProblem String) := do
  return (← attempt path (IO.FS.readBinFile path)) >>= textOf

/-- Makes one directory, unless it is there. -/
def makeProcessDirectory (path : String) : IO (Except FileProblem Unit) := do
  match ← attempt path (IO.FS.createDir path) with
  | .error .exists =>
      if ← isProcessKind .dir path then
        return .ok ()
      else
        return .error .exists
  | outcome => return outcome

/-- Makes a directory, and where the one above it is missing, that first. -/
partial def makeProcessDirectories (path : List Char) :
    IO (Except FileProblem Unit) := do
  match ← makeProcessDirectory (String.ofList path) with
  | .error .missing =>
      match Output.Path.parent? path with
      | none | some [] => return .error .missing
      | some parent =>
          match ← makeProcessDirectories parent with
          | .ok () => makeProcessDirectory (String.ofList path)
          | .error problem => return .error problem
  | outcome => return outcome

/-- Makes the directory of a path, unless that is the working directory. -/
def makeProcessParent (path : String) : IO (Except FileError Unit) := do
  match Output.Path.parent? path.toList with
  | none | some [] => return .ok ()
  | some parent =>
      match ← makeProcessDirectories parent with
      | .ok () => return .ok ()
      | .error problem => return .error ⟨String.ofList parent, problem⟩

/-- Writes a file and makes the directories above it. -/
def writeProcessFile (path content : String) :
    IO (Except FileError Unit) := do
  match ← makeProcessParent path with
  | .error error => return .error error
  | .ok () =>
      match ← attempt path (IO.FS.writeFile path content) with
      | .ok () => return .ok ()
      | .error problem => return .error ⟨path, problem⟩

/-- The process as the surroundings of a run. -/
def processEnvironment : Environment IO where
  isFile := isProcessKind .file
  read := readProcessFile
  readInput := readProcessInput
  write := writeProcessFile
  print text := IO.print text
  report text := IO.eprint text
  warn warning := IO.eprintln ("WARN " ++ warning.message)

end VelocityScript.Session

/-- Executes the command line of the process. -/
def main (texts : List String) : IO UInt32 := do
  let ending ←
    VelocityScript.Session.execute VelocityScript.Session.processEnvironment texts
  return ending.exitCode.toUInt32
