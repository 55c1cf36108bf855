import VelocityScript.Session.Deed

/-!
# Runs

A run reads its settings and all of its sources before it does anything.  The
same run works on any surroundings: those of the process, or a machine whose
files are a value.
-/

namespace VelocityScript.Session

/-- What a run asks of its surroundings. -/
structure Environment (Effect : Type → Type) where
  isFile : String → Effect Bool
  read : String → Effect (Except FileProblem String)
  readInput : Effect (Except FileProblem String)
  write : String → String → Effect (Except FileError Unit)
  print : String → Effect Unit
  report : String → Effect Unit
  warn : Warning → Effect Unit

/-- How a run ends. -/
inductive Ending where
  | refused (refusal : Refusal)
  | finished (allClean : Bool)
  | failed (error : ToolError)
  deriving DecidableEq

def Ending.exitCode : Ending → Nat
  | .refused .mistake => 2
  | .refused _ => 0
  | .finished true => 0
  | .finished false => 1
  | .failed _ => 2

/-- The settings file that is used if it exists and no other one is given. -/
def defaultSettingsFile : String := "ts2vtl.yaml"

/-- The name under which the standard input is reported. -/
def inputName : String := "<stdin>"

/-- What the version option prints. -/
def versionText : String := "ts2vtl 0.0.2\n"

/-- The line that shows how the program is called. -/
def usageText : String := "Usage: ts2vtl [OPTIONS] [FILES]...\n"

/-- What the help option prints. -/
def helpText : String :=
  "Transpile TypeScript template functions into VTL mapping templates\n\n" ++
    usageText ++
    "\nArguments:\n" ++
    "  [FILES]...  Source files; standard input when omitted\n" ++
    "\nOptions:\n" ++
    "  -t, --target <TARGET>      Service the templates are written for\n" ++
    "      --out-file <OUT_FILE>  Output to a single file\n" ++
    "      --out-dir <OUT_DIR>    Output templates to the directory\n" ++
    "      --indent <INDENT>      Text of one indentation level\n" ++
    "      --no-indent            Do not indent directive bodies\n" ++
    "      --strip-comments       Omit the function banner comment\n" ++
    "      --format <FORMAT>      How diagnostics are reported\n" ++
    "      --validate             Re-check every generated template tree\n" ++
    "  -c, --config <CONFIG>      Configuration file\n" ++
    "  -v, --verbose              Verbose mode\n" ++
    "  -h, --help                 Print help\n" ++
    "  -V, --version              Print version\n"

variable {Effect : Type → Type} [Monad Effect]

/-- Reads a file whose failure ends the run. -/
def readFile (environment : Environment Effect) (path : String) :
    ExceptT ToolError Effect String := do
  match ← environment.read path with
  | .ok text => return text
  | .error problem => throw (.file ⟨path, problem⟩)

/-- Reads a settings file. -/
def loadSettings (environment : Environment Effect) (path : String) :
    ExceptT ToolError Effect Settings := do
  match Settings.ofText? (← readFile environment path) with
  | some settings => return settings
  | none => throw (.settings path)

/-- The settings of a run: those of the given file, or of the usual one if it
exists. -/
def findSettings (environment : Environment Effect) (arguments : Arguments) :
    ExceptT ToolError Effect Settings := do
  match arguments.settingsFile with
  | some path => loadSettings environment path
  | none =>
      if ← environment.isFile defaultSettingsFile then
        loadSettings environment defaultSettingsFile
      else
        return {}

/-- Reads source files.  The files of helper libraries are no sources; they are
passed over with a warning. -/
def readFiles (environment : Environment Effect) :
    List String → ExceptT ToolError Effect (List SourceText)
  | [] => return []
  | path :: others =>
      if Catalogue.isHelperModule path then do
        environment.warn (.helperSource path)
        readFiles environment others
      else do
        let text ← readFile environment path
        return ⟨path, text⟩ :: (← readFiles environment others)

/-- Reads the sources of a run; without files, the standard input. -/
def readSources (environment : Environment Effect) (files : List String) :
    ExceptT ToolError Effect (List SourceText) := do
  if files.isEmpty then
    match ← environment.readInput with
    | .ok text => return [⟨inputName, text⟩]
    | .error problem => throw (.file ⟨inputName, problem⟩)
  else
    readFiles environment files

/-- Does one deed. -/
def perform (environment : Environment Effect) :
    Deed → ExceptT ToolError Effect Unit
  | .print text => environment.print text
  | .report text => environment.report text
  | .warn warning => environment.warn warning
  | .write path content => do
      match ← environment.write path content with
      | .ok () => return ()
      | .error error => throw (.file error)
  | .stop error => throw error

/-- Does some deeds, up to the first one that fails. -/
def performAll (environment : Environment Effect) :
    List Deed → ExceptT ToolError Effect Unit
  | [] => return ()
  | deed :: others => do
      perform environment deed
      performAll environment others

/-- Whether there are more sources than the destination can take. -/
def overfills (destination : Destination) (sources : List SourceText) : Bool :=
  match destination with
  | .file _ => 1 < sources.length
  | _ => false

/-- Handles the sources that the arguments name, and says whether all of them
are clean. -/
def run (environment : Environment Effect) (arguments : Arguments) :
    ExceptT ToolError Effect Bool := do
  let settings ← findSettings environment arguments
  let configuration ← ExceptT.mk (pure (configure arguments settings))
  let sources ← readSources environment arguments.files
  if overfills configuration.destination sources then
    throw .severalSources
  else
    let jobs := sources.map (Job.ofSource configuration.target)
    performAll environment (deeds configuration jobs)
    return jobs.all (·.isClean configuration)

/-- Executes a command line. -/
def execute (environment : Environment Effect) (texts : List String) :
    Effect Ending := do
  match Arguments.read texts with
  | .error refusal =>
      match refusal with
      | .help => environment.print helpText
      | .version => environment.print versionText
      | .mistake => environment.report usageText
      return .refused refusal
  | .ok arguments =>
      match ← (run environment arguments).run with
      | .ok allClean => return .finished allClean
      | .error error =>
          environment.report ("error: " ++ error.message ++ "\n")
          return .failed error

end VelocityScript.Session
