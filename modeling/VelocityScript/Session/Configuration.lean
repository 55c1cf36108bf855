import VelocityScript.Session.Arguments
import VelocityScript.Session.Files
import VelocityScript.Settings

/-!
# The configuration of a run

What the arguments say overrides what the settings file says.
-/

namespace VelocityScript.Session

/-- Why a run ends without a verdict on its sources. -/
inductive ToolError where
  | file (error : FileError)
  | settings (path : String)
  | conflictingOutputs
  | severalSources
  | severalFunctions (path : String) (count : Nat)
  deriving DecidableEq

/-- The wording of an error. -/
def ToolError.message : ToolError → String
  | .file error => "IO error on " ++ error.path ++ ": " ++ error.problem.message
  | .settings path => "Config error in " ++ path
  | .conflictingOutputs =>
      "The outDir and outFile options cannot be specified at once"
  | .severalSources =>
      "The outDir option instead of the outFile one must be specified for " ++
        "multiple source files"
  | .severalFunctions path count =>
      "The outDir option instead of the outFile one must be specified because " ++
        toString count ++ " functions are defined in " ++ path

/-- Where templates go. -/
inductive Destination where
  | output
  | file (path : String)
  | directory (path : String)
  deriving DecidableEq

/-- Everything that decides how sources are handled. -/
structure Configuration where
  target : Target
  layout : Template.LayoutOptions
  destination : Destination
  validate : Bool
  format : Format
  deriving DecidableEq

/-- The layout options after the arguments.  An indentation text turns
indentation on. -/
def Arguments.layout (arguments : Arguments)
    (layout : Template.LayoutOptions) : Template.LayoutOptions :=
  { indentEnabled :=
      !arguments.noIndent && (arguments.indent.isSome || layout.indentEnabled)
    indentText := arguments.indent.getD layout.indentText
    stripComments := layout.stripComments || arguments.stripComments }

/-- Where the templates go after the arguments. -/
def Arguments.destination (arguments : Arguments) (settings : Settings) :
    Except ToolError Destination :=
  match arguments.outputFile, arguments.outputDirectory,
      settings.outputDirectory with
  | some _, some _, _ => .error .conflictingOutputs
  | some file, none, _ => .ok (.file file)
  | none, some directory, _ => .ok (.directory directory)
  | none, none, some directory => .ok (.directory directory)
  | none, none, none => .ok .output

def configure (arguments : Arguments) (settings : Settings) :
    Except ToolError Configuration := do
  return {
    target := arguments.target.getD settings.target
    layout := arguments.layout settings.layout
    destination := ← arguments.destination settings
    validate := arguments.validate || settings.validate
    format := arguments.format.getD .text }

end VelocityScript.Session
