import VelocityScript.Script.Grammar.Item
import VelocityScript.Script.Scope

/-!
# Warnings

What a run comes upon without being stopped by it, and without a report: a
warning changes neither the templates nor the exit code.
-/

namespace VelocityScript.Session

/-- What a run warns of. -/
inductive Warning where
  | helperSource (path : String)
  | undeclaredImport (moduleName name : String)
  | noFunctions (path : String)
  deriving DecidableEq

/-- The wording of a warning. -/
def Warning.message : Warning → String
  | .helperSource path => "skipping helper library source path=" ++ path
  | .undeclaredImport moduleName name =>
      "import is not declared by the helper module module=" ++ moduleName ++
        " export=\"" ++ name ++ "\""
  | .noFunctions path => "no functions to write path=" ++ path

/-- What the imports of a source give rise to.  A source that does not parse is
not looked into. -/
def importWarnings (source : SourceText) : List Warning :=
  match Script.parse source.text with
  | .error _ => []
  | .ok script =>
      script.undeclared.map fun (moduleName, name) =>
        .undeclaredImport moduleName name

end VelocityScript.Session
