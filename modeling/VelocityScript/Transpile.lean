import VelocityScript.Lowering.Function
import VelocityScript.Script.Grammar.Item
import VelocityScript.Script.Scope
import VelocityScript.Template.Printer

/-!
# From scripts to templates
-/

namespace VelocityScript

/-- The templates of a source text and what is wrong with it.  Where there are
diagnostics the templates are not to be used. -/
structure Transpiled where
  files : List Template.File
  diagnostics : List Diagnostic

namespace Transpiled

/-- Whether the templates can be used. -/
def isClean (transpiled : Transpiled) : Bool :=
  transpiled.diagnostics.isEmpty

/-- The templates as text, each with the name of its function. -/
def render (options : Template.LayoutOptions) (transpiled : Transpiled) :
    List (String × String) :=
  transpiled.files.map fun file => (file.name, file.render options)

end Transpiled

/-- Parses, resolves and lowers a source text.  A syntax error is the only
diagnostic of its text. -/
def transpile (target : Target) (source : SourceText) : Transpiled :=
  match Script.parse source.text with
  | .error error => ⟨[], [error.diagnostic source]⟩
  | .ok script =>
      let outcome := Lowering.lowerModule target script.resolve
      ⟨outcome.files, outcome.reports.map (Lowering.Report.diagnostic source)⟩

end VelocityScript
