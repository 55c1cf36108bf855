import VelocityScript.Json
import VelocityScript.Text.Position

/-!
# Diagnostics

A diagnostic says what is wrong with a source text and where.
-/

namespace VelocityScript

/-- The class of a problem. -/
inductive DiagnosticCode where
  | syntaxError
  | unsupportedSyntax
  | notImplementedSyntax
  | invalidIdentifier
  | structuralError
  deriving DecidableEq

namespace DiagnosticCode

/-- The name of the class in reports. -/
def text : DiagnosticCode → String
  | .syntaxError => "syntax-error"
  | .unsupportedSyntax => "unsupported-syntax"
  | .notImplementedSyntax => "not-implemented-syntax"
  | .invalidIdentifier => "invalid-identifier"
  | .structuralError => "structural-error"

/-- All classes. -/
def all : List DiagnosticCode :=
  [.syntaxError, .unsupportedSyntax, .notImplementedSyntax, .invalidIdentifier,
    .structuralError]

/-- The class with the given name. -/
def ofText? (name : String) : Option DiagnosticCode :=
  all.find? (·.text == name)

end DiagnosticCode

/-- A reported problem. -/
structure Diagnostic where
  code : DiagnosticCode
  message : String
  location : Option Location := none
  deriving DecidableEq

namespace Diagnostic

/-- The report in one line.  Lines and columns are counted from one. -/
def display (diagnostic : Diagnostic) : String :=
  let problem := diagnostic.message ++ " (" ++ diagnostic.code.text ++ ")"
  match diagnostic.location with
  | some location =>
      location.file ++ ":" ++ toString (location.first.line + 1) ++ ":" ++
        toString (location.first.column + 1) ++ ": " ++ problem
  | none => problem

def positionJson (position : Position) : Json :=
  .object
    [("line", .number position.line),
      ("column", .number position.column),
      ("offset", .number position.offset)]

def toJson (diagnostic : Diagnostic) : Json :=
  .object
    [("kind", .string diagnostic.code.text),
      ("message", .string diagnostic.message),
      ("location",
        match diagnostic.location with
        | none => .null
        | some location =>
            .object
              [("file", .string location.file),
                ("begin", positionJson location.first),
                ("end", positionJson location.last)])]

def report (diagnostics : List Diagnostic) : String :=
  (Json.array (diagnostics.map toJson)).pretty 0

/-- The line of a report that marks a region: a caret under its first
character and a rule under the others of that line.  A region that ends on a
later line reaches to the end of the first one. -/
def underline (lineLength : Nat) (location : Location) : String :=
  let first := location.first.column
  let last :=
    if location.first.line = location.last.line ∧
        first < location.last.column then
      location.last.column
    else if first < lineLength then
      lineLength
    else
      first + 1
  String.ofList
    (List.replicate first ' ' ++ '^' :: List.replicate (last - first - 1) '_')

/-- The report for a reader, given the lines of the source text. -/
def excerpt (lines : List String) (diagnostic : Diagnostic) : String :=
  let problem := diagnostic.message ++ " (" ++ diagnostic.code.text ++ ")\n\n"
  match diagnostic.location with
  | none => "ERROR: " ++ problem
  | some location =>
      let line := lines[location.first.line]?.getD ""
      "ERROR AT " ++ location.file ++ ":" ++
        toString (location.first.line + 1) ++ ":\n" ++ line ++ "\n" ++
        underline line.length location ++ "\n" ++ problem

end Diagnostic

end VelocityScript
