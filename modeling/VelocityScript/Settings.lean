import VelocityScript.Lowering.State
import VelocityScript.Template.Layout
import VelocityScript.Text.Blank
import VelocityScript.Yaml.Document

/-!
# Settings files

A settings file is a YAML mapping.  Every entry is optional, unknown entries
have no effect, and a known entry may stand only once.
-/

namespace VelocityScript

/-- What a settings file can set. -/
structure Settings where
  target : Target := .appsync
  layout : Template.LayoutOptions := {}
  outputDirectory : Option String := none
  validate : Bool := false
  deriving DecidableEq

namespace Settings

open Yaml

/-- The entries of a mapping with scalar keys.  A place where nothing is
written counts as a mapping without entries.  Keys and values are what
references stand for. -/
def entries? (document : Document) : Node → Option (List (String × Node))
  | .mapping entries =>
      entries.mapM fun (key, value) =>
        match document.resolve key with
        | .scalar key => some (key.text, document.resolve value)
        | _ => none
  | .scalar scalar =>
      if scalar.style = .plain ∧ scalar.text = "" then some [] else none
  | _ => none

/-- The value of an entry, or the fallback where there is no such entry. -/
def entry? {Value : Type} (entries : List (String × Node)) (name : String)
    (read : Node → Option Value) (fallback : Value) : Option Value :=
  match entries.filter (·.1 == name) with
  | [] => some fallback
  | [(_, node)] => read node
  | _ => none

def text? : Node → Option String
  | .scalar scalar => some scalar.text
  | _ => none

/-- The truth values by their texts. -/
def truthTexts : List (String × Bool) :=
  [("true", true), ("True", true), ("TRUE", true),
    ("false", false), ("False", false), ("FALSE", false)]

def truthTag : String := "tag:yaml.org,2002:bool"

/-- The tag of the missing value. -/
def absenceTag : String := "tag:yaml.org,2002:null"

/-- The truth value of a scalar.  A quoted scalar is none, and a scalar of
several lines is one only if its tag says so. -/
def truth? : Node → Option Bool
  | .scalar scalar =>
      if scalar.style = .plain ∨
          (scalar.style = .literal ∧ scalar.tag = some truthTag) then
        truthTexts.lookup scalar.text
      else
        none
  | _ => none

/-- The texts of a plain scalar that say that there is no value. -/
def absences : List String :=
  ["~", "null", "Null", "NULL"]

/-- The text of a scalar, or nothing where a plain scalar says so.  With the
tag of the missing value it has to say so; with another tag it is a text. -/
def optionalText? : Node → Option (Option String)
  | .scalar scalar =>
      if scalar.style ≠ .plain then
        some (some scalar.text)
      else
        match scalar.tag with
        | none =>
            some (if scalar.text ∈ "" :: absences then none else some scalar.text)
        | some tag =>
            if tag ≠ absenceTag then
              some (some scalar.text)
            else if scalar.text ∈ absences then
              some none
            else
              none
  | _ => none

/-- The target that a scalar names: with its text, or with a tag of one
exclamation mark and the name, and nothing else. -/
def target? : Node → Option Target
  | .scalar scalar =>
      match scalar.tag.map String.toList with
      | some ('!' :: name) =>
          if scalar.style = .plain ∧ scalar.text ∈ "" :: absences then
            Target.ofText? (String.ofList name)
          else
            none
      | _ => Target.ofText? scalar.text
  | _ => none

def layout? (document : Document) (node : Node) :
    Option Template.LayoutOptions := do
  let entries ← entries? document node
  return {
    indentEnabled := ← entry? entries "indent_enabled" truth? true
    indentText := ← entry? entries "indent_text" text? "  "
    stripComments := ← entry? entries "strip_comments" truth? false }

def ofDocument? (document : Document) : Option Settings := do
  let entries ← entries? document document.root
  return {
    target := ← entry? entries "target" target? .appsync
    layout := ← entry? entries "generator" (layout? document) {}
    outputDirectory := ← entry? entries "out_dir" optionalText? none
    validate := ← entry? entries "validate" truth? false }

/-- Reads a settings file.  A text without a document sets nothing. -/
def ofText? (text : String) : Option Settings :=
  if (trimBlank text.toList).isEmpty then
    some {}
  else
    match Yaml.document? text with
    | none => none
    | some none => some {}
    | some (some document) => ofDocument? document

end Settings

end VelocityScript
