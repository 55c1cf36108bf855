import VelocityScript.Lowering.Statement

/-!
# Lowering functions

Every exported function of a module gives one template.
-/

namespace VelocityScript.Lowering

open Script

/-- The directives that make the map from which quotes are taken. -/
def escapePrelude : List Template.Element :=
  [.assign (.named ⟨⟨"esc", none⟩, none⟩)
      (.ofValue
        (.map
          [.mk (.string "q" .double none) (.string "\"" .single none) none] none))
      none,
    .newLine]

/-- The directives that make the string class available. -/
def stringClassPrelude : List Template.Element :=
  let place := Template.Place.named ⟨⟨Catalogue.stringClass, none⟩, none⟩
  [.assign place (.ofValue (.string "" .double none)) none,
    .assign place
      (.ofValue
        (.reference (.chain Catalogue.stringClass ["class"] none) none))
      none,
    .newLine]

/-- The directives that a template needs before all others. -/
def prelude (state : State) : List Template.Element :=
  (if state.needsEscape then escapePrelude else []) ++
    if state.needsStringClass then stringClassPrelude else []

def templateName (function : FunctionDeclaration) : String :=
  (function.name.map Identifier.name).getD "default"

/-- Why a function cannot be lowered at all, if so. -/
def functionComplaint? (function : FunctionDeclaration) : Option Complaint :=
  if !function.modifiers.contains .exported then
    some .notExported
  else if function.modifiers.any fun modifier =>
      modifier != .exported && modifier != .default then
    some .extraModifiers
  else if function.isGenerator then
    some .generatorFunction
  else
    none

def functionStep (target : Target) (function : FunctionDeclaration) :
    Lower (Option Template.File) := do
  match functionComplaint? function with
  | some complaint => giveUp complaint function.span
  | none =>
      match function.body with
      | none => giveUp .missingBody function.span
      | some body =>
          let elements ← lowerStatements target body.statements
          let opening := prelude (← get)
          return some
            { name := templateName function
              block := .mk (opening ++ elements) (some body.span)
              origin := some function.span }

/-- The template of a function, if it has one, and the reports of its
lowering.  Where there are reports the template is not to be used. -/
def lowerFunction (target : Target) (function : FunctionDeclaration) :
    Option Template.File × List Report :=
  let (file, state) := (functionStep target function).run {}
  (file, state.reports)

/-- The templates of a module, and all reports. -/
structure Outcome where
  files : List Template.File
  reports : List Report

def implements (name : Option String) : Item → Bool
  | .function declared =>
      declared.body.isSome && declared.name.map Identifier.name == name
  | _ => false

/-- Lowers the items of a module in order.  A signature is left out when its
implementation follows. -/
def lowerItems (target : Target) : List Item → Outcome
  | [] => ⟨[], []⟩
  | .imports _ :: others => lowerItems target others
  | .typeDeclaration _ :: others => lowerItems target others
  | .statement statement :: others =>
      let rest := lowerItems target others
      ⟨rest.files,
        ⟨.topLevel statement.syntaxName, statement.span⟩ :: rest.reports⟩
  | .function function :: others =>
      let rest := lowerItems target others
      if function.body.isNone &&
          others.any (implements (function.name.map Identifier.name)) then
        rest
      else
        let (file, reports) := lowerFunction target function
        ⟨file.toList ++ rest.files, reports ++ rest.reports⟩

def lowerModule (target : Target) (script : Module) : Outcome :=
  lowerItems target script.items

end VelocityScript.Lowering
