import VelocityScript.Session.Configuration

/-!
# What the arguments and the settings ask for

The arguments decide where they say something, and the settings decide the rest.
Checks and the omission of comments are asked for by either of the two.
-/

namespace VelocityScript.Session

/-- Where the templates of a run go: to the file or below the directory that the
arguments name, else below the directory of the settings, else to the standard
output.  Arguments that name both go nowhere. -/
inductive GoesTo (arguments : Arguments) (settings : Settings) :
    Destination → Prop
  | file {path : String} :
      arguments.outputFile = some path →
      arguments.outputDirectory = none →
      GoesTo arguments settings (.file path)
  | directory {path : String} :
      arguments.outputFile = none →
      arguments.outputDirectory = some path →
      GoesTo arguments settings (.directory path)
  | usual {path : String} :
      arguments.outputFile = none →
      arguments.outputDirectory = none →
      settings.outputDirectory = some path →
      GoesTo arguments settings (.directory path)
  | output :
      arguments.outputFile = none →
      arguments.outputDirectory = none →
      settings.outputDirectory = none →
      GoesTo arguments settings .output

/-- A configuration is what the arguments and the settings ask for together. -/
structure Merges (arguments : Arguments) (settings : Settings)
    (configuration : Configuration) : Prop where
  destination : GoesTo arguments settings configuration.destination
  target : configuration.target = arguments.target.getD settings.target
  /-- A text for the indentation turns it on. -/
  indentEnabled :
    configuration.layout.indentEnabled = true ↔
      arguments.noIndent = false ∧
        (arguments.indent.isSome = true ∨ settings.layout.indentEnabled = true)
  indentText :
    configuration.layout.indentText =
      arguments.indent.getD settings.layout.indentText
  stripComments :
    configuration.layout.stripComments = true ↔
      arguments.stripComments = true ∨ settings.layout.stripComments = true
  validate :
    configuration.validate = true ↔
      arguments.validate = true ∨ settings.validate = true
  format : configuration.format = arguments.format.getD .text

variable {arguments : Arguments} {settings : Settings}

theorem destination_eq_iff {destination : Destination} :
    arguments.destination settings = .ok destination ↔
      GoesTo arguments settings destination := by
  unfold Arguments.destination
  constructor
  · intro chosen
    split at chosen
    · cases chosen
    · next file alone =>
        cases chosen
        exact .file file alone
    · next alone directory =>
        cases chosen
        exact .directory alone directory
    · next noFile noDirectory usual =>
        cases chosen
        exact .usual noFile noDirectory usual
    · next noFile noDirectory unset =>
        cases chosen
        exact .output noFile noDirectory unset
  · intro goes
    cases goes with
    | file file alone => rw [file, alone]
    | directory alone directory => rw [alone, directory]
    | usual noFile noDirectory usual => rw [noFile, noDirectory, usual]
    | output noFile noDirectory unset => rw [noFile, noDirectory, unset]

/-- A configuration has the destination that the arguments choose, and all else
is the value of one of its entries. -/
theorem configure_eq_iff_destination {configuration : Configuration} :
    configure arguments settings = .ok configuration ↔
      arguments.destination settings = .ok configuration.destination ∧
        configuration =
          { target := arguments.target.getD settings.target
            layout := arguments.layout settings.layout
            destination := configuration.destination
            validate := arguments.validate || settings.validate
            format := arguments.format.getD .text } := by
  unfold configure
  cases arguments.destination settings with
  | error error => exact ⟨nofun, nofun⟩
  | ok destination =>
      constructor
      · rintro ⟨⟩
        exact ⟨rfl, rfl⟩
      · rintro ⟨⟨⟩, whole⟩
        rw [whole]
        rfl

/-- The layout after the arguments, entry by entry. -/
theorem eq_layout_of_merges {configuration : Configuration}
    (merges : Merges arguments settings configuration) :
    configuration.layout = arguments.layout settings.layout := by
  rcases found : configuration.layout with ⟨enabled, text, strip⟩
  have enabledEq : enabled =
      (!arguments.noIndent &&
        (arguments.indent.isSome || settings.layout.indentEnabled)) := by
    rw [Bool.eq_iff_iff]
    simpa [found] using merges.indentEnabled
  have textEq : text = arguments.indent.getD settings.layout.indentText := by
    simpa [found] using merges.indentText
  have stripEq : strip =
      (settings.layout.stripComments || arguments.stripComments) := by
    rw [Bool.eq_iff_iff]
    simpa [found, or_comm] using merges.stripComments
  rw [enabledEq, textEq, stripEq, Arguments.layout]

/-- A run is configured as its arguments and its settings ask for. -/
theorem configure_eq_iff {configuration : Configuration} :
    configure arguments settings = .ok configuration ↔
      Merges arguments settings configuration := by
  rw [configure_eq_iff_destination, destination_eq_iff]
  constructor
  · rintro ⟨goes, whole⟩
    rw [whole]
    exact
      { destination := goes
        target := rfl
        indentEnabled := by simp [Arguments.layout]
        indentText := rfl
        stripComments := by simp [Arguments.layout, or_comm]
        validate := by simp
        format := rfl }
  · intro merges
    have checks : configuration.validate =
        (arguments.validate || settings.validate) := by
      rw [Bool.eq_iff_iff, Bool.or_eq_true]
      exact merges.validate
    refine ⟨merges.destination, ?_⟩
    rw [← merges.target, ← eq_layout_of_merges merges, ← checks, ← merges.format]

theorem Merges.unique {first second : Configuration}
    (one : Merges arguments settings first)
    (other : Merges arguments settings second) : first = second := by
  have same := (configure_eq_iff.mpr one).symm.trans (configure_eq_iff.mpr other)
  injection same

end VelocityScript.Session
