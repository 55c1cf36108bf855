import Mathlib.Data.List.Forall2
import VelocityScript.Proofs.Session.Performing

/-!
# What a run reads

A run takes its settings and its sources from the machine as it is at the start.
It leaves the machine as it is, apart from a warning for each file of a helper
library.
-/

namespace VelocityScript.Session

/-- Where the settings of a run come from: the file that the arguments name, or
else the usual file if it exists, or else nothing but the defaults. -/
inductive SettlesOn (store : FileStore) (arguments : Arguments) : Settings → Prop
  | named {path text : String} {settings : Settings} :
      arguments.settingsFile = some path →
      store.read path = .ok text →
      Settings.ofText? text = some settings →
      SettlesOn store arguments settings
  | usual {text : String} {settings : Settings} :
      arguments.settingsFile = none →
      store.isFile defaultSettingsFile = true →
      store.read defaultSettingsFile = .ok text →
      Settings.ofText? text = some settings →
      SettlesOn store arguments settings
  | absent :
      arguments.settingsFile = none →
      store.isFile defaultSettingsFile = false →
      SettlesOn store arguments {}

/-- A source is the text of the file at its path. -/
def IsReadFrom (store : FileStore) (path : String) (source : SourceText) : Prop :=
  source.path = path ∧ store.read path = .ok source.text

instance (store : FileStore) (path : String) (source : SourceText) :
    Decidable (IsReadFrom store path source) :=
  inferInstanceAs (Decidable (_ ∧ _))

/-- The sources of a run: the files of the arguments that belong to no helper
library, in their order, and the standard input where no file is given. -/
inductive Supplies (machine : Machine) : List String → List SourceText → Prop
  | input {text : String} :
      machine.input = .text text →
      Supplies machine [] [⟨inputName, text⟩]
  | files {paths : List String} {sources : List SourceText} :
      paths ≠ [] →
      List.Forall₂ (IsReadFrom machine.store)
        (paths.filter fun path => !Catalogue.isHelperModule path) sources →
      Supplies machine paths sources

/-- A run has one source of its settings. -/
theorem SettlesOn.unique {store : FileStore} {arguments : Arguments}
    {first second : Settings} (one : SettlesOn store arguments first)
    (other : SettlesOn store arguments second) : first = second := by
  cases one with
  | named asked read known =>
      cases other with
      | named same reread reknown =>
          rw [asked] at same
          cases same
          rw [read] at reread
          cases reread
          exact Option.some.inj (known.symm.trans reknown)
      | usual unasked _ _ _ | absent unasked _ =>
          rw [asked] at unasked
          cases unasked
  | usual unasked isThere read known =>
      cases other with
      | named asked _ _ =>
          rw [unasked] at asked
          cases asked
      | usual _ _ reread reknown =>
          rw [read] at reread
          cases reread
          exact Option.some.inj (known.symm.trans reknown)
      | absent _ isMissing =>
          rw [isThere] at isMissing
          cases isMissing
  | absent unasked isMissing =>
      cases other with
      | named asked _ _ =>
          rw [unasked] at asked
          cases asked
      | usual _ isThere _ _ =>
          rw [isMissing] at isThere
          cases isThere
      | absent _ _ => rfl

theorem rightUnique_isReadFrom (store : FileStore) :
    Relator.RightUnique (IsReadFrom store) := by
  rintro path ⟨_, first⟩ ⟨_, second⟩ ⟨rfl, one⟩ ⟨rfl, other⟩
  rw [one] at other
  cases other
  rfl

/-- The files of a run decide on its sources. -/
theorem Supplies.unique {machine : Machine} {paths : List String}
    {first second : List SourceText} (one : Supplies machine paths first)
    (other : Supplies machine paths second) : first = second := by
  cases one with
  | input held =>
      cases other with
      | input same =>
          rw [held] at same
          cases same
          rfl
      | files named _ => exact absurd rfl named
  | files named read =>
      cases other with
      | input held => exact absurd rfl named
      | files _ same =>
          exact (rightUnique_isReadFrom machine.store).forall₂ read same

/-- The warnings for the files of helper libraries. -/
def helperWarnings (paths : List String) : List Warning :=
  (paths.filter Catalogue.isHelperModule).map .helperSource

theorem helperWarnings_cons_of_helper {path : String} (paths : List String)
    (helper : Catalogue.isHelperModule path = true) :
    helperWarnings (path :: paths) = [.helperSource path] ++ helperWarnings paths := by
  rw [helperWarnings, List.filter_cons_of_pos helper]
  rfl

theorem helperWarnings_cons_of_own {path : String} (paths : List String)
    (own : ¬ Catalogue.isHelperModule path = true) :
    helperWarnings (path :: paths) = helperWarnings paths := by
  rw [helperWarnings, List.filter_cons_of_neg own]
  rfl

variable {before after : Machine}

theorem readFile_reads {path text : String}
    (done : Succeeds (readFile Machine.environment path) before text after) :
    after = before ∧ before.store.read path = .ok text := by
  obtain ⟨outcome, middle, tried, ended⟩ := done.of_bind
  have ran : (before.store.read path, before) = (outcome, middle) :=
    succeeds_lift tried
  cases ran
  split at ended
  · next found read =>
      obtain ⟨rfl, rfl⟩ := succeeds_pure ended
      exact ⟨rfl, read⟩
  · exact absurd ended not_succeeds_throw

theorem loadSettings_reads {path : String} {settings : Settings}
    (done : Succeeds (loadSettings Machine.environment path) before settings after) :
    after = before ∧ ∃ text, before.store.read path = .ok text ∧
      Settings.ofText? text = some settings := by
  obtain ⟨text, middle, first, ended⟩ := done.of_bind
  obtain ⟨rfl, read⟩ := readFile_reads first
  split at ended
  · next found known =>
      obtain ⟨rfl, rfl⟩ := succeeds_pure ended
      exact ⟨rfl, text, read, known⟩
  · exact absurd ended not_succeeds_throw

theorem findSettings_settles {arguments : Arguments} {settings : Settings}
    (done :
      Succeeds (findSettings Machine.environment arguments) before settings after) :
    after = before ∧ SettlesOn before.store arguments settings := by
  unfold findSettings at done
  split at done
  · next path named =>
      obtain ⟨unchanged, text, read, known⟩ := loadSettings_reads done
      exact ⟨unchanged, .named named read known⟩
  · next unnamed =>
      obtain ⟨present, middle, tried, ended⟩ := done.of_bind
      have ran : (before.store.isFile defaultSettingsFile, before) =
          (present, middle) := succeeds_lift tried
      cases ran
      split at ended
      · next isThere =>
          obtain ⟨unchanged, text, read, known⟩ := loadSettings_reads ended
          exact ⟨unchanged, .usual unnamed isThere read known⟩
      · next isMissing =>
          obtain ⟨rfl, rfl⟩ := succeeds_pure ended
          exact ⟨rfl, .absent unnamed (Bool.eq_false_iff.mpr isMissing)⟩

theorem readFiles_reads {paths : List String} {sources : List SourceText}
    (done : Succeeds (readFiles Machine.environment paths) before sources after) :
    after = before.warned (helperWarnings paths) ∧
      List.Forall₂ (IsReadFrom before.store)
        (paths.filter fun path => !Catalogue.isHelperModule path) sources := by
  induction paths generalizing before after sources with
  | nil =>
      obtain ⟨rfl, rfl⟩ := succeeds_pure done
      exact ⟨(Machine.warned_nil _).symm, .nil⟩
  | cons path paths inductionHypothesis =>
      rw [readFiles] at done
      split at done
      · next helper =>
          obtain ⟨_, middle, first, rest⟩ := done.of_bind
          cases succeeds_lift first
          obtain ⟨rfl, others⟩ := inductionHypothesis rest
          rw [helperWarnings_cons_of_helper paths helper,
            List.filter_cons_of_neg (by simpa using helper)]
          exact ⟨Machine.warned_warned _ _ _, others⟩
      · next own =>
          obtain ⟨text, middle, first, rest⟩ := done.of_bind
          obtain ⟨rfl, read⟩ := readFile_reads first
          obtain ⟨more, last, later, ended⟩ := rest.of_bind
          obtain ⟨rfl, others⟩ := inductionHypothesis later
          obtain ⟨rfl, rfl⟩ := succeeds_pure ended
          rw [helperWarnings_cons_of_own paths own,
            List.filter_cons_of_pos (by simpa using own)]
          exact ⟨rfl, .cons ⟨rfl, read⟩ others⟩

theorem readSources_supplies {files : List String} {sources : List SourceText}
    (done : Succeeds (readSources Machine.environment files) before sources after) :
    after = before.warned (helperWarnings files) ∧ Supplies before files sources := by
  unfold readSources at done
  split at done
  · next unnamed =>
      obtain ⟨outcome, middle, tried, ended⟩ := done.of_bind
      have ran : (before.input.read, before) = (outcome, middle) :=
        succeeds_lift tried
      cases ran
      cases held : before.input with
      | text content =>
          rw [held] at ended
          obtain ⟨rfl, rfl⟩ := succeeds_pure ended
          rw [List.isEmpty_iff.mp unnamed]
          exact ⟨(Machine.warned_nil _).symm, .input held⟩
      | binary =>
          rw [held] at ended
          cases ended
  · next named =>
      obtain ⟨warned, read⟩ := readFiles_reads done
      exact ⟨warned, .files (fun none => named (List.isEmpty_iff.mpr none)) read⟩

end VelocityScript.Session
