import VelocityScript.Proofs.Session.Gathering

/-!
# Actions that fail

A sequence of actions fails at one of them, and the actions before it succeed.
Reading fails for a reason that lies in a file, and leaves the machine as it is,
apart from warnings.
Deeds fail at the first one that fails: all deeds before it are done, and none
of those after it.
-/

namespace VelocityScript.Session

variable {Value Other : Type} {before after : Machine} {error : ToolError}

/-- An action on a machine ends with an error and leaves the second machine. -/
def Fails (action : ExceptT ToolError (StateM Machine) Value)
    (before : Machine) (error : ToolError) (after : Machine) : Prop :=
  action.run.run before = (.error error, after)

theorem Fails.of_bind
    {action : ExceptT ToolError (StateM Machine) Other}
    {next : Other → ExceptT ToolError (StateM Machine) Value}
    (failed : Fails (action >>= next) before error after) :
    Fails action before error after ∨
      ∃ other middle, Succeeds action before other middle ∧
        Fails (next other) middle error after := by
  unfold Fails at failed
  rw [run_bind_eq] at failed
  split at failed
  · next other middle found =>
      exact Or.inr ⟨other, middle, found, failed⟩
  · next found =>
      cases failed
      exact Or.inl found

theorem not_fails_pure {given : Value} :
    ¬ Fails (pure given) before error after :=
  nofun

theorem fails_throw {thrown : ToolError}
    (failed : Fails (throw thrown : ExceptT ToolError (StateM Machine) Value)
      before error after) :
    error = thrown ∧ after = before := by
  cases failed
  exact ⟨rfl, rfl⟩

/-- A step of the machine by itself does not fail. -/
theorem not_fails_lift {step : StateM Machine Value} :
    ¬ Fails (liftM step) before error after :=
  nofun

/-- After a step of the machine the rest fails where that step leads. -/
theorem Fails.of_lift_bind {step : StateM Machine Other}
    {next : Other → ExceptT ToolError (StateM Machine) Value}
    (failed : Fails (liftM step >>= next) before error after) :
    Fails (next (step.run before).1) (step.run before).2 error after := by
  rcases failed.of_bind with first | ⟨other, middle, first, rest⟩
  · exact absurd first not_fails_lift
  · have ran := succeeds_lift first
    rw [ran]
    exact rest

/-- A machine differs from another one by warnings only. -/
def OnlyWarns (before after : Machine) : Prop :=
  ∃ warnings, after = before.warned warnings

theorem onlyWarns_warned (warnings : List Warning) (machine : Machine) :
    OnlyWarns machine (machine.warned warnings) :=
  ⟨warnings, rfl⟩

theorem OnlyWarns.refl (machine : Machine) : OnlyWarns machine machine :=
  ⟨[], machine.warned_nil.symm⟩

theorem OnlyWarns.trans {first second third : Machine}
    (earlier : OnlyWarns first second) (later : OnlyWarns second third) :
    OnlyWarns first third := by
  obtain ⟨some, rfl⟩ := earlier
  obtain ⟨more, rfl⟩ := later
  exact ⟨some ++ more, Machine.warned_warned some more first⟩

/-! ## Reading -/

theorem readFile_fails {path : String}
    (failed : Fails (readFile Machine.environment path) before error after) :
    after = before ∧ ∃ problem, before.store.read path = .error problem ∧
      error = .file ⟨path, problem⟩ := by
  have ended := failed.of_lift_bind
  cases read : before.store.read path with
  | ok text =>
      have outcome : (Machine.environment.read path).run before =
          (.ok text, before) := congrArg (·, before) read
      rw [outcome] at ended
      exact absurd ended not_fails_pure
  | error problem =>
      have outcome : (Machine.environment.read path).run before =
          (.error problem, before) := congrArg (·, before) read
      rw [outcome] at ended
      obtain ⟨reason, unchanged⟩ := fails_throw ended
      exact ⟨unchanged, problem, rfl, reason⟩

/-- A settings file cannot be read, or its text sets nothing. -/
inductive SettingsFault (store : FileStore) (path : String) : ToolError → Prop
  | unreadable {problem : FileProblem} :
      store.read path = .error problem →
      SettingsFault store path (.file ⟨path, problem⟩)
  | invalid {text : String} :
      store.read path = .ok text →
      Settings.ofText? text = none →
      SettingsFault store path (.settings path)

theorem loadSettings_fails {path : String}
    (failed : Fails (loadSettings Machine.environment path) before error after) :
    after = before ∧ SettingsFault before.store path error := by
  rcases failed.of_bind with first | ⟨text, middle, first, rest⟩
  · obtain ⟨unchanged, problem, unread, rfl⟩ := readFile_fails first
    exact ⟨unchanged, .unreadable unread⟩
  · obtain ⟨rfl, read⟩ := readFile_reads first
    split at rest
    · exact absurd rest not_fails_pure
    · next unknown =>
        obtain ⟨rfl, unchanged⟩ := fails_throw rest
        exact ⟨unchanged, .invalid read unknown⟩

/-- The settings file of a run: the one that the arguments name, or else the
usual one if it exists. -/
inductive UsesSettings (store : FileStore) (arguments : Arguments) :
    String → Prop
  | named {path : String} :
      arguments.settingsFile = some path →
      UsesSettings store arguments path
  | usual :
      arguments.settingsFile = none →
      store.isFile defaultSettingsFile = true →
      UsesSettings store arguments defaultSettingsFile

theorem findSettings_fails {arguments : Arguments}
    (failed :
      Fails (findSettings Machine.environment arguments) before error after) :
    after = before ∧ ∃ path, UsesSettings before.store arguments path ∧
      SettingsFault before.store path error := by
  unfold findSettings at failed
  split at failed
  · next path named =>
      obtain ⟨unchanged, fault⟩ := loadSettings_fails failed
      exact ⟨unchanged, path, .named named, fault⟩
  · next unnamed =>
      have ended := failed.of_lift_bind
      have outcome : (Machine.environment.isFile defaultSettingsFile).run before =
          (before.store.isFile defaultSettingsFile, before) := rfl
      rw [outcome] at ended
      split at ended
      · next isThere =>
          obtain ⟨unchanged, fault⟩ := loadSettings_fails ended
          exact ⟨unchanged, defaultSettingsFile, .usual unnamed isThere, fault⟩
      · exact absurd ended not_fails_pure

/-- A source of a run cannot be read: one of the files, wherever it stands
among them, or the standard input. -/
inductive SourceFault (machine : Machine) : List String → ToolError → Prop
  | input {problem : FileProblem} :
      machine.input.read = .error problem →
      SourceFault machine [] (.file ⟨inputName, problem⟩)
  | file {earlier later : List String} {path : String}
      {problem : FileProblem} :
      Catalogue.isHelperModule path = false →
      machine.store.read path = .error problem →
      SourceFault machine (earlier ++ path :: later) (.file ⟨path, problem⟩)

theorem SourceFault.of_warned {warnings : List Warning} {paths : List String}
    (fault : SourceFault (before.warned warnings) paths error) :
    SourceFault before paths error := by
  cases fault with
  | input unread => exact .input unread
  | file own unread => exact .file own unread

theorem SourceFault.behind {path : String} {paths : List String}
    (fault : SourceFault before paths error) (named : paths ≠ []) :
    SourceFault before (path :: paths) error := by
  cases fault with
  | input unread => exact absurd rfl named
  | @file earlier later faulty problem own unread =>
      have extended : SourceFault before ((path :: earlier) ++ faulty :: later)
          (.file ⟨faulty, problem⟩) := .file own unread
      exact extended

theorem readFiles_fails {paths : List String}
    (failed : Fails (readFiles Machine.environment paths) before error after) :
    OnlyWarns before after ∧ paths ≠ [] ∧ SourceFault before paths error := by
  induction paths generalizing before with
  | nil => exact absurd failed not_fails_pure
  | cons path paths inductionHypothesis =>
      rw [readFiles] at failed
      split at failed
      · have rest := failed.of_lift_bind
        obtain ⟨warned, named, fault⟩ := inductionHypothesis rest
        have same : SourceFault before paths error := fault.of_warned
        exact ⟨(onlyWarns_warned [.helperSource path] before).trans warned,
          List.cons_ne_nil path paths, same.behind named⟩
      · next own =>
          rcases failed.of_bind with first | ⟨text, middle, first, rest⟩
          · obtain ⟨rfl, problem, unread, rfl⟩ := readFile_fails first
            have fault : SourceFault after ([] ++ path :: paths)
                (.file ⟨path, problem⟩) :=
              .file (Bool.eq_false_iff.mpr own) unread
            exact ⟨.refl after, List.cons_ne_nil path paths, fault⟩
          · obtain ⟨rfl, _⟩ := readFile_reads first
            rcases rest.of_bind with later | ⟨sources, last, _, ended⟩
            · obtain ⟨warned, named, fault⟩ := inductionHypothesis later
              exact ⟨warned, List.cons_ne_nil path paths, fault.behind named⟩
            · exact absurd ended not_fails_pure

theorem readSources_fails {files : List String}
    (failed : Fails (readSources Machine.environment files) before error after) :
    OnlyWarns before after ∧ SourceFault before files error := by
  unfold readSources at failed
  split at failed
  · next unnamed =>
      have ended := failed.of_lift_bind
      cases held : before.input.read with
      | ok text =>
          have outcome : Machine.environment.readInput.run before =
              (.ok text, before) := congrArg (·, before) held
          rw [outcome] at ended
          exact absurd ended not_fails_pure
      | error problem =>
          have outcome : Machine.environment.readInput.run before =
              (.error problem, before) := congrArg (·, before) held
          rw [outcome] at ended
          obtain ⟨rfl, rfl⟩ := fails_throw ended
          rw [List.isEmpty_iff.mp unnamed]
          exact ⟨.refl after, .input held⟩
  · obtain ⟨warned, _, fault⟩ := readFiles_fails failed
    exact ⟨warned, fault⟩

/-! ## Deeds -/

/-- Why one deed fails: it is to stop, or to write what cannot be written. -/
inductive DeedFault (machine : Machine) : Deed → ToolError → Prop
  | stopped {error : ToolError} : DeedFault machine (.stop error) error
  | unwritten {path content : String} {problem : FileError} :
      machine.store.write path content = .error problem →
      DeedFault machine (.write path content) (.file problem)

theorem perform_fails {deed : Deed}
    (failed : Fails (perform Machine.environment deed) before error after) :
    after = before ∧ DeedFault before deed error := by
  cases deed with
  | print text => exact absurd failed not_fails_lift
  | report text => exact absurd failed not_fails_lift
  | warn warning => exact absurd failed not_fails_lift
  | write path content =>
      have ended := failed.of_lift_bind
      cases wrote : before.store.write path content with
      | ok store =>
          have outcome : (Machine.environment.write path content).run before =
              (.ok (), { before with store := store }) := by
            change before.write path content = _
            rw [Machine.write, wrote]
          rw [outcome] at ended
          exact absurd ended not_fails_pure
      | error problem =>
          have outcome : (Machine.environment.write path content).run before =
              (.error problem, before) := by
            change before.write path content = _
            rw [Machine.write, wrote]
          rw [outcome] at ended
          obtain ⟨rfl, unchanged⟩ := fails_throw ended
          exact ⟨unchanged, .unwritten wrote⟩
  | stop thrown =>
      obtain ⟨rfl, unchanged⟩ := fails_throw failed
      exact ⟨unchanged, .stopped⟩

theorem succeeds_performAll_cons {deed : Deed} {deeds : List Deed}
    {middle : Machine}
    (first : Succeeds (perform Machine.environment deed) before () middle)
    (rest : Succeeds (performAll Machine.environment deeds) middle () after) :
    Succeeds (performAll Machine.environment (deed :: deeds)) before () after := by
  unfold Succeeds at first rest ⊢
  rw [performAll, ExceptT.run_bind, StateT.run_bind, first]
  exact rest

/-- Deeds that are warnings do nothing else. -/
theorem onlyWarns_of_performAll {warnings : List Warning}
    (done : Succeeds (performAll Machine.environment (warnings.map .warn)) before ()
      after) : OnlyWarns before after := by
  induction warnings generalizing before with
  | nil =>
      obtain ⟨_, rfl⟩ := succeeds_pure done
      exact .refl after
  | cons warning warnings inductionHypothesis =>
      obtain ⟨_, middle, first, rest⟩ := done.of_bind
      cases succeeds_lift first
      exact (onlyWarns_warned [warning] before).trans (inductionHypothesis rest)

/-- Deeds fail at one of them, after all deeds before it are done. -/
theorem performAll_fails {deeds : List Deed}
    (failed : Fails (performAll Machine.environment deeds) before error after) :
    ∃ done deed later, deeds = done ++ deed :: later ∧
      Succeeds (performAll Machine.environment done) before () after ∧
      DeedFault after deed error := by
  induction deeds generalizing before with
  | nil => exact absurd failed not_fails_pure
  | cons deed deeds inductionHypothesis =>
      rcases failed.of_bind with first | ⟨_, middle, first, rest⟩
      · obtain ⟨rfl, fault⟩ := perform_fails first
        exact ⟨[], deed, deeds, rfl, rfl, fault⟩
      · obtain ⟨done, failing, later, rfl, performed, fault⟩ :=
          inductionHypothesis rest
        exact ⟨deed :: done, failing, later, rfl,
          succeeds_performAll_cons first performed, fault⟩

end VelocityScript.Session
