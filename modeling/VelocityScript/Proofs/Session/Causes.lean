import VelocityScript.Proofs.Session.Failing
import VelocityScript.Proofs.Session.Delivery

/-!
# Tool errors

A command line that ends with exit code 2 has met a mistake in its arguments, a
fault in a file it reads, or a destination that cannot take the templates; or a
write has failed.  A write apart, the machine is as before, and all there is to
see is warnings and the message of the error.  The destination that is too small
for the functions of a source is noticed late, when templates are put where they
go, but then there is one source only, and nothing has been done for it.
-/

namespace VelocityScript.Session

variable {configuration : Configuration} {sources : List SourceText}

/-! ## Deeds that stop a run -/

/-- A file as the destination does not take the templates of a source. -/
structure Overflows (configuration : Configuration) (source : SourceText) :
    Prop where
  toFile : ∃ path, configuration.destination = .file path
  clean : IsClean configuration source
  several : 1 < (templates configuration source).length

/-- The error of a source with several functions. -/
def overflow (configuration : Configuration) (source : SourceText) : ToolError :=
  .severalFunctions source.path (templates configuration source).length

theorem stop_not_mem_reports {error : ToolError} {job : Job} :
    Deed.stop error ∉ job.reports configuration := by
  intro member
  unfold Job.reports at member
  split at member
  · obtain ⟨finding, _, same⟩ := List.mem_map.mp member
    cases same
  · split at member
    · obtain ⟨diagnostic, _, same⟩ := List.mem_map.mp member
      cases same
    · cases member

theorem stop_not_mem_finalReport {error : ToolError} {jobs : List Job} :
    Deed.stop error ∉ finalReport configuration jobs := by
  intro member
  unfold finalReport at member
  split at member
  · cases member
  · cases List.mem_singleton.mp member

theorem stop_not_mem_map_warn {error : ToolError} (warnings : List Warning) :
    Deed.stop error ∉ warnings.map Deed.warn := by
  intro member
  obtain ⟨warning, _, same⟩ := List.mem_map.mp member
  cases same

/-- Where emissions stop the run they do nothing else. -/
theorem emissions_of_stop {error : ToolError} {base : String}
    {source : SourceText} (clean : IsClean configuration source)
    (stopped : Deed.stop error ∈
      (Job.ofSource configuration.target source).emissions configuration base) :
    (Job.ofSource configuration.target source).emissions configuration base =
        [.stop (overflow configuration source)] ∧
      Overflows configuration source := by
  have files : (Job.ofSource configuration.target source).outcome.render
      configuration.layout = templates configuration source := rfl
  simp only [Job.emissions, files] at stopped ⊢
  cases destined : configuration.destination with
  | output =>
      rw [destined] at stopped
      obtain ⟨template, _, same⟩ := List.mem_map.mp stopped
      cases same
  | directory directory =>
      rw [destined] at stopped
      dsimp only at stopped
      rw [← map_write_zip] at stopped
      obtain ⟨write, _, same⟩ := List.mem_map.mp stopped
      cases same
  | file path =>
      rw [destined] at stopped
      cases found : templates configuration source with
      | nil =>
          rw [found] at stopped
          cases List.mem_singleton.mp stopped
      | cons first others =>
          cases others with
          | nil =>
              rw [found] at stopped
              cases List.mem_singleton.mp stopped
          | cons second more =>
              have several : 1 < (templates configuration source).length := by
                rw [found]
                exact Nat.one_lt_succ_succ more.length
              have overflows : Overflows configuration source :=
                ⟨⟨path, destined⟩, clean, several⟩
              refine ⟨?_, overflows⟩
              rw [overflow, found]
              rfl

theorem sourceDeeds_of_stop {error : ToolError} {source : SourceText}
    (stopped : Deed.stop error ∈ sourceDeeds configuration sources source) :
    sourceDeeds configuration sources source =
        [.stop (overflow configuration source)] ∧
      Overflows configuration source := by
  unfold sourceDeeds Job.deeds at stopped ⊢
  by_cases clean : IsClean configuration source
  · have used := (isClean_ofSource configuration source).mpr clean
    rw [if_pos used] at stopped ⊢
    exact emissions_of_stop clean stopped
  · have unused := mt (isClean_ofSource configuration source).mp clean
    rw [if_neg unused] at stopped
    exact absurd stopped stop_not_mem_reports

/-- A run that stops has one source, and stops at the first deed for it. -/
theorem deeds_of_stop {error : ToolError} {done later : List Deed}
    (fits : overfills configuration.destination sources = false)
    (listed : deeds configuration
        (sources.map (Job.ofSource configuration.target)) =
      done ++ .stop error :: later) :
    ∃ source, sources = [source] ∧ Overflows configuration source ∧
      error = overflow configuration source ∧
      done = (importWarnings source).map .warn := by
  rw [deeds_ofSource, List.append_assoc] at listed
  have stopped : Deed.stop error ∈
      sources.flatMap (sourceDeeds configuration sources) := by
    have member : Deed.stop error ∈
        (sources.flatMap importWarnings).map Deed.warn ++
          (sources.flatMap (sourceDeeds configuration sources) ++
            finalReport configuration
              (sources.map (Job.ofSource configuration.target))) := by
      rw [listed]
      exact List.mem_append_right done List.mem_cons_self
    rcases List.mem_append.mp member with first | rest
    · exact absurd first (stop_not_mem_map_warn _)
    · rcases List.mem_append.mp rest with early | last
      · exact early
      · exact absurd last stop_not_mem_finalReport
  obtain ⟨source, member, stops⟩ := List.mem_flatMap.mp stopped
  obtain ⟨whole, overflows⟩ := sourceDeeds_of_stop stops
  have alone : sources = [source] := by
    obtain ⟨path, destined⟩ := overflows.toFile
    rw [destined] at fits
    have few : sources.length ≤ 1 := by simpa [overfills] using fits
    obtain ⟨only, same⟩ := List.length_eq_one_iff.mp
      (Nat.le_antisymm few (List.length_pos_of_mem member))
    rw [same, List.mem_singleton] at member
    rw [same, member]
  rw [alone, List.flatMap_singleton, List.flatMap_singleton, ← alone, whole,
    List.singleton_append] at listed
  obtain ⟨same, stops, -⟩ :=
    (List.append_cons_inj_of_notMem (stop_not_mem_map_warn _)
      stop_not_mem_finalReport).mp listed
  injection stops with stops
  exact ⟨source, alone, overflows, stops.symm, same.symm⟩

/-! ## Why a command line fails -/

/-- The message with which a command line ends, where the wording is settled.  It
is left open what is said of a mistake in the arguments or in a settings file. -/
def Ending.notice? : Ending → Option String
  | .failed (.settings _) => none
  | .failed error => some ("error: " ++ error.message ++ "\n")
  | _ => none

theorem notice_of_failed {error : ToolError} {notice : String}
    (worded : (Ending.failed error).notice? = some notice) :
    notice = "error: " ++ error.message ++ "\n" := by
  cases error with
  | settings path => cases worded
  | file | conflictingOutputs | severalSources | severalFunctions =>
      cases worded
      rfl

/-- Why a command line ends with exit code 2, apart from a write that fails. -/
inductive Cause (texts : List String) (machine : Machine) : Ending → Prop
  | mistake :
      Arguments.read texts = .error .mistake →
      Cause texts machine (.refused .mistake)
  | settings {arguments : Arguments} {path : String} {error : ToolError} :
      Arguments.read texts = .ok arguments →
      UsesSettings machine.store arguments path →
      SettingsFault machine.store path error →
      Cause texts machine (.failed error)
  | outputs {arguments : Arguments} :
      Arguments.read texts = .ok arguments →
      arguments.outputFile.isSome →
      arguments.outputDirectory.isSome →
      Cause texts machine (.failed .conflictingOutputs)
  | source {arguments : Arguments} {error : ToolError} :
      Arguments.read texts = .ok arguments →
      SourceFault machine arguments.files error →
      Cause texts machine (.failed error)
  | sources {arguments : Arguments} {sources : List SourceText} :
      Arguments.read texts = .ok arguments →
      arguments.outputFile.isSome →
      Supplies machine arguments.files sources →
      1 < sources.length →
      Cause texts machine (.failed .severalSources)
  | functions {arguments : Arguments} {settings : Settings}
      {configuration : Configuration} {source : SourceText} :
      Arguments.read texts = .ok arguments →
      SettlesOn machine.store arguments settings →
      configure arguments settings = .ok configuration →
      Supplies machine arguments.files [source] →
      Overflows configuration source →
      Cause texts machine (.failed (overflow configuration source))

/-- A command line ends at a write that fails: all sources have been read and
all deeds before the write have been done. -/
inductive FailsToWrite (texts : List String) (machine : Machine) : Ending → Prop
  | intro {arguments : Arguments} {settings : Settings}
      {configuration : Configuration} {sources : List SourceText}
      {done later : List Deed} {path content : String} {middle : Machine}
      {error : FileError} :
      Arguments.read texts = .ok arguments →
      SettlesOn machine.store arguments settings →
      configure arguments settings = .ok configuration →
      Supplies machine arguments.files sources →
      overfills configuration.destination sources = false →
      deeds configuration (sources.map (Job.ofSource configuration.target)) =
        done ++ .write path content :: later →
      Succeeds (performAll Machine.environment done)
        (machine.warned (helperWarnings arguments.files)) () middle →
      middle.store.write path content = .error error →
      FailsToWrite texts machine (.failed (.file error))

theorem conflictingOutputs_of_configure {arguments : Arguments}
    {settings : Settings} {error : ToolError}
    (refused : configure arguments settings = .error error) :
    error = .conflictingOutputs ∧ arguments.outputFile.isSome ∧
      arguments.outputDirectory.isSome := by
  have destined : arguments.destination settings = .error error := by
    unfold configure at refused
    cases found : arguments.destination settings with
    | error other =>
        rw [found] at refused
        cases refused
        rfl
    | ok destination =>
        rw [found] at refused
        cases refused
  unfold Arguments.destination at destined
  split at destined
  · next file directory =>
      cases destined
      exact ⟨rfl, by rw [file]; rfl, by rw [directory]; rfl⟩
  all_goals cases destined

/-- Too many sources for a file can only come from the arguments. -/
theorem several_of_overfills {arguments : Arguments} {settings : Settings}
    (configured : configure arguments settings = .ok configuration)
    (overfilled : overfills configuration.destination sources = true) :
    arguments.outputFile.isSome ∧ 1 < sources.length := by
  have goes := (configure_eq_iff.mp configured).destination
  generalize configuration.destination = destination at overfilled goes
  cases goes with
  | file file alone =>
      rw [file]
      exact ⟨rfl, by simpa [overfills] using overfilled⟩
  | directory alone directory => cases overfilled
  | usual noFile noDirectory usual => cases overfilled
  | output noFile noDirectory unset => cases overfilled

theorem fails_given {Value : Type} {given : Except ToolError Value}
    {before after : Machine} {error : ToolError}
    (failed : Fails (ExceptT.mk (pure given)) before error after) :
    given = .error error ∧ after = before := by
  cases failed
  exact ⟨rfl, rfl⟩

/-- A run fails for one of the causes and leaves the machine as it is, apart from
warnings, or it fails to write. -/
theorem run_fails {texts : List String} {arguments : Arguments}
    {machine after : Machine} {error : ToolError}
    (requested : Arguments.read texts = .ok arguments)
    (failed : Fails (run Machine.environment arguments) machine error after) :
    (Cause texts machine (.failed error) ∧ OnlyWarns machine after) ∨
      FailsToWrite texts machine (.failed error) := by
  rcases failed.of_bind with settling | ⟨settings, _, settled, configuring⟩
  · obtain ⟨rfl, path, used, fault⟩ := findSettings_fails settling
    exact Or.inl ⟨.settings requested used fault, .refl after⟩
  obtain ⟨rfl, settles⟩ := findSettings_settles settled
  rcases configuring.of_bind with refused | ⟨configuration, start, given, gathering⟩
  · obtain ⟨conflicting, rfl⟩ := fails_given refused
    obtain ⟨rfl, file, directory⟩ := conflictingOutputs_of_configure conflicting
    exact Or.inl ⟨.outputs requested file directory, .refl after⟩
  obtain ⟨configured, rfl⟩ := succeeds_given given
  rcases gathering.of_bind with unread | ⟨sources, _, gathered, handling⟩
  · obtain ⟨warned, fault⟩ := readSources_fails unread
    exact Or.inl ⟨.source requested fault, warned⟩
  obtain ⟨rfl, supplied⟩ := readSources_supplies gathered
  have skipped := onlyWarns_warned (helperWarnings arguments.files) start
  split at handling
  · next overfilled =>
      obtain ⟨rfl, rfl⟩ := fails_throw handling
      obtain ⟨file, several⟩ := several_of_overfills configured overfilled
      exact Or.inl ⟨.sources requested file supplied several, skipped⟩
  · next fits =>
      have fits := Bool.eq_false_iff.mpr fits
      rcases handling.of_bind with performing | ⟨_, _, _, verdict⟩
      · obtain ⟨done, deed, later, listed, performed, fault⟩ :=
          performAll_fails performing
        cases fault with
        | stopped =>
            obtain ⟨source, rfl, overflows, rfl, rfl⟩ := deeds_of_stop fits listed
            exact Or.inl
              ⟨.functions requested settles configured supplied overflows,
                skipped.trans (onlyWarns_of_performAll performed)⟩
        | unwritten wrote =>
            exact Or.inr (.intro requested settles configured supplied fits
              listed performed wrote)
      · exact absurd verdict not_fails_pure

/-- A command line that ends with exit code 2, and not at a write that fails,
has one of the causes.  It has printed nothing and left all files and
directories as they were; warnings apart, only the message of the error has been
reported. -/
theorem tool_error_leaves_no_trace {texts : List String}
    {machine after : Machine} {ending : Ending}
    (executed : Machine.execute texts machine = (ending, after))
    (failed : ending.exitCode = 2)
    (written : ¬ FailsToWrite texts machine ending) :
    Cause texts machine ending ∧
      after.output = machine.output ∧
      after.store = machine.store ∧
      ∀ notice, ending.notice? = some notice →
        after.errors = machine.errors ++ notice := by
  cases requested : Arguments.read texts with
  | error refusal =>
      unfold Machine.execute Session.execute at executed
      rw [requested] at executed
      cases refusal with
      | help =>
          cases executed
          cases failed
      | version =>
          cases executed
          cases failed
      | mistake =>
          cases executed
          exact ⟨.mistake requested, rfl, rfl, nofun⟩
  | ok arguments =>
      rw [execute_eq requested] at executed
      split at executed
      · next allClean last _ =>
          cases executed
          cases allClean with
          | true => cases failed
          | false => cases failed
      · next error last found =>
          cases executed
          rcases run_fails requested found with ⟨cause, warnings, rfl⟩ | unwritten
          · refine ⟨cause, rfl, rfl, fun notice worded => ?_⟩
            rw [notice_of_failed worded]
            rfl
          · exact absurd unwritten written

/-- A source file with two functions. -/
def twoFunctions : Machine where
  store :=
    .ofFiles
      [("a.ts", "export function f() \x7b\x7d\nexport function g() \x7b\x7d")]

theorem tool_error_leaves_no_trace_of_two :
    (Machine.execute ["--out-file", "out.vtl", "a.ts"] twoFunctions).1 =
        .failed (.severalFunctions "a.ts" 2) ∧
      (Machine.execute ["--out-file", "out.vtl", "a.ts"] twoFunctions).2.output =
        "" ∧
      (Machine.execute ["--out-file", "out.vtl", "a.ts"] twoFunctions).2.store =
        twoFunctions.store := by
  have ended :
      (Machine.execute ["--out-file", "out.vtl", "a.ts"] twoFunctions).1 =
        .failed (.severalFunctions "a.ts" 2) := by
    decide +kernel
  have failed :
      (Machine.execute ["--out-file", "out.vtl", "a.ts"]
        twoFunctions).1.exitCode = 2 := by
    rw [ended]
    rfl
  have written : ¬ FailsToWrite ["--out-file", "out.vtl", "a.ts"] twoFunctions
      (Machine.execute ["--out-file", "out.vtl", "a.ts"] twoFunctions).1 := by
    rw [ended]
    exact nofun
  obtain ⟨_, silent, unchanged, _⟩ :=
    tool_error_leaves_no_trace (Prod.eta _).symm failed written
  exact ⟨ended, silent, unchanged⟩

end VelocityScript.Session
