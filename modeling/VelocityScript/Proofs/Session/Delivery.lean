import VelocityScript.Proofs.Lowering.Transpilation
import VelocityScript.Proofs.Session.Configuring
import VelocityScript.Proofs.Session.Gathering
import VelocityScript.Proofs.Session.Handling

/-!
# What a run delivers

A run that ends with a verdict has put the templates of its clean sources where
they go, in the order of the sources, and has done nothing for the others.
-/

namespace VelocityScript.Session

open Lowering

/-- What a run has delivered for its sources, which come from the given files. -/
structure Delivered (configuration : Configuration) (files : List String)
    (sources : List SourceText) (before after : Machine) : Prop where
  /-- The templates of a clean source are those of its functions, in the order
  of their declarations. -/
  declared : ∀ source ∈ sources, IsClean configuration source →
    ∃ script, Script.parse source.text = .ok script ∧
      List.Forall₂ (fun function file =>
          file.name = templateName function ∧ file.origin = some function.span)
        (implementations script.items)
        (transpile configuration.target source).files
  /-- The standard output has the templates, each on lines of its own. -/
  printed : configuration.destination = .output →
    after.output = before.output ++
      String.join ((cleanTexts configuration sources).map (· ++ "\n"))
  unprinted : configuration.destination ≠ .output →
    after.output = before.output
  /-- The writes have the templates, and the files are those after the writes:
  every other file is as before. -/
  complete : configuration.destination ≠ .output →
    (cleanWrites configuration sources).map Prod.snd =
      cleanTexts configuration sources
  stored : FileStore.Written before.store (cleanWrites configuration sources)
    after.store
  /-- A file as the destination takes one template at most. -/
  single : ∀ path, configuration.destination = .file path →
    (cleanTexts configuration sources).length ≤ 1
  /-- The report in JSON has the diagnostics of all sources, after the lines for
  what the checks have found.  Warnings are kept apart from it. -/
  reported : configuration.format = .json →
    after.errors = before.errors ++
      String.join (sources.flatMap (findingLines configuration)) ++
      Diagnostic.report (allDiagnostics configuration sources) ++ "\n"
  /-- There are warnings for files of helper libraries, for imports and for a
  file that gets no template.  Those for imports come in any order, as the
  sources can be transpiled at the same time. -/
  warned : ∃ imports, imports.Perm (sources.flatMap importWarnings) ∧
    after.warnings =
      before.warnings ++ helperWarnings files ++ imports ++
        (sources.filter fun source => IsClean configuration source).flatMap
          (emptyWarnings configuration)

/-! ## The deeds of a run -/

theorem flatMap_ite {Item Result : Type} (chosen : Item → Prop)
    [DecidablePred chosen] (made : Item → List Result) (items : List Item) :
    (items.flatMap fun item => if chosen item then made item else []) =
      (items.filter fun item => chosen item).flatMap made := by
  induction items with
  | nil => rfl
  | cons item items inductionHypothesis =>
      by_cases holds : chosen item
      · rw [List.flatMap_cons, if_pos holds, inductionHypothesis,
          List.filter_cons_of_pos (by simpa using holds), List.flatMap_cons]
      · rw [List.flatMap_cons, if_neg holds, inductionHypothesis,
          List.filter_cons_of_neg (by simpa using holds), List.nil_append]

theorem length_plan (directory base path : String) (names : List String) :
    (Output.plan directory base path names).length = names.length := by
  unfold Output.plan
  by_cases only : names = ["default"]
  · rw [if_pos only, only, List.length_singleton, List.length_singleton]
  · rw [if_neg only, List.length_map]

section Delivery

variable {configuration : Configuration} {sources : List SourceText}

/-- Files get all templates of the clean sources, one at each path. -/
theorem map_cleanWrites (destined : configuration.destination ≠ .output) :
    (cleanWrites configuration sources).map Prod.snd =
      cleanTexts configuration sources := by
  unfold cleanWrites cleanTexts
  rw [List.map_flatMap]
  apply List.flatMap_congr
  intro source _
  apply List.map_snd_zip
  unfold templatePaths templateTexts
  rw [List.length_map]
  cases goes : configuration.destination with
  | output => exact absurd goes destined
  | file path => simp only [List.length_map, Nat.le_refl]
  | directory directory => simp only [length_plan, List.length_map, Nat.le_refl]

/-- The deeds of a run are warnings for imports, those for its sources, and a
report at the end. -/
theorem deeds_ofSource (configuration : Configuration) (sources : List SourceText) :
    deeds configuration (sources.map (Job.ofSource configuration.target)) =
      (sources.flatMap importWarnings).map .warn ++
        sources.flatMap (sourceDeeds configuration sources) ++
        finalReport configuration
          (sources.map (Job.ofSource configuration.target)) := by
  unfold deeds importDeeds
  dsimp only
  rw [List.flatMap_map, List.flatMap_map, List.map_map, List.map_flatMap]
  rfl

theorem filterMap_finalReport {Result : Type} {project : Deed → Option Result}
    (apart : ∀ text, project (.report text) = none) (jobs : List Job) :
    (finalReport configuration jobs).filterMap project = [] := by
  unfold finalReport
  split
  · rfl
  · rw [List.filterMap_cons, apart, List.filterMap_nil]

/-- What is printed or written is that for the sources. -/
theorem filterMap_deeds {Result : Type} {project : Deed → Option Result}
    (apart : ∀ text, project (.report text) = none)
    (silent : ∀ warning, project (.warn warning) = none) :
    (deeds configuration (sources.map (Job.ofSource configuration.target))).filterMap
        project =
      sources.flatMap fun source =>
        (sourceDeeds configuration sources source).filterMap project := by
  rw [deeds_ofSource, List.filterMap_append, List.filterMap_append,
    filterMap_map_of_none silent, filterMap_finalReport apart, List.nil_append,
    List.append_nil, List.filterMap_flatMap]

/-- What is reported at the end, in JSON. -/
theorem finalReport_of_json (json : configuration.format = .json) :
    finalReport configuration (sources.map (Job.ofSource configuration.target)) =
      [.report (Diagnostic.report (allDiagnostics configuration sources) ++ "\n")] := by
  have same : (sources.map (Job.ofSource configuration.target)).flatMap
      (·.outcome.diagnostics) = allDiagnostics configuration sources := by
    rw [List.flatMap_map, allDiagnostics, ← flatMap_ite]
    apply List.flatMap_congr
    intro source _
    split
    · rfl
    · next silent => exact not_not.mp silent
  unfold finalReport
  rw [json, same]

/-- The deeds of a run handle its sources if none of them is to stop. -/
theorem handling_of_unstopped
    (unstopped : ∀ error, Deed.stop error ∉
      deeds configuration (sources.map (Job.ofSource configuration.target))) :
    ∀ source ∈ sources, Handling configuration sources source
      (sourceDeeds configuration sources source) := by
  intro source member
  apply handling_of_sourceDeeds
  intro error stopped
  apply unstopped error
  rw [deeds_ofSource, List.append_assoc]
  exact List.mem_append_right _
    (List.mem_append_left _ (List.mem_flatMap.mpr ⟨source, member, stopped⟩))

section Handled

variable (handled : ∀ source ∈ sources, Handling configuration sources source
  (sourceDeeds configuration sources source))

include handled

theorem printed_of_output (destined : configuration.destination = .output) :
    (deeds configuration (sources.map (Job.ofSource configuration.target))).filterMap
        Deed.printed? =
      (cleanTexts configuration sources).map (· ++ "\n") := by
  rw [filterMap_deeds (fun _ => rfl) fun _ => rfl, cleanTexts, List.map_flatMap,
    ← flatMap_ite]
  apply List.flatMap_congr
  intro source member
  rw [(handled source member).printed]
  simp only [destined, and_true]

theorem printed_of_not_output (destined : configuration.destination ≠ .output) :
    (deeds configuration (sources.map (Job.ofSource configuration.target))).filterMap
        Deed.printed? = [] := by
  rw [filterMap_deeds (fun _ => rfl) fun _ => rfl, List.flatMap_eq_nil_iff]
  intro source member
  rw [(handled source member).printed, if_neg fun holds => destined holds.2]

theorem written_eq_cleanWrites :
    (deeds configuration (sources.map (Job.ofSource configuration.target))).filterMap
        Deed.written? =
      cleanWrites configuration sources := by
  rw [filterMap_deeds (fun _ => rfl) fun _ => rfl, cleanWrites, ← flatMap_ite]
  exact List.flatMap_congr fun source member => (handled source member).written

theorem reported_of_json (json : configuration.format = .json) :
    (deeds configuration (sources.map (Job.ofSource configuration.target))).filterMap
        Deed.reported? =
      sources.flatMap (findingLines configuration) ++
        [Diagnostic.report (allDiagnostics configuration sources) ++ "\n"] := by
  have silent (warning : Warning) : Deed.reported? (.warn warning) = none := rfl
  rw [deeds_ofSource, finalReport_of_json json, List.filterMap_append,
    List.filterMap_append, filterMap_map_of_none silent, List.nil_append,
    List.filterMap_flatMap]
  congr 1
  exact List.flatMap_congr fun source member => (handled source member).reported json

theorem warned_eq_warnings :
    (deeds configuration (sources.map (Job.ofSource configuration.target))).filterMap
        Deed.warned? =
      sources.flatMap importWarnings ++
        (sources.filter fun source => IsClean configuration source).flatMap
          (emptyWarnings configuration) := by
  have kept (warning : Warning) : Deed.warned? (.warn warning) = some warning := rfl
  rw [deeds_ofSource, List.filterMap_append, List.filterMap_append,
    filterMap_map_of_some kept, filterMap_finalReport (fun _ => rfl), List.map_id',
    List.append_nil, List.filterMap_flatMap, ← flatMap_ite]
  congr 1
  exact List.flatMap_congr fun source member => (handled source member).warned

/-- One source, and at most one template of it. -/
theorem length_cleanTexts_le (fits : overfills configuration.destination sources = false)
    (path : String) (destined : configuration.destination = .file path) :
    (cleanTexts configuration sources).length ≤ 1 := by
  have few : sources.length ≤ 1 := by
    rw [destined] at fits
    simpa [overfills] using fits
  unfold cleanTexts
  cases sources with
  | nil => exact Nat.zero_le 1
  | cons source others =>
      have alone : others = [] := by simpa using few
      subst alone
      by_cases clean : IsClean configuration source
      · have short := (handled source List.mem_cons_self).single clean path destined
        rw [List.filter_cons_of_pos (by simpa using clean)]
        simpa using short
      · rw [List.filter_cons_of_neg (by simpa using clean)]
        exact Nat.zero_le 1

end Handled

/-- Where all deeds are done after the sources are read, the templates are
delivered. -/
theorem delivered_of_performed {files : List String} {before after : Machine}
    (fits : overfills configuration.destination sources = false)
    (performed : Performed
      (deeds configuration (sources.map (Job.ofSource configuration.target)))
      (before.warned (helperWarnings files)) after) :
    Delivered configuration files sources before after := by
  have handled := handling_of_unstopped performed.unstopped
  refine
    { declared := fun source _ clean => files_follow_declarations clean.1
      printed := fun destined => ?_
      unprinted := fun destined => ?_
      complete := map_cleanWrites
      stored := ?_
      single := length_cleanTexts_le handled fits
      reported := fun json => ?_
      warned := ⟨sources.flatMap importWarnings, List.Perm.refl _, ?_⟩ }
  · rw [performed.output, printed_of_output handled destined, Machine.warned]
  · rw [performed.output, printed_of_not_output handled destined, String.join_nil,
      String.append_empty, Machine.warned]
  · rw [← written_eq_cleanWrites handled]
    exact performed.store
  · rw [performed.errors, reported_of_json handled json, String.join_append,
      String.join_cons, String.join_nil, String.append_empty, String.append_assoc,
      String.append_assoc, Machine.warned]
  · rw [performed.warnings, warned_eq_warnings handled, ← List.append_assoc,
      Machine.warned]

end Delivery

/-! ## The run -/

theorem succeeds_given {Value : Type} {given : Except ToolError Value}
    {before after : Machine} {value : Value}
    (done : Succeeds (ExceptT.mk (pure given)) before value after) :
    given = .ok value ∧ after = before := by
  cases done
  exact ⟨rfl, rfl⟩

/-- What becomes of a command line whose arguments ask for a run. -/
theorem execute_eq {texts : List String} {arguments : Arguments}
    (requested : Arguments.read texts = .ok arguments) (machine : Machine) :
    Machine.execute texts machine =
      match (run Machine.environment arguments).run.run machine with
      | (.ok allClean, last) => (.finished allClean, last)
      | (.error error, last) =>
          (.failed error,
            { last with
              errors := last.errors ++ ("error: " ++ error.message ++ "\n") }) := by
  unfold Machine.execute Session.execute
  rw [requested]
  simp only [StateT.run_bind]
  generalize (run Machine.environment arguments).run.run machine = outcome
  obtain ⟨result, last⟩ := outcome
  cases result with
  | ok allClean => rfl
  | error error => rfl

/-- A command line that ends with exit code 0 or 1 is that of a run that
succeeds. -/
theorem succeeds_of_execute {texts : List String} {arguments : Arguments}
    {machine after : Machine} {ending : Ending}
    (requested : Arguments.read texts = .ok arguments)
    (executed : Machine.execute texts machine = (ending, after))
    (ended : ending.exitCode ≤ 1) :
    ∃ allClean, ending = .finished allClean ∧
      Succeeds (run Machine.environment arguments) machine allClean after := by
  rw [execute_eq requested] at executed
  split at executed
  · next allClean last found =>
      cases executed
      exact ⟨allClean, rfl, found⟩
  · cases executed
    exact absurd ended (Nat.not_succ_le_self 1)

theorem exitCode_finished (allClean : Bool) :
    (Ending.finished allClean).exitCode = 0 ↔ allClean = true := by
  cases allClean with
  | true => exact ⟨fun _ => rfl, fun _ => rfl⟩
  | false => exact ⟨nofun, nofun⟩

theorem all_isClean (configuration : Configuration) (sources : List SourceText) :
    (sources.map (Job.ofSource configuration.target)).all
        (·.isClean configuration) = true ↔
      ∀ source ∈ sources, IsClean configuration source := by
  simp only [List.all_map, List.all_eq_true, Function.comp_apply, isClean_ofSource]

/-- Three sources of which the second one has an error. -/
def threeSources : List SourceText :=
  [⟨"a.ts", "export default function (a) \x7b return [a, 2 + 3]; \x7d"⟩,
    ⟨"b.ts", "export default function () \x7b return ;"⟩,
    ⟨"c.ts", "export function f() \x7b return 1; \x7d"⟩]

def threeSettings : String :=
  "target: apigateway\nout_dir: templates\ngenerator:\n  strip_comments: true\n"

/-- The files of the three sources and of settings for them. -/
def threeFiles : Machine where
  store :=
    .ofFiles
      (("ts2vtl.yaml", threeSettings) ::
        threeSources.map fun source => (source.path, source.text))

end VelocityScript.Session
