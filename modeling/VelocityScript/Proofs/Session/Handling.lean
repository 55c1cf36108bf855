import VelocityScript.Proofs.Session.Performing

/-!
# Handling one source

The deeds for a source are of one kind.  A clean source gives a deed for each of
its templates, which are all printed or all written, or a warning where a file
is to take its only template and there is none; any other source gives reports
only.
-/

namespace VelocityScript.Session

/-! ## Clean sources and their templates -/

section Sources

variable (configuration : Configuration) (sources : List SourceText)

/-- A source is clean if it has no diagnostics and, where checks are asked for,
no check of a template finds anything. -/
def IsClean (source : SourceText) : Prop :=
  (transpile configuration.target source).diagnostics = [] ∧
    (configuration.validate = true →
      ∀ file ∈ (transpile configuration.target source).files, file.check = [])

instance (source : SourceText) : Decidable (IsClean configuration source) :=
  inferInstanceAs (Decidable (_ ∧ _))

/-- The templates of a source, each with the name of its function. -/
def templates (source : SourceText) : List (String × String) :=
  (transpile configuration.target source).render configuration.layout

/-- The texts of the templates of a source. -/
def templateTexts (source : SourceText) : List String :=
  (templates configuration source).map Prod.snd

/-- The paths where the templates of one of the sources are written. -/
def templatePaths (source : SourceText) : List String :=
  match configuration.destination with
  | .output => []
  | .file path => (templates configuration source).map fun _ => path
  | .directory directory =>
      Output.plan directory (Output.baseDirectory (sources.map (·.path)))
        source.path ((templates configuration source).map Prod.fst)

/-- The templates of all clean sources. -/
def cleanTexts : List String :=
  (sources.filter fun source => IsClean configuration source).flatMap
    (templateTexts configuration)

/-- The writes for one of the sources: its templates, each with its path. -/
def templateWrites (source : SourceText) : List (String × String) :=
  (templatePaths configuration sources source).zip
    (templateTexts configuration source)

/-- The writes for all clean sources. -/
def cleanWrites : List (String × String) :=
  (sources.filter fun source => IsClean configuration source).flatMap
    (templateWrites configuration sources)

/-- The lines that report what the checks of a source have found. -/
def findingLines (source : SourceText) : List String :=
  if configuration.validate = true ∧
      (transpile configuration.target source).diagnostics = [] then
    (Job.ofSource configuration.target source).findings.map
      fun (name, finding) => Job.findingLine source.path name finding
  else
    []

/-- The diagnostics of the sources that have some. -/
def allDiagnostics : List Diagnostic :=
  (sources.filter fun source =>
      (transpile configuration.target source).diagnostics ≠ []).flatMap
    fun source => (transpile configuration.target source).diagnostics

/-- What there is to warn of where a file is to take the only template of a
source. -/
def emptyWarnings (source : SourceText) : List Warning :=
  match configuration.destination with
  | .file _ =>
      if templates configuration source = [] then
        [.noFunctions source.path]
      else
        []
  | _ => []

/-- The deeds for one of the sources. -/
def sourceDeeds (source : SourceText) : List Deed :=
  (Job.ofSource configuration.target source).deeds configuration
    (Output.baseDirectory (sources.map (·.path)))

end Sources

/-! ## The deeds for one source -/

section Handling

variable {configuration : Configuration} {sources : List SourceText}
  {source : SourceText}

theorem findings_eq_nil_iff (target : Target) (source : SourceText) :
    (Job.ofSource target source).findings = [] ↔
      ∀ file ∈ (transpile target source).files, file.check = [] := by
  simp [Job.findings, Job.ofSource]

theorem isClean_ofSource (configuration : Configuration) (source : SourceText) :
    (Job.ofSource configuration.target source).isClean configuration = true ↔
      IsClean configuration source := by
  have found := findings_eq_nil_iff configuration.target source
  have silent : (Job.ofSource configuration.target source).outcome.isClean = true ↔
      (transpile configuration.target source).diagnostics = [] :=
    List.isEmpty_iff
  unfold Job.isClean IsClean
  rw [Bool.and_eq_true, Bool.or_eq_true, List.isEmpty_iff, found, silent]
  cases configuration.validate with
  | true => simp
  | false => simp

/-- What the deeds for a source are: one for each of its templates or a warning
that there is none where it is clean, and nothing but reports where it is not. -/
inductive Handling (configuration : Configuration) (sources : List SourceText)
    (source : SourceText) : List Deed → Prop
  | printing :
      IsClean configuration source →
      configuration.destination = .output →
      Handling configuration sources source
        ((templateTexts configuration source).map
          fun text => .print (text ++ "\n"))
  | writing :
      IsClean configuration source →
      configuration.destination ≠ .output →
      (∀ path, configuration.destination = .file path →
        (templateTexts configuration source).length = 1) →
      Handling configuration sources source
        ((templateWrites configuration sources source).map
          fun write => .write write.1 write.2)
  | idling {path : String} :
      IsClean configuration source →
      configuration.destination = .file path →
      templates configuration source = [] →
      Handling configuration sources source [.warn (.noFunctions source.path)]
  | reporting {lines : List String} :
      ¬ IsClean configuration source →
      (configuration.format = .json → lines = findingLines configuration source) →
      Handling configuration sources source (lines.map .report)

theorem findingLines_of_isClean (clean : IsClean configuration source) :
    findingLines configuration source = [] := by
  unfold findingLines
  split
  · next checked =>
      have none := (findings_eq_nil_iff configuration.target source).mpr
        (clean.2 checked.1)
      rw [none, List.map_nil]
  · rfl

/-- Checks that find something have been asked for. -/
theorem findingLines_of_not_isClean (unclean : ¬ IsClean configuration source)
    (silent : (transpile configuration.target source).diagnostics = []) :
    findingLines configuration source =
      (Job.ofSource configuration.target source).findings.map
        fun (name, finding) => Job.findingLine source.path name finding := by
  have checked : configuration.validate = true := by
    cases asked : configuration.validate with
    | true => rfl
    | false =>
        have clean : IsClean configuration source := by
          refine ⟨silent, fun checks => ?_⟩
          rw [asked] at checks
          cases checks
        exact absurd clean unclean
  rw [findingLines, if_pos ⟨checked, silent⟩]

/-- There is nothing to warn of unless a file is to take a template and there is
none. -/
theorem emptyWarnings_eq_nil
    (taken : ∀ path, configuration.destination = .file path →
      templates configuration source ≠ []) :
    emptyWarnings configuration source = [] := by
  unfold emptyWarnings
  split
  · next path destined => exact if_neg (taken path destined)
  · rfl

theorem handling_of_reports (unclean : ¬ IsClean configuration source) :
    Handling configuration sources source
      ((Job.ofSource configuration.target source).reports configuration) := by
  unfold Job.reports
  split
  · next silent =>
      have lines := findingLines_of_not_isClean unclean (List.isEmpty_iff.mp silent)
      have handled : Handling configuration sources source
          ((findingLines configuration source).map .report) :=
        .reporting unclean fun _ => rfl
      rw [lines, List.map_map] at handled
      exact handled
  · next complains =>
      have reported : (transpile configuration.target source).diagnostics ≠ [] :=
        fun empty => complains (List.isEmpty_iff.mpr empty)
      split
      · next plain =>
          have handled : Handling configuration sources source
              (((transpile configuration.target source).diagnostics.map
                (Diagnostic.excerpt (textLines source.text))).map .report) :=
            .reporting unclean fun json => by
              rw [plain] at json
              cases json
          rw [List.map_map] at handled
          exact handled
      · have handled : Handling configuration sources source
            (List.map .report []) :=
          .reporting unclean fun _ => by
            rw [findingLines, if_neg fun holds => reported holds.2]
        exact handled

theorem map_write_zip (paths : List String) (files : List (String × String)) :
    (paths.zip (files.map Prod.snd)).map
        (fun write => Deed.write write.1 write.2) =
      List.zipWith (fun path file => Deed.write path file.2) paths files := by
  rw [List.zip_map_right, List.map_map, ← List.map_uncurry_zip_eq_zipWith]
  rfl

/-- A file as the destination takes the only template of a source; without a
template there is a warning, and with several ones the run stops. -/
theorem handling_of_file {path : String} (clean : IsClean configuration source)
    (destined : configuration.destination = .file path)
    (unstopped : ∀ error, Deed.stop error ∉
      (Job.ofSource configuration.target source).emissions configuration
        (Output.baseDirectory (sources.map (·.path)))) :
    Handling configuration sources source
      ((Job.ofSource configuration.target source).emissions configuration
        (Output.baseDirectory (sources.map (·.path)))) := by
  have files : (Job.ofSource configuration.target source).outcome.render
      configuration.layout = templates configuration source := rfl
  have apart : configuration.destination ≠ .output := by
    rw [destined]
    exact nofun
  have handled (only : (templateTexts configuration source).length = 1) :
      Handling configuration sources source _ :=
    .writing clean apart fun _ _ => only
  simp only [templateWrites, templatePaths, templateTexts, destined,
    List.length_map] at handled
  simp only [Job.emissions, files, destined] at unstopped ⊢
  cases found : templates configuration source with
  | nil => exact .idling clean destined found
  | cons file others =>
      rw [found] at unstopped handled
      cases others with
      | nil => exact handled rfl
      | cons other more =>
          exact absurd (List.mem_singleton_self _) (unstopped _)

theorem handling_of_emissions (clean : IsClean configuration source)
    (unstopped : ∀ error, Deed.stop error ∉
      (Job.ofSource configuration.target source).emissions configuration
        (Output.baseDirectory (sources.map (·.path)))) :
    Handling configuration sources source
      ((Job.ofSource configuration.target source).emissions configuration
        (Output.baseDirectory (sources.map (·.path)))) := by
  cases destined : configuration.destination with
  | output =>
      have handled : Handling configuration sources source _ :=
        .printing clean destined
      rw [templateTexts, List.map_map] at handled
      simp only [Job.emissions, destined]
      exact handled
  | file path => exact handling_of_file clean destined unstopped
  | directory directory =>
      have apart : configuration.destination ≠ .output := by
        rw [destined]
        exact nofun
      have handled : Handling configuration sources source _ :=
        .writing clean apart fun path goes => by
          rw [destined] at goes
          cases goes
      simp only [templateWrites, templatePaths, templateTexts, destined,
        map_write_zip] at handled
      simp only [Job.emissions, destined]
      exact handled

/-- Where a run does not stop, each source is handled. -/
theorem handling_of_sourceDeeds
    (unstopped : ∀ error, Deed.stop error ∉ sourceDeeds configuration sources source) :
    Handling configuration sources source
      (sourceDeeds configuration sources source) := by
  unfold sourceDeeds Job.deeds at *
  by_cases clean : IsClean configuration source
  · rw [if_pos ((isClean_ofSource configuration source).mpr clean)] at unstopped ⊢
    exact handling_of_emissions clean unstopped
  · rw [if_neg (mt (isClean_ofSource configuration source).mp clean)]
    exact handling_of_reports clean

/-! ## What the deeds for one source print, write and report -/

theorem filterMap_map_of_none {Item Result : Type} {project : Deed → Option Result}
    {deed : Item → Deed} (apart : ∀ item, project (deed item) = none)
    (items : List Item) : (items.map deed).filterMap project = [] := by
  rw [List.filterMap_map, List.filterMap_eq_nil_iff]
  exact fun item _ => apart item

theorem filterMap_map_of_some {Item Result : Type} {project : Deed → Option Result}
    {deed : Item → Deed} {made : Item → Result}
    (kept : ∀ item, project (deed item) = some (made item)) (items : List Item) :
    (items.map deed).filterMap project = items.map made := by
  have same : project ∘ deed = fun item => some (made item) := funext kept
  rw [List.filterMap_map, same, List.filterMap_eq_map']

namespace Handling

variable {deeds : List Deed}

theorem printed (handled : Handling configuration sources source deeds) :
    deeds.filterMap Deed.printed? =
      if IsClean configuration source ∧ configuration.destination = .output then
        (templateTexts configuration source).map (· ++ "\n")
      else
        [] := by
  cases handled with
  | printing clean destined =>
      rw [if_pos ⟨clean, destined⟩]
      apply filterMap_map_of_some
      exact fun _ => rfl
  | writing clean destined only =>
      rw [if_neg fun holds => destined holds.2]
      exact filterMap_map_of_none (fun _ => rfl) _
  | idling clean destined none =>
      rw [destined, if_neg fun holds => nomatch holds.2]
      rfl
  | reporting unclean lines =>
      rw [if_neg fun holds => unclean holds.1]
      exact filterMap_map_of_none (fun _ => rfl) _

theorem written (handled : Handling configuration sources source deeds) :
    deeds.filterMap Deed.written? =
      if IsClean configuration source then
        templateWrites configuration sources source
      else
        [] := by
  cases handled with
  | printing clean destined =>
      rw [if_pos clean, templateWrites, templatePaths, destined, List.zip_nil_left]
      exact filterMap_map_of_none (fun _ => rfl) _
  | writing clean destined only =>
      have kept (write : String × String) :
          Deed.written? (.write write.1 write.2) = some write := rfl
      rw [if_pos clean, filterMap_map_of_some kept, List.map_id']
  | idling clean destined none =>
      rw [if_pos clean, templateWrites, templateTexts, none, List.map_nil,
        List.zip_nil_right]
      rfl
  | reporting unclean lines =>
      rw [if_neg unclean]
      exact filterMap_map_of_none (fun _ => rfl) _

theorem warned (handled : Handling configuration sources source deeds) :
    deeds.filterMap Deed.warned? =
      if IsClean configuration source then
        emptyWarnings configuration source
      else
        [] := by
  cases handled with
  | printing clean destined =>
      have silent : emptyWarnings configuration source = [] :=
        emptyWarnings_eq_nil fun path goes => by
          rw [destined] at goes
          cases goes
      rw [if_pos clean, silent]
      exact filterMap_map_of_none (fun _ => rfl) _
  | writing clean destined only =>
      have silent : emptyWarnings configuration source = [] :=
        emptyWarnings_eq_nil fun path goes none => by
          have one := only path goes
          rw [templateTexts, none] at one
          cases one
      rw [if_pos clean, silent]
      exact filterMap_map_of_none (fun _ => rfl) _
  | idling clean destined none =>
      rw [if_pos clean, emptyWarnings, destined]
      dsimp only
      rw [if_pos none]
      rfl
  | reporting unclean lines =>
      rw [if_neg unclean]
      exact filterMap_map_of_none (fun _ => rfl) _

theorem reported (json : configuration.format = .json)
    (handled : Handling configuration sources source deeds) :
    deeds.filterMap Deed.reported? = findingLines configuration source := by
  cases handled with
  | printing clean destined =>
      rw [findingLines_of_isClean clean]
      exact filterMap_map_of_none (fun _ => rfl) _
  | writing clean destined only =>
      rw [findingLines_of_isClean clean]
      exact filterMap_map_of_none (fun _ => rfl) _
  | idling clean destined none => exact (findingLines_of_isClean clean).symm
  | reporting unclean lines =>
      have kept (line : String) : Deed.reported? (.report line) = some line := rfl
      rw [← lines json, filterMap_map_of_some kept, List.map_id']

/-- A file as the destination takes at most one template. -/
theorem single (handled : Handling configuration sources source deeds)
    (clean : IsClean configuration source) (path : String)
    (destined : configuration.destination = .file path) :
    (templateTexts configuration source).length ≤ 1 := by
  cases handled with
  | printing _ printed =>
      rw [destined] at printed
      cases printed
  | writing _ apart only => exact Nat.le_of_eq (only path destined)
  | idling _ _ none =>
      rw [templateTexts, none]
      exact Nat.zero_le 1
  | reporting unclean lines => exact absurd clean unclean

end Handling

end Handling

end VelocityScript.Session
