import VelocityScript.Proofs.Lowering.Transpilation
import VelocityScript.Proofs.Output.Distinctness
import VelocityScript.Proofs.Script.FunctionNames
import VelocityScript.Proofs.Session.Handling

/-!
# Templates that overwrite one another

All templates of a run that writes below a directory have paths of their own
exactly if no two functions of one source have the same name and no two sources
clash.  The extension of a source is no part of the paths of its templates, so
that sources which differ in it alone can clash.
-/

namespace VelocityScript.Session

open Lowering Script

/-- The names of the templates of a source. -/
def templateNames (configuration : Configuration) (source : SourceText) :
    List String :=
  (templates configuration source).map Prod.fst

/-- A source with the names of its templates. -/
def originOf (configuration : Configuration) (source : SourceText) :
    Output.Origin :=
  ⟨source.path, templateNames configuration source⟩

section Names

variable {configuration : Configuration} {source : SourceText}

theorem isWord_templateName {declared : FunctionDeclaration}
    (named : declared.IsNamed) : isWord (templateName declared) = true := by
  unfold templateName
  cases found : declared.name with
  | none => decide
  | some name => exact named name found

/-- The templates of a clean source are named after the functions that its text
declares. -/
theorem templateNames_of_clean
    (clean : (transpile configuration.target source).diagnostics = []) :
    ∃ script, parse source.text = .ok script ∧
      templateNames configuration source =
        (implementations script.items).map templateName := by
  obtain ⟨script, parsed, files⟩ := files_follow_declarations clean
  refine ⟨script, parsed, ?_⟩
  have names : List.Forall₂ (fun declared file => templateName declared = file.name)
      (implementations script.items)
      (transpile configuration.target source).files :=
    files.imp fun _ _ made => made.1.symm
  have same : (implementations script.items).map templateName =
      (transpile configuration.target source).files.map (·.name) := by
    rw [← List.forall₂_eq_eq_eq, List.forall₂_map_left_iff, List.forall₂_map_right_iff]
    exact names
  rw [same, templateNames, templates, Transpiled.render, List.map_map]
  rfl

theorem isPlain_of_isWord {name : String} (word : isWord name = true) :
    '/' ∉ name.toList ∧ name.toList ≠ ['.'] := by
  have parts := isNamePart_of_isWord word
  constructor
  · intro separated
    have part := parts '/' separated
    revert part
    decide
  · intro dot
    have part := parts '.' (by rw [dot]; exact List.mem_cons_self)
    revert part
    decide

theorem isPlain_originOf
    (clean : (transpile configuration.target source).diagnostics = []) :
    (originOf configuration source).IsPlain := by
  obtain ⟨script, parsed, names⟩ := templateNames_of_clean clean
  intro name member
  have listed : name ∈ templateNames configuration source := member
  rw [names] at listed
  obtain ⟨declared, implemented, rfl⟩ := List.mem_map.mp listed
  obtain ⟨item, inItems, kept⟩ := List.mem_filterMap.mp implemented
  have named := parse_isNamed parsed item inItems
  cases item with
  | function found =>
      dsimp only at kept
      split at kept
      · injection kept with kept
        rw [← kept]
        exact isPlain_of_isWord (isWord_templateName named)
      · cases kept
  | _ => cases kept

theorem templatePaths_of_directory {directory : String}
    (destined : configuration.destination = .directory directory)
    (sources : List SourceText) (source : SourceText) :
    (templatePaths configuration sources source).map Output.componentsOf =
      (originOf configuration source).planned directory
        (sources.map (·.path)) := by
  unfold templatePaths Output.Origin.planned
  rw [destined]
  rfl

end Names

/-- The templates of clean sources have paths of their own exactly if the
functions of each source have names of their own and no two sources clash. -/
theorem templates_have_own_paths_iff {configuration : Configuration}
    {sources : List SourceText} {directory : String}
    (destined : configuration.destination = .directory directory)
    (clean : ∀ source ∈ sources,
      (transpile configuration.target source).diagnostics = [])
    (apart : (sources.map fun source => Output.componentsOf source.path).Nodup)
    (named : ∀ source ∈ sources,
      (Output.Path.fileName? source.path.toList).isSome = true) :
    ((sources.flatMap (templatePaths configuration sources)).map
        Output.componentsOf).Nodup ↔
      (∀ source ∈ sources, (templateNames configuration source).Nodup) ∧
        sources.Pairwise fun first second =>
          ¬ Output.Clash directory (sources.map (·.path))
            (originOf configuration first) (originOf configuration second) := by
  have proper : ∀ origin ∈ sources.map (originOf configuration),
      origin.IsProper (sources.map (·.path)) := by
    intro origin member
    obtain ⟨source, inSources, rfl⟩ := List.mem_map.mp member
    exact
      { listed := List.mem_map_of_mem inSources
        named := named source inSources
        plain := isPlain_originOf (clean source inSources) }
  have different : ((sources.map (originOf configuration)).map fun origin =>
      Output.componentsOf origin.source).Nodup := by
    rw [List.map_map]
    exact apart
  have whole := Output.nodup_planned_paths_iff directory proper different
  rw [List.map_flatMap]
  simp only [templatePaths_of_directory destined]
  rw [List.flatMap_map, List.forall_mem_map, List.pairwise_map] at whole
  exact whole

/-- Two sources of one directory, of which the first one has two functions. -/
def twoSources : List SourceText :=
  [⟨"src/a.ts", "export function f() \x7b\x7d export default function () \x7b\x7d"⟩,
    ⟨"src/b.ts", "export default function () \x7b\x7d"⟩]

/-- Two sources whose paths differ in their extension only. -/
def clashingSources : List SourceText :=
  [⟨"a.ts", "export function f() \x7b return 1; \x7d"⟩,
    ⟨"a.js", "export function f() \x7b return 2; \x7d"⟩]

/-- A source with two functions of one name. -/
def doubledSource : List SourceText :=
  [⟨"a.ts", "export function f() \x7b\x7d export function f() \x7b\x7d"⟩]

/-- The configuration of a run that writes templates below a directory. -/
def writingTo (directory : String) : Configuration where
  target := .appsync
  layout := {}
  destination := .directory directory
  validate := false
  format := .text

theorem templates_have_own_paths_iff_two_sources :
    (∀ source ∈ twoSources,
      (transpile (writingTo "out").target source).diagnostics = []) ∧
    (twoSources.map fun source => Output.componentsOf source.path).Nodup ∧
    (∀ source ∈ twoSources,
      (Output.Path.fileName? source.path.toList).isSome = true) ∧
    twoSources.flatMap (templatePaths (writingTo "out") twoSources) =
      ["out/a/f.vtl", "out/a/default.vtl", "out/b.vtl"] ∧
    twoSources.Pairwise fun first second =>
      ¬ Output.Clash "out" (twoSources.map (·.path))
        (originOf (writingTo "out") first) (originOf (writingTo "out") second) := by
  have clean : ∀ source ∈ twoSources,
      (transpile (writingTo "out").target source).diagnostics = [] := by
    decide +kernel
  have apart : (twoSources.map fun source =>
      Output.componentsOf source.path).Nodup := by
    decide +kernel
  have named : ∀ source ∈ twoSources,
      (Output.Path.fileName? source.path.toList).isSome = true := by
    decide +kernel
  have paths : twoSources.flatMap (templatePaths (writingTo "out") twoSources) =
      ["out/a/f.vtl", "out/a/default.vtl", "out/b.vtl"] := by
    decide +kernel
  have own := templates_have_own_paths_iff rfl clean apart named
  rw [paths] at own
  have unclashed := own.mp (by decide +kernel)
  exact ⟨clean, apart, named, paths, unclashed.2⟩

/-- Clean sources with paths of their own do not have all their templates at
paths of their own. -/
structure Overwrites (configuration : Configuration) (sources : List SourceText) :
    Prop where
  clean : ∀ source ∈ sources,
    (transpile configuration.target source).diagnostics = []
  apart : (sources.map fun source => Output.componentsOf source.path).Nodup
  named : ∀ source ∈ sources,
    (Output.Path.fileName? source.path.toList).isSome = true
  together : ¬ ((sources.flatMap (templatePaths configuration sources)).map
    Output.componentsOf).Nodup

theorem templates_overwrite_one_another :
    Overwrites (writingTo "out") clashingSources ∧
      Overwrites (writingTo "out") doubledSource := by
  have twice : ¬ ((["out/a/f.vtl", "out/a/f.vtl"] : List String).map
      Output.componentsOf).Nodup := by
    simp
  have clashing : clashingSources.flatMap
      (templatePaths (writingTo "out") clashingSources) =
        ["out/a/f.vtl", "out/a/f.vtl"] := by
    decide +kernel
  have doubled : doubledSource.flatMap
      (templatePaths (writingTo "out") doubledSource) =
        ["out/a/f.vtl", "out/a/f.vtl"] := by
    decide +kernel
  constructor
  · refine ⟨by decide +kernel, by decide +kernel, by decide +kernel, ?_⟩
    rw [clashing]
    exact twice
  · refine ⟨by decide +kernel, by decide +kernel, by decide +kernel, ?_⟩
    rw [doubled]
    exact twice

end VelocityScript.Session
