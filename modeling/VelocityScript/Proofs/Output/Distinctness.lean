import Mathlib.Data.List.Nodup
import VelocityScript.Proofs.Output.Containment

/-!
# Where templates meet

The path of a template is a directory with a file name behind it: the template of
a default function alone stands beside other templates of its directory, with the
name of its source, and the ones of several functions have a directory of their
own, each with the name of its function.  So two templates meet where both their
directories and these names are the same.
-/

namespace VelocityScript.Output

/-- A source with the names of its templates. -/
structure Origin where
  source : String
  functions : List String

namespace Origin

variable (directory : String) (paths : List String) (origin : Origin)

/-- The components of the paths of all templates. -/
def planned : List (List Component) :=
  (plan directory (baseDirectory paths) origin.source origin.functions).map
    componentsOf

/-- Whether there is only a default function. -/
def IsAlone : Prop :=
  origin.functions = ["default"]

/-- The directory that several functions share. -/
def folder : List Component :=
  joined (componentsOf directory) (Path.retitled [] (place paths origin.source))

/-- The directory that a default function alone shares with others. -/
def surroundings : List Component :=
  joined (componentsOf directory) (place paths origin.source).dropLast

/-- The name of a source without its extension, if the source is not the base
itself. -/
def stem? : Option (List Char) :=
  match (place paths origin.source).getLast? with
  | some (.name name) => some (Path.stem name)
  | _ => none

/-- The names of functions are words: no separator stands in them, and they are
not mistaken for the directory itself. -/
def IsPlain : Prop :=
  ∀ name ∈ origin.functions, '/' ∉ name.toList ∧ name.toList ≠ ['.']

end Origin

/-- The template of a default function alone stands where another source has the
template of one of its functions. -/
structure Intrudes (directory : String) (paths : List String)
    (first second : Origin) (name : String) : Prop where
  alone : first.IsAlone
  several : ¬ second.IsAlone
  named : name ∈ second.functions
  spelled : first.stem? paths = some name.toList
  inside : first.surroundings directory paths = second.folder directory paths

/-- Two sources want one path for templates of theirs. -/
inductive Clash (directory : String) (paths : List String)
    (first second : Origin) : Prop
  | several {name : String} :
      ¬ first.IsAlone → ¬ second.IsAlone →
      name ∈ first.functions → name ∈ second.functions →
      first.folder directory paths = second.folder directory paths →
      Clash directory paths first second
  | alone {stem : List Char} :
      first.IsAlone → second.IsAlone →
      first.stem? paths = some stem → second.stem? paths = some stem →
      first.surroundings directory paths = second.surroundings directory paths →
      Clash directory paths first second
  | ahead {name : String} :
      Intrudes directory paths first second name →
      Clash directory paths first second
  | behind {name : String} :
      Intrudes directory paths second first name →
      Clash directory paths first second

/-! ## File names -/

theorem titled_extension (name : List Char) :
    Path.titled extension name =
      if Path.stem name = ['.'] then
        .parent
      else
        .name (Path.stem name ++ '.' :: extension) := by
  unfold Path.titled Path.renamed
  by_cases dot : Path.stem name = ['.']
  · rw [if_pos dot, if_pos dot, if_pos rfl]
  · have kept : extension ≠ [] := nofun
    have long : Path.stem name ++ '.' :: extension ≠ ['.', '.'] := by
      intro same
      have lengths := congrArg List.length same
      simp [extension] at lengths
    rw [if_neg dot, if_neg dot, if_neg kept, if_neg long]

theorem titled_extension_inj {first second : List Char} :
    Path.titled extension first = Path.titled extension second ↔
      Path.stem first = Path.stem second := by
  rw [titled_extension, titled_extension]
  constructor
  · intro same
    by_cases dot : Path.stem first = ['.']
    · rw [if_pos dot] at same
      split at same
      · next other => rw [dot, other]
      · cases same
    · rw [if_neg dot] at same
      split at same
      · cases same
      · injection same with same
        exact List.append_cancel_right same
  · intro same
    rw [same]

theorem titled_extension_eq_templateFile_iff {name : List Char} {function : String}
    (spelled : function.toList ≠ ['.']) :
    Path.titled extension name = .name (templateFile function) ↔
      Path.stem name = function.toList := by
  rw [titled_extension, templateFile]
  constructor
  · intro same
    split at same
    · cases same
    · injection same with same
      exact List.append_cancel_right same
  · intro same
    rw [same, if_neg spelled]

theorem templateFile_inj {first second : String} :
    templateFile first = templateFile second ↔ first = second := by
  constructor
  · intro same
    unfold templateFile at same
    exact String.toList_inj.mp (List.append_cancel_right same)
  · intro same
    rw [same]

/-- The path of a template in a directory says which function it is of. -/
theorem append_templateFile_inj {front other : List Component}
    {name function : String}
    (same : front ++ [.name (templateFile name)] =
      other ++ [.name (templateFile function)]) :
    front = other ∧ name = function := by
  obtain ⟨fronts, files⟩ := List.append_inj' same rfl
  have named := Component.name.inj (List.singleton_inj.mp files)
  exact ⟨fronts, templateFile_inj.mp named⟩

/-! ## Paths of templates -/

theorem joined_concat (path others : List Component) {component : Component}
    (step : component.isStep = true) :
    joined path (others ++ [component]) = joined path others ++ [component] := by
  by_cases empty : others = []
  · rw [empty, List.nil_append, joined_nil]
    by_cases nothing : path = []
    · rw [nothing, nil_joined]
      rfl
    · have relative : [component].head? ≠ some .root := by
        rintro starts
        cases starts
        cases step
      rw [joined_of_relative nothing relative, List.filter_singleton, step]
      rfl
  · exact joined_append empty (List.forall_mem_singleton.mpr step) path

/-- A source with a file name is the base of all paths, or it has its name at
the end of its place. -/
theorem place_cases {paths : List String} {source : String}
    (listed : source ∈ paths)
    (named : (Path.fileName? source.toList).isSome = true) :
    (place paths source = [] ∧
      componentsOf source = componentsOf (baseDirectory paths)) ∨
    ∃ front name, place paths source = front ++ [.name name] := by
  obtain ⟨name, found⟩ := Option.isSome_iff_exists.mp named
  have last := Path.fileName?_eq_some_iff.mp found
  obtain ⟨rest, whole⟩ := baseDirectory_isPrefix listed
  have behind : place paths source = rest := by
    rw [place, ← whole, List.drop_left]
  by_cases empty : rest = []
  · left
    rw [empty, List.append_nil] at whole
    exact ⟨behind.trans empty, whole.symm⟩
  · right
    obtain ⟨front, step, same⟩ := List.eq_nil_or_concat' rest |>.resolve_left empty
    rw [← componentsOf, ← whole, same, ← List.append_assoc,
      List.getLast?_concat] at last
    injection last with last
    exact ⟨front, name, by rw [behind, same, last]⟩

section Planned

variable {directory : String} {paths : List String} {origin : Origin}

theorem planned_of_alone {front : List Component} {name : List Char}
    (listed : origin.source ∈ paths) (alone : origin.IsAlone)
    (placed : place paths origin.source = front ++ [.name name]) :
    origin.planned directory paths =
      [origin.surroundings directory paths ++ [Path.titled extension name]] := by
  have lone : origin.functions = ["default"] := alone
  unfold Origin.planned Origin.surroundings
  rw [map_componentsOf_plan listed, lone, List.map_singleton, target, if_pos rfl,
    placed, List.dropLast_concat,
    ← joined_concat _ _ (Path.isStep_titled extension name)]
  unfold Path.retitled
  rw [List.getLast?_concat, List.dropLast_concat]

theorem planned_of_base (listed : origin.source ∈ paths) (alone : origin.IsAlone)
    (placed : place paths origin.source = []) :
    origin.planned directory paths = [componentsOf directory] := by
  have lone : origin.functions = ["default"] := alone
  have nothing : Path.retitled extension [] = [] := rfl
  unfold Origin.planned
  rw [map_componentsOf_plan listed, lone, List.map_singleton, target, if_pos rfl,
    placed, nothing, joined_nil]

theorem planned_of_several (listed : origin.source ∈ paths)
    (several : ¬ origin.IsAlone) (plain : origin.IsPlain) :
    origin.planned directory paths =
      origin.functions.map fun name =>
        origin.folder directory paths ++ [.name (templateFile name)] := by
  have many : origin.functions ≠ ["default"] := several
  unfold Origin.planned Origin.folder
  rw [map_componentsOf_plan listed]
  apply List.map_congr_left
  intro name member
  rw [target, if_neg many, components_templateFile (plain name member).1,
    joined_name, joined_concat _ _ rfl]

theorem stem?_of_place {front : List Component} {name : List Char}
    (placed : place paths origin.source = front ++ [.name name]) :
    origin.stem? paths = some (Path.stem name) := by
  unfold Origin.stem?
  rw [placed, List.getLast?_concat]

theorem stem?_of_base (placed : place paths origin.source = []) :
    origin.stem? paths = none := by
  unfold Origin.stem?
  rw [placed]
  rfl

end Planned

/-! ## Two sources -/

/-- Two sources have a template at one path. -/
def Meet (directory : String) (paths : List String) (first second : Origin) : Prop :=
  ∃ path ∈ first.planned directory paths, path ∈ second.planned directory paths

theorem Meet.symm {directory : String} {paths : List String} {first second : Origin}
    (meet : Meet directory paths first second) :
    Meet directory paths second first := by
  obtain ⟨path, inFirst, inSecond⟩ := meet
  exact ⟨path, inSecond, inFirst⟩

section Meeting

variable {directory : String} {paths : List String} {first second : Origin}
  (firstListed : first.source ∈ paths) (secondListed : second.source ∈ paths)

include firstListed secondListed

theorem several_meet_iff (firstSeveral : ¬ first.IsAlone)
    (secondSeveral : ¬ second.IsAlone) (firstPlain : first.IsPlain)
    (secondPlain : second.IsPlain) :
    Meet directory paths first second ↔
      first.folder directory paths = second.folder directory paths ∧
        ∃ name ∈ first.functions, name ∈ second.functions := by
  unfold Meet
  rw [planned_of_several firstListed firstSeveral firstPlain,
    planned_of_several secondListed secondSeveral secondPlain]
  constructor
  · rintro ⟨path, inFirst, inSecond⟩
    obtain ⟨name, member, rfl⟩ := List.mem_map.mp inFirst
    obtain ⟨other, otherMember, same⟩ := List.mem_map.mp inSecond
    obtain ⟨folders, rfl⟩ := append_templateFile_inj same
    exact ⟨folders.symm, other, member, otherMember⟩
  · rintro ⟨folders, name, inFirst, inSecond⟩
    refine ⟨_, List.mem_map_of_mem inFirst, ?_⟩
    rw [folders]
    exact List.mem_map_of_mem inSecond

theorem alone_meet_iff {firstFront secondFront : List Component}
    {firstName secondName : List Char}
    (firstAlone : first.IsAlone) (secondAlone : second.IsAlone)
    (firstPlaced : place paths first.source = firstFront ++ [.name firstName])
    (secondPlaced : place paths second.source = secondFront ++ [.name secondName]) :
    Meet directory paths first second ↔
      first.surroundings directory paths = second.surroundings directory paths ∧
        Path.stem firstName = Path.stem secondName := by
  unfold Meet
  rw [planned_of_alone firstListed firstAlone firstPlaced,
    planned_of_alone secondListed secondAlone secondPlaced, ← titled_extension_inj]
  constructor
  · rintro ⟨path, inFirst, inSecond⟩
    rw [List.mem_singleton] at inFirst inSecond
    rw [inFirst] at inSecond
    obtain ⟨around, files⟩ := List.append_inj' inSecond rfl
    exact ⟨around, List.singleton_inj.mp files⟩
  · rintro ⟨around, files⟩
    refine ⟨_, List.mem_singleton_self _, ?_⟩
    rw [around, files]
    exact List.mem_singleton_self _

theorem alone_meets_several_iff {front : List Component} {stem : List Char}
    (alone : first.IsAlone) (several : ¬ second.IsAlone) (plain : second.IsPlain)
    (placed : place paths first.source = front ++ [.name stem]) :
    Meet directory paths first second ↔
      ∃ name, Intrudes directory paths first second name := by
  unfold Meet
  rw [planned_of_alone firstListed alone placed,
    planned_of_several secondListed several plain]
  constructor
  · rintro ⟨path, inFirst, inSecond⟩
    rw [List.mem_singleton] at inFirst
    obtain ⟨name, member, same⟩ := List.mem_map.mp inSecond
    rw [inFirst] at same
    obtain ⟨inside, files⟩ := List.append_inj' same rfl
    have spelled := (titled_extension_eq_templateFile_iff (plain name member).2).mp
      (List.singleton_inj.mp files).symm
    refine ⟨name, alone, several, member, ?_, inside.symm⟩
    rw [stem?_of_place placed, spelled]
  · rintro ⟨name, _, _, member, spelled, inside⟩
    rw [stem?_of_place placed] at spelled
    injection spelled with spelled
    have files := (titled_extension_eq_templateFile_iff (plain name member).2).mpr
      spelled
    refine ⟨_, List.mem_singleton_self _, ?_⟩
    rw [inside, files]
    exact List.mem_map.mpr ⟨name, member, rfl⟩

/-- The base itself has the path of the output directory, and everything else
is put below it. -/
theorem base_meets_nothing (firstAlone : first.IsAlone)
    (firstPlaced : place paths first.source = [])
    (whole : componentsOf first.source = componentsOf (baseDirectory paths))
    (firstNamed : (Path.fileName? first.source.toList).isSome = true)
    (secondNamed : (Path.fileName? second.source.toList).isSome = true)
    (plain : second.IsPlain)
    (apart : componentsOf first.source ≠ componentsOf second.source) :
    ¬ Meet directory paths first second := by
  have based : baseDirectory paths ≠ "" := by
    intro nothing
    rw [nothing] at whole
    have empty := Path.components_eq_nil_iff.mp whole
    rw [empty] at firstNamed
    cases firstNamed
  have relative : (place paths second.source).head? ≠ some .root := by
    rw [ne_eq, head?_place_eq_root_iff]
    exact fun rooted => based rooted.2
  rintro ⟨path, inFirst, inSecond⟩
  rw [planned_of_base firstListed firstAlone firstPlaced, List.mem_singleton] at inFirst
  by_cases secondAlone : second.IsAlone
  · rcases place_cases secondListed secondNamed with
      ⟨_, same⟩ | ⟨front, name, placed⟩
    · exact apart (whole.trans same.symm)
    · rw [planned_of_alone secondListed secondAlone placed, List.mem_singleton,
        inFirst] at inSecond
      have unrooted : (place paths second.source).dropLast.head? ≠ some .root := by
        rw [placed] at relative ⊢
        rw [List.dropLast_concat]
        intro starts
        apply relative
        cases front with
        | nil => cases starts
        | cons first others => exact starts
      have lengths := congrArg List.length inSecond
      rw [List.length_append, Origin.surroundings] at lengths
      have more := length_le_joined (componentsOf directory) unrooted
      simp only [List.length_singleton] at lengths
      omega
  · rw [planned_of_several secondListed secondAlone plain, inFirst] at inSecond
    obtain ⟨name, _, same⟩ := List.mem_map.mp inSecond
    have unrooted : (Path.retitled [] (place paths second.source)).head? ≠
        some .root := mt (head?_retitled rfl _ _).mp relative
    have lengths := congrArg List.length same
    rw [List.length_append, Origin.folder] at lengths
    have more := length_le_joined (componentsOf directory) unrooted
    simp only [List.length_singleton] at lengths
    omega

end Meeting

/-- What is asked of a source: it is one of the paths, its path ends with a file
name, and the names of its templates are plain. -/
structure Origin.IsProper (paths : List String) (origin : Origin) : Prop where
  listed : origin.source ∈ paths
  named : (Path.fileName? origin.source.toList).isSome = true
  plain : origin.IsPlain

section Clashing

variable {directory : String} {paths : List String} {first second : Origin}

/-- A source with a default function alone meets another source with several
functions only inside its directory. -/
theorem meet_iff_intrudes (proper : first.IsProper paths)
    (otherProper : second.IsProper paths) (alone : first.IsAlone)
    (several : ¬ second.IsAlone)
    (apart : componentsOf first.source ≠ componentsOf second.source) :
    Meet directory paths first second ↔
      ∃ name, Intrudes directory paths first second name := by
  rcases place_cases proper.listed proper.named with
    ⟨placed, whole⟩ | ⟨front, stem, placed⟩
  · have never : ¬ Meet directory paths first second :=
      base_meets_nothing proper.listed otherProper.listed alone placed whole
        proper.named otherProper.named otherProper.plain apart
    constructor
    · exact fun meet => absurd meet never
    · rintro ⟨name, intrudes⟩
      have spelled := intrudes.spelled
      rw [stem?_of_base placed] at spelled
      cases spelled
  · exact alone_meets_several_iff proper.listed otherProper.listed alone several
      otherProper.plain placed

theorem alone_meet_iff_stem? (proper : first.IsProper paths)
    (otherProper : second.IsProper paths) (firstAlone : first.IsAlone)
    (secondAlone : second.IsAlone)
    (apart : componentsOf first.source ≠ componentsOf second.source) :
    Meet directory paths first second ↔
      first.surroundings directory paths = second.surroundings directory paths ∧
        ∃ stem, first.stem? paths = some stem ∧ second.stem? paths = some stem := by
  rcases place_cases proper.listed proper.named with
    ⟨placed, whole⟩ | ⟨front, name, placed⟩
  · have never : ¬ Meet directory paths first second :=
      base_meets_nothing proper.listed otherProper.listed firstAlone placed whole
        proper.named otherProper.named otherProper.plain apart
    rw [stem?_of_base placed]
    simp [never]
  · rcases place_cases otherProper.listed otherProper.named with
      ⟨otherPlaced, whole⟩ | ⟨otherFront, other, otherPlaced⟩
    · have never : ¬ Meet directory paths second first :=
        base_meets_nothing otherProper.listed proper.listed secondAlone otherPlaced
          whole otherProper.named proper.named proper.plain apart.symm
      have neither : ¬ Meet directory paths first second :=
        fun meet => never meet.symm
      rw [stem?_of_base otherPlaced]
      simp [neither]
    · rw [alone_meet_iff proper.listed otherProper.listed firstAlone secondAlone
        placed otherPlaced, stem?_of_place placed, stem?_of_place otherPlaced]
      simp [eq_comm]

/-- Different sources meet exactly where they clash. -/
theorem meet_iff_clash (proper : first.IsProper paths)
    (otherProper : second.IsProper paths)
    (apart : componentsOf first.source ≠ componentsOf second.source) :
    Meet directory paths first second ↔ Clash directory paths first second := by
  by_cases firstAlone : first.IsAlone
  · by_cases secondAlone : second.IsAlone
    · rw [alone_meet_iff_stem? proper otherProper firstAlone secondAlone apart]
      constructor
      · rintro ⟨around, stem, spelled, otherSpelled⟩
        exact .alone firstAlone secondAlone spelled otherSpelled around
      · intro clash
        cases clash with
        | several firstSeveral => exact absurd firstAlone firstSeveral
        | alone _ _ spelled otherSpelled around =>
            exact ⟨around, _, spelled, otherSpelled⟩
        | ahead intrudes => exact absurd secondAlone intrudes.several
        | behind intrudes => exact absurd firstAlone intrudes.several
    · rw [meet_iff_intrudes proper otherProper firstAlone secondAlone apart]
      constructor
      · rintro ⟨name, intrudes⟩
        exact .ahead intrudes
      · intro clash
        cases clash with
        | several firstSeveral => exact absurd firstAlone firstSeveral
        | alone _ lone => exact absurd lone secondAlone
        | ahead intrudes => exact ⟨_, intrudes⟩
        | behind intrudes => exact absurd firstAlone intrudes.several
  · by_cases secondAlone : second.IsAlone
    · have turned : Meet directory paths first second ↔
          Meet directory paths second first := ⟨Meet.symm, Meet.symm⟩
      rw [turned,
        meet_iff_intrudes otherProper proper secondAlone firstAlone apart.symm]
      constructor
      · rintro ⟨name, intrudes⟩
        exact .behind intrudes
      · intro clash
        cases clash with
        | several _ secondSeveral => exact absurd secondAlone secondSeveral
        | alone lone => exact absurd lone firstAlone
        | ahead intrudes => exact absurd intrudes.alone firstAlone
        | behind intrudes => exact ⟨_, intrudes⟩
    · rw [several_meet_iff proper.listed otherProper.listed firstAlone secondAlone
        proper.plain otherProper.plain]
      constructor
      · rintro ⟨folders, name, inFirst, inSecond⟩
        exact .several firstAlone secondAlone inFirst inSecond folders
      · intro clash
        cases clash with
        | several _ _ inFirst inSecond folders =>
            exact ⟨folders, _, inFirst, inSecond⟩
        | alone lone => exact absurd lone firstAlone
        | ahead intrudes => exact absurd intrudes.alone firstAlone
        | behind intrudes => exact absurd intrudes.alone secondAlone

/-- Templates of one source are kept apart by the names of their functions. -/
theorem nodup_planned_iff (proper : first.IsProper paths) :
    (first.planned directory paths).Nodup ↔ first.functions.Nodup := by
  by_cases alone : first.IsAlone
  · have lone : first.functions = ["default"] := alone
    have single : (first.planned directory paths).length = 1 := by
      unfold Origin.planned
      rw [map_componentsOf_plan proper.listed, List.length_map, lone]
      rfl
    obtain ⟨path, same⟩ := List.length_eq_one_iff.mp single
    rw [same, lone]
    exact ⟨fun _ => List.nodup_singleton _, fun _ => List.nodup_singleton _⟩
  · have injective : Function.Injective fun name =>
        first.folder directory paths ++ [Component.name (templateFile name)] := by
      intro name other same
      exact (append_templateFile_inj same).2
    rw [planned_of_several proper.listed alone proper.plain]
    exact List.nodup_map_iff injective

end Clashing

/-- The paths of all templates are different exactly if the functions of each
source have names of their own and no two sources clash. -/
theorem nodup_planned_paths_iff (directory : String) {paths : List String}
    {origins : List Origin} (proper : ∀ origin ∈ origins, origin.IsProper paths)
    (apart : (origins.map fun origin => componentsOf origin.source).Nodup) :
    (origins.flatMap (Origin.planned directory paths)).Nodup ↔
      (∀ origin ∈ origins, origin.functions.Nodup) ∧
        origins.Pairwise fun first second =>
          ¬ Clash directory paths first second := by
  have different := List.pairwise_map.mp apart
  unfold List.Nodup
  rw [List.pairwise_flatMap]
  apply and_congr
  · apply forall₂_congr
    intro origin member
    exact nodup_planned_iff (proper origin member)
  · constructor
    · intro unmet
      apply (unmet.and different).imp_of_mem
      rintro first second inFirst inSecond ⟨distinct, other⟩ clash
      have meet := (meet_iff_clash (proper first inFirst) (proper second inSecond)
        other).mpr clash
      obtain ⟨path, planned, otherPlanned⟩ := meet
      exact distinct path planned path otherPlanned rfl
    · intro unclashed
      apply (unclashed.and different).imp_of_mem
      rintro first second inFirst inSecond ⟨free, other⟩ path planned same
        otherPlanned rfl
      apply free
      apply (meet_iff_clash (proper first inFirst) (proper second inSecond)
        other).mp
      exact ⟨path, planned, otherPlanned⟩

end VelocityScript.Output
