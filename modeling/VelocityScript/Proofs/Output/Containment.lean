import Mathlib.Data.List.Forall2
import VelocityScript.Proofs.Output.Planning

/-!
# What stays below the output directory

A template is written below the output directory exactly if the place of its
source leads downwards: it has no step to a directory above, and its file name
leaves none without its extension.  The name of the function must lead downwards
as well.  What starts at the root, such as the place of an absolute path among
relative ones, does not depend on the output directory at all.
-/

namespace VelocityScript.Output

/-- A path is that of a directory with nothing but names behind it. -/
def IsBelow (directory path : String) : Prop :=
  ∃ names : List (List Char),
    componentsOf path = componentsOf directory ++ names.map .name

/-- A file name of which only two dots are left where its extension is dropped.
A default function alone keeps the dot before the new extension. -/
def TurnsUpwards (functions : List String) (name : List Char) : Prop :=
  Path.stem name = ['.'] ∨
    functions ≠ ["default"] ∧ Path.stem name = ['.', '.']

instance (functions : List String) (name : List Char) :
    Decidable (TurnsUpwards functions name) :=
  inferInstanceAs (Decidable (_ ∨ _))

/-- The place of a source leads downwards from a directory, and from there so
does the name of a function. -/
structure LeadsDown (directory : String) (functions : List String)
    (path : List Component) (name : String) : Prop where
  forward : .parent ∉ path
  named : ∀ last, path.getLast? = some (.name last) →
    ¬ TurnsUpwards functions last
  away : path.head? = some .current → directory ≠ ""
  called : functions ≠ ["default"] →
    .parent ∉ Path.components (templateFile name) ∧
      ((Path.components (templateFile name)).head? = some .current →
        path = [] → directory ≠ "")

/-- An absolute source of paths that share nothing, or an absolute name. -/
def IsRooted (paths functions : List String) (source name : String) : Prop :=
  Path.isAbsolute source.toList = true ∧ baseDirectory paths = "" ∨
    functions ≠ ["default"] ∧ Path.isAbsolute name.toList = true

instance (paths functions : List String) (source name : String) :
    Decidable (IsRooted paths functions source name) :=
  inferInstanceAs (Decidable (_ ∨ _))

/-! ## Places and targets -/

theorem canonical_place {paths : List String} {source : String}
    (listed : source ∈ paths) : Path.Canonical (place paths source) := by
  obtain ⟨components, _⟩ := relativePath_spec listed
  rw [← components]
  exact Path.canonical_components _

/-- A target is what is planned in no directory. -/
theorem canonical_target {paths : List String} {source : String}
    (listed : source ∈ paths) (functions : List String) (name : String) :
    Path.Canonical (target functions (place paths source) name) := by
  have whole := components_planned listed "" functions name
  have nothing : componentsOf "" = [] := rfl
  rw [nothing, nil_joined] at whole
  rw [← whole]
  exact Path.canonical_components _

/-- The last component of a place is replaced by another step. -/
theorem retitled_cases (extension : List Char) (path : List Component) :
    (∃ front name, path = front ++ [.name name] ∧
      Path.retitled extension path = front ++ [Path.titled extension name]) ∨
    (∀ name, path.getLast? ≠ some (.name name)) ∧
      Path.retitled extension path = path := by
  unfold Path.retitled
  split
  · next name last =>
      obtain ⟨front, rfl⟩ := List.getLast?_eq_some_iff.mp last
      rw [List.dropLast_concat]
      exact Or.inl ⟨front, name, rfl, rfl⟩
  · next other => exact Or.inr ⟨fun name => other name, rfl⟩

theorem head?_retitled {component : Component} (apart : component.isStep = false)
    (extension : List Char) (path : List Component) :
    (Path.retitled extension path).head? = some component ↔
      path.head? = some component := by
  rcases retitled_cases extension path with
    ⟨front, name, same, changed⟩ | ⟨_, changed⟩
  · rw [changed, same]
    cases front with
    | nil =>
        constructor
        · intro starts
          cases starts
          rw [Path.isStep_titled] at apart
          cases apart
        · intro starts
          cases starts
          cases apart
    | cons first others => exact Iff.rfl
  · rw [changed]

theorem titled_eq_parent_iff {extension name : List Char}
    (named : Path.IsName name) :
    Path.titled extension name = .parent ↔
      Path.stem name = ['.'] ∨ extension = [] ∧ Path.stem name = ['.', '.'] := by
  have upwards : Path.titled extension name = .parent ↔
      Path.renamed extension name = ['.', '.'] := by
    unfold Path.titled
    split
    · next same => exact ⟨fun _ => same, fun _ => rfl⟩
    · next apart => exact ⟨nofun, fun same => absurd same apart⟩
  rw [upwards, Path.renamed]
  by_cases dot : Path.stem name = ['.']
  · rw [if_pos dot]
    exact ⟨fun _ => Or.inl dot, fun _ => rfl⟩
  · rw [if_neg dot]
    by_cases removed : extension = []
    · rw [if_pos removed]
      exact ⟨fun dots => Or.inr ⟨removed, dots⟩,
        fun turns => (turns.resolve_left dot).2⟩
    · rw [if_neg removed]
      constructor
      · intro same
        have lengths := congrArg List.length same
        have filled := List.length_pos_of_ne_nil (Path.stem_ne_nil named)
        have more := List.length_pos_of_ne_nil removed
        rw [List.length_append, List.length_cons] at lengths
        simp only [List.length_cons, List.length_nil] at lengths
        omega
      · intro turns
        exact absurd (turns.resolve_left dot).1 removed

/-- With another extension a place leads nowhere upwards exactly if it did not
before and its file name does not become a step upwards. -/
theorem parent_mem_retitled_iff {path : List Component}
    (names : ∀ name, .name name ∈ path → Path.IsName name) (extension : List Char) :
    .parent ∈ Path.retitled extension path ↔
      .parent ∈ path ∨ ∃ name, path.getLast? = some (.name name) ∧
        (Path.stem name = ['.'] ∨ extension = [] ∧ Path.stem name = ['.', '.']) := by
  rcases retitled_cases extension path with
    ⟨front, name, rfl, changed⟩ | ⟨unnamed, changed⟩
  · have named := names name (List.mem_append_right front List.mem_cons_self)
    have turns : Path.titled extension name = .parent ↔ _ :=
      titled_eq_parent_iff named
    rw [changed, List.mem_append, List.mem_append, List.mem_singleton, eq_comm,
      turns, List.getLast?_concat]
    simp
  · rw [changed]
    constructor
    · exact Or.inl
    · rintro (upwards | ⟨name, last, _⟩)
      · exact upwards
      · exact absurd last (unnamed name)

theorem retitled_eq_nil_iff {extension : List Char} {path : List Component} :
    Path.retitled extension path = [] ↔ path = [] := by
  rcases retitled_cases extension path with
    ⟨front, name, rfl, changed⟩ | ⟨_, changed⟩
  · rw [changed]
    simp
  · rw [changed]

/-! ## Heads and steps of what is joined -/

theorem head?_joined {path others : List Component}
    (relative : others.head? ≠ some .root) (component : Component) :
    (joined path others).head? = some component ↔
      path.head? = some component ∨ path = [] ∧ others.head? = some component := by
  by_cases empty : path = []
  · rw [empty, nil_joined]
    simp
  · rw [joined_of_relative empty relative, List.head?_append_of_ne_nil path empty]
    simp [empty]

theorem head?_joined_eq_root_iff {path others : List Component} :
    (joined path others).head? = some .root ↔
      path.head? = some .root ∨ others.head? = some .root := by
  by_cases rooted : others.head? = some .root
  · rw [joined_of_root rooted]
    exact ⟨Or.inr, fun _ => rooted⟩
  · rw [head?_joined rooted]
    simp [rooted]

theorem parent_mem_joined_iff {path others : List Component}
    (relative : others.head? ≠ some .root) :
    .parent ∈ joined path others ↔ .parent ∈ path ∨ .parent ∈ others := by
  by_cases empty : path = []
  · rw [empty, nil_joined]
    simp
  · rw [joined_of_relative empty relative, List.mem_append, List.mem_filter]
    exact or_congr_right (and_iff_left rfl)

/-! ## Below a directory -/

theorem exists_map_name_iff {path : List Component} :
    (∃ names : List (List Char), path = names.map .name) ↔
      ∀ component ∈ path, ∃ name, component = .name name := by
  constructor
  · rintro ⟨names, rfl⟩ component member
    obtain ⟨name, _, same⟩ := List.mem_map.mp member
    exact ⟨name, same.symm⟩
  · intro named
    induction path with
    | nil => exact ⟨[], rfl⟩
    | cons first others inductionHypothesis =>
        obtain ⟨name, rfl⟩ := named first List.mem_cons_self
        obtain ⟨names, rfl⟩ := inductionHypothesis fun component member =>
          named component (List.mem_cons_of_mem _ member)
        exact ⟨name :: names, rfl⟩

/-- Only the first component of a path can be the root or a dot. -/
theorem exists_name_of_mem {path : List Component} (canonical : Path.Canonical path)
    {component : Component} (member : component ∈ path)
    (forward : .parent ∉ path)
    (apart : component.isStep = false → path.head? ≠ some component) :
    ∃ name, component = .name name := by
  have step : component.isStep = true := by
    by_contra standing
    rw [Bool.not_eq_true] at standing
    cases path with
    | nil => cases member
    | cons first others =>
        rcases List.mem_cons.mp member with rfl | later
        · exact apart standing rfl
        · rw [canonical.steps component later] at standing
          cases standing
  cases component with
  | name name => exact ⟨name, rfl⟩
  | parent => exact absurd member forward
  | current => cases step
  | root => cases step

/-- A relative path leads below a directory exactly if it has no step upwards,
and starts with a dot only where there is a directory before it. -/
theorem isBelow_iff {directory path : String} {others : List Component}
    (canonical : Path.Canonical others) (relative : others.head? ≠ some .root)
    (whole : componentsOf path = joined (componentsOf directory) others) :
    IsBelow directory path ↔
      .parent ∉ others ∧ (others.head? = some .current → directory ≠ "") := by
  unfold IsBelow
  by_cases empty : directory = ""
  · have nothing : componentsOf "" = [] := rfl
    rw [whole, empty, nothing, nil_joined]
    simp only [List.nil_append]
    rw [exists_map_name_iff]
    constructor
    · intro named
      have away (component : Component) (unnamed : ∀ name, component ≠ .name name) :
          component ∉ others := by
        intro member
        obtain ⟨name, same⟩ := named component member
        exact unnamed name same
      exact ⟨away .parent nofun, fun dotted =>
        absurd (List.mem_of_mem_head? dotted) (away .current nofun)⟩
    · rintro ⟨forward, away⟩ component member
      apply exists_name_of_mem canonical member forward
      intro standing starts
      cases component with
      | current => exact away starts rfl
      | root => exact relative starts
      | parent => cases standing
      | name => cases standing
  · have filled : componentsOf directory ≠ [] := by
      intro nothing
      exact empty (String.toList_eq_nil_iff.mp (Path.components_eq_nil_iff.mp nothing))
    rw [whole, joined_of_relative filled relative]
    simp only [List.append_cancel_left_eq]
    rw [exists_map_name_iff]
    constructor
    · intro named
      refine ⟨fun upwards => ?_, fun _ => empty⟩
      obtain ⟨name, same⟩ := named .parent (List.mem_filter.mpr ⟨upwards, rfl⟩)
      cases same
    · rintro ⟨forward, _⟩ component member
      obtain ⟨member, step⟩ := List.mem_filter.mp member
      apply exists_name_of_mem canonical member forward
      intro standing
      rw [step] at standing
      cases standing

/-! ## Targets -/

/-- A place starts at the root if the source does and the paths share nothing:
an absolute path among relative ones. -/
theorem head?_place_eq_root_iff {paths : List String} {source : String} :
    (place paths source).head? = some .root ↔
      Path.isAbsolute source.toList = true ∧ baseDirectory paths = "" := by
  have empty : componentsOf (baseDirectory paths) = [] ↔
      baseDirectory paths = "" := by
    rw [componentsOf, Path.components_eq_nil_iff, String.toList_eq_nil_iff]
  rw [Path.isAbsolute_iff, ← empty, ← List.length_eq_zero_iff, place]
  constructor
  · intro starts
    cases counted : (componentsOf (baseDirectory paths)).length with
    | zero =>
        rw [counted, List.drop_zero] at starts
        exact ⟨starts, rfl⟩
    | succ count =>
        rw [counted, ← List.drop_tail] at starts
        have inTail := List.mem_of_mem_drop (List.mem_of_mem_head? starts)
        cases Path.isStep_of_mem_tail_components inTail
  · rintro ⟨starts, nothing⟩
    rw [nothing, List.drop_zero]
    exact starts

theorem isAbsolute_templateFile (name : String) :
    Path.isAbsolute (templateFile name) = Path.isAbsolute name.toList := by
  unfold templateFile Path.isAbsolute
  cases name.toList with
  | nil => rfl
  | cons first others => rfl

theorem head?_target_eq_root_iff {paths functions : List String}
    {source name : String} :
    (target functions (place paths source) name).head? = some .root ↔
      IsRooted paths functions source name := by
  unfold target IsRooted
  rw [← head?_place_eq_root_iff]
  by_cases alone : functions = ["default"]
  · rw [if_pos alone, head?_retitled rfl]
    simp [alone]
  · rw [if_neg alone, head?_joined_eq_root_iff, head?_retitled rfl,
      ← Path.isAbsolute_iff, isAbsolute_templateFile]
    simp [alone]

/-- A target that is not at the root leads down exactly if the place does and the
name of the function does. -/
theorem target_leads_down_iff {paths functions : List String}
    {source name directory : String} (listed : source ∈ paths)
    (relative : ¬ IsRooted paths functions source name) :
    (.parent ∉ target functions (place paths source) name ∧
      ((target functions (place paths source) name).head? = some .current →
        directory ≠ "")) ↔
      LeadsDown directory functions (place paths source) name := by
  have named := (canonical_place listed).names
  have upwards := parent_mem_retitled_iff named
  have opening (extension : List Char) :
      (Path.retitled extension (place paths source)).head? = some .current ↔ _ :=
    head?_retitled rfl extension (place paths source)
  have turns (last : List Char) : TurnsUpwards functions last ↔
      Path.stem last = ['.'] ∨
        functions ≠ ["default"] ∧ Path.stem last = ['.', '.'] := Iff.rfl
  unfold target
  by_cases alone : functions = ["default"]
  · rw [if_pos alone, upwards, opening]
    have kept : extension ≠ [] := nofun
    constructor
    · rintro ⟨forward, away⟩
      obtain ⟨forward, apart⟩ := not_or.mp forward
      refine ⟨forward, fun last ends turned => apart ⟨last, ends, ?_⟩, away,
        absurd alone⟩
      exact Or.inl (turned.resolve_right fun several => several.1 alone)
    · rintro ⟨forward, apart, away, _⟩
      refine ⟨not_or.mpr ⟨forward, ?_⟩, away⟩
      rintro ⟨last, ends, turned⟩
      exact apart last ends
        (Or.inl (turned.resolve_right fun removed => kept removed.1))
  · have unrooted : (Path.components (templateFile name)).head? ≠ some .root := by
      rw [ne_eq, ← Path.isAbsolute_iff, isAbsolute_templateFile]
      exact fun absolute => relative (Or.inr ⟨alone, absolute⟩)
    rw [if_neg alone, parent_mem_joined_iff unrooted, head?_joined unrooted,
      upwards, opening, retitled_eq_nil_iff]
    constructor
    · rintro ⟨forward, away⟩
      obtain ⟨inPlace, inName⟩ := not_or.mp forward
      obtain ⟨forward, apart⟩ := not_or.mp inPlace
      refine ⟨forward, fun last ends turned => apart ⟨last, ends, ?_⟩,
        fun starts => away (Or.inl starts),
        fun _ => ⟨inName, fun starts empty => away (Or.inr ⟨empty, starts⟩)⟩⟩
      exact turned.imp_right fun several => ⟨rfl, several.2⟩
    · rintro ⟨forward, apart, away, called⟩
      obtain ⟨inName, dotted⟩ := called alone
      refine ⟨not_or.mpr ⟨not_or.mpr ⟨forward, ?_⟩, inName⟩, ?_⟩
      · rintro ⟨last, ends, turned⟩
        exact apart last ends (turned.imp_right fun removed => ⟨alone, removed.2⟩)
      · rintro (starts | ⟨empty, starts⟩)
        · exact away starts
        · exact dotted starts empty

/-- At the root the output directory does not matter. -/
theorem planned_of_rooted {paths functions : List String} {source name : String}
    (listed : source ∈ paths) (rooted : IsRooted paths functions source name)
    (directory elsewhere : String) :
    planned directory (baseDirectory paths) source functions name =
      planned elsewhere (baseDirectory paths) source functions name := by
  have alone {text : List Char} (absolute : Path.isAbsolute text = true)
      (before : List Char) : Path.join before text = text :=
    if_pos absolute
  unfold planned
  dsimp only
  rcases rooted with placed | ⟨several, absolute⟩
  · rw [← head?_place_eq_root_iff] at placed
    have starts {added : List Char} (whole : '/' ∉ added) :
        Path.isAbsolute (Path.withExtension
          (relativePath (baseDirectory paths).toList source.toList) added) = true := by
      rw [Path.isAbsolute_iff, components_withExtension_relativePath listed whole,
        head?_retitled rfl]
      exact placed
    have whole : '/' ∉ extension := by decide
    rw [alone (starts whole), alone (starts whole),
      alone (starts List.not_mem_nil), alone (starts List.not_mem_nil)]
  · rw [← isAbsolute_templateFile] at absolute
    rw [if_neg several, if_neg several, alone absolute, alone absolute]

/-! ## Plans -/

/-- A template stays below the output directory exactly if the place of its
source and its name lead downwards.  One that starts at the root has no place
there: it is written to the same path whatever the output directory is. -/
theorem planned_paths_stay_below_iff {paths : List String} {source : String}
    (listed : source ∈ paths) (directory : String) (functions : List String) :
    List.Forall₂
      (fun name path =>
        (¬ IsRooted paths functions source name →
          (IsBelow directory path ↔
            LeadsDown directory functions (place paths source) name)) ∧
        (IsRooted paths functions source name →
          ∀ elsewhere,
            path ∈ plan elsewhere (baseDirectory paths) source functions))
      functions (plan directory (baseDirectory paths) source functions) := by
  rw [plan_eq_map, List.forall₂_map_right_iff, List.forall₂_same]
  intro name member
  constructor
  · intro relative
    rw [← target_leads_down_iff listed relative]
    apply isBelow_iff (canonical_target listed functions name)
    · rw [ne_eq, head?_target_eq_root_iff]
      exact relative
    · rw [componentsOf, String.toList_ofList]
      exact components_planned listed directory functions name
  · intro rooted elsewhere
    rw [planned_of_rooted listed rooted directory elsewhere, plan_eq_map]
    exact List.mem_map_of_mem member

/-- Two sources of one directory, below which both lead downwards. -/
theorem planned_paths_stay_below_iff_nested :
    "src/api/get.ts" ∈ ["src/put.ts", "src/api/get.ts"] ∧
      plan "out" (baseDirectory ["src/put.ts", "src/api/get.ts"])
        "src/api/get.ts" ["request"] = ["out/api/get/request.vtl"] ∧
      IsBelow "out" "out/api/get/request.vtl" := by
  have listed : "src/api/get.ts" ∈ ["src/put.ts", "src/api/get.ts"] := by decide
  have plans : plan "out" (baseDirectory ["src/put.ts", "src/api/get.ts"])
      "src/api/get.ts" ["request"] = ["out/api/get/request.vtl"] := by
    decide +kernel
  have relative : ¬ IsRooted ["src/put.ts", "src/api/get.ts"] ["request"]
      "src/api/get.ts" "request" := by
    decide +kernel
  have place : place ["src/put.ts", "src/api/get.ts"] "src/api/get.ts" =
      [.name "api".toList, .name "get.ts".toList] := by
    decide +kernel
  have downwards : LeadsDown "out" ["request"]
      (Output.place ["src/put.ts", "src/api/get.ts"] "src/api/get.ts")
      "request" := by
    rw [place]
    refine ⟨by decide, ?_, nofun, fun _ => by decide +kernel⟩
    rintro name last
    cases last
    decide +kernel
  have stays := planned_paths_stay_below_iff listed "out" ["request"]
  rw [plans] at stays
  cases stays with
  | cons first others => exact ⟨listed, plans, (first.1 relative).mpr downwards⟩

/-- An absolute source among relative ones leaves the output directory, a source
in a directory above does, and so does a source whose name starts with two
dots. -/
theorem templates_leave_output_directory :
    (plan "out" (baseDirectory ["a.ts", "/srv/b.ts"]) "/srv/b.ts" ["f"] =
        ["/srv/b/f.vtl"] ∧
      ¬ IsBelow "out" "/srv/b/f.vtl") ∧
    (plan "out" (baseDirectory ["a.ts", "../b.ts"]) "../b.ts" ["f"] =
        ["out/../b/f.vtl"] ∧
      ¬ IsBelow "out" "out/../b/f.vtl") ∧
    (plan "out" (baseDirectory ["..ts"]) "..ts" ["f"] = ["out/../f.vtl"] ∧
      ¬ IsBelow "out" "out/../f.vtl") := by
  have named : componentsOf "out" = [.name "out".toList] := by decide +kernel
  have apart {path : String} (component : Component)
      (second : (componentsOf path)[1]? = some component)
      (unnamed : ∀ name, component ≠ .name name) : ¬ IsBelow "out" path := by
    rintro ⟨names, whole⟩
    rw [whole, named, List.singleton_append, List.getElem?_cons_succ] at second
    have member := List.mem_of_getElem? second
    obtain ⟨name, _, same⟩ := List.mem_map.mp member
    exact unnamed name same.symm
  have elsewhere : ¬ IsBelow "out" "/srv/b/f.vtl" := by
    rintro ⟨names, whole⟩
    have starts : (componentsOf "/srv/b/f.vtl").head? = some .root := by
      decide +kernel
    rw [whole, named] at starts
    cases starts
  refine ⟨⟨?_, elsewhere⟩, ⟨?_, apart .parent ?_ nofun⟩,
    ⟨?_, apart .parent ?_ nofun⟩⟩
  all_goals decide +kernel

end VelocityScript.Output
