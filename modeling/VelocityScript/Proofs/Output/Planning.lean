import VelocityScript.Proofs.Output.Extensions

/-!
# Planned paths

The components of the paths where templates are written: those of the output
directory, and behind them what the place of the source and the name of the
function lead to.
-/

namespace VelocityScript.Output

/-! ## Paths behind one another -/

/-- The components of a path behind another one.  A path that starts at the root
stands for itself. -/
def joined (path others : List Component) : List Component :=
  if others.head? = some .root ∨ path = [] then
    others
  else
    path ++ others.filter Component.isStep

theorem joined_of_root {others : List Component}
    (rooted : others.head? = some .root) (path : List Component) :
    joined path others = others :=
  if_pos (Or.inl rooted)

theorem nil_joined (others : List Component) : joined [] others = others :=
  if_pos (Or.inr rfl)

theorem joined_of_relative {path others : List Component} (filled : path ≠ [])
    (relative : others.head? ≠ some .root) :
    joined path others = path ++ others.filter Component.isStep :=
  if_neg (not_or.mpr ⟨relative, filled⟩)

theorem length_le_joined (path : List Component) {others : List Component}
    (relative : others.head? ≠ some .root) :
    path.length ≤ (joined path others).length := by
  by_cases empty : path = []
  · rw [empty]
    exact Nat.zero_le _
  · rw [joined_of_relative empty relative, List.length_append]
    exact Nat.le_add_right _ _

theorem joined_nil (path : List Component) : joined path [] = path := by
  by_cases empty : path = []
  · rw [empty, nil_joined]
  · rw [joined_of_relative empty (by simp)]
    exact List.append_nil path

theorem joined_name (path : List Component) (name : List Char) :
    joined path [.name name] = path ++ [.name name] := by
  by_cases empty : path = []
  · rw [empty, nil_joined]
    rfl
  · rw [joined_of_relative empty (by simp)]
    rfl

theorem joined_append {second steps : List Component} (filled : second ≠ [])
    (each : ∀ component ∈ steps, component.isStep = true)
    (first : List Component) :
    joined first (second ++ steps) = joined first second ++ steps := by
  have starts : (second ++ steps).head? = second.head? :=
    List.head?_append_of_ne_nil second filled
  unfold joined
  rw [starts]
  by_cases alone : second.head? = some .root ∨ first = []
  · rw [if_pos alone, if_pos alone]
  · rw [if_neg alone, if_neg alone, List.filter_append,
      List.filter_eq_self.mpr each, List.append_assoc]

theorem joined_eq_nil_iff {path others : List Component} :
    joined path others = [] ↔ path = [] ∧ others = [] := by
  constructor
  · intro nothing
    by_cases alone : others.head? = some .root ∨ path = []
    · rw [joined, if_pos alone] at nothing
      rw [nothing] at alone
      exact ⟨alone.resolve_left nofun, nothing⟩
    · rw [joined, if_neg alone, List.append_eq_nil_iff] at nothing
      exact absurd (Or.inr nothing.1) alone
  · rintro ⟨rfl, rfl⟩
    rfl

theorem joined_joined (first second third : List Component) :
    joined (joined first second) third = joined first (joined second third) := by
  by_cases rooted : third.head? = some .root
  · rw [joined_of_root rooted, joined_of_root rooted, joined_of_root rooted]
  · by_cases empty : second = []
    · rw [empty, joined_nil, nil_joined]
    · have filled : joined first second ≠ [] := fun nothing =>
        empty (joined_eq_nil_iff.mp nothing).2
      have steps : ∀ component ∈ third.filter Component.isStep,
          component.isStep = true := fun component member =>
        (List.mem_filter.mp member).2
      rw [joined_of_relative filled rooted, joined_of_relative empty rooted,
        joined_append empty steps]

namespace Path

theorem isAbsolute_iff {text : List Char} :
    isAbsolute text = true ↔ (components text).head? = some .root := by
  rcases cutHead_cases text with
    ⟨rest, rfl, _⟩ | ⟨rfl, _⟩ | ⟨rest, rfl, _⟩ | ⟨unmarked, _⟩
  · rw [components_separator]
    exact ⟨fun _ => rfl, fun _ => rfl⟩
  · exact ⟨nofun, nofun⟩
  · rw [components_eq]
    exact ⟨nofun, nofun⟩
  · rw [components_eq, unmarked, List.nil_append]
    constructor
    · intro absolute
      rw [isAbsolute, beq_iff_eq] at absolute
      obtain ⟨rest, rfl⟩ := List.head?_eq_some_iff.mp absolute
      cases unmarked
    · intro starts
      cases isStep_of_mem_bodyComponents (List.mem_of_mem_head? starts)

theorem components_eq_nil_iff {text : List Char} :
    components text = [] ↔ text = [] := by
  constructor
  · intro nothing
    by_contra filled
    exact components_ne_nil filled nothing
  · rintro rfl
    rfl

theorem components_join_eq_joined (base text : List Char) :
    components (join base text) = joined (components base) (components text) := by
  have same : isAbsolute text = true ∨ base = [] ↔
      (components text).head? = some .root ∨ components base = [] := by
    rw [isAbsolute_iff, components_eq_nil_iff]
  rw [components_join, joined]
  by_cases alone : isAbsolute text = true ∨ base = []
  · rw [if_pos alone, if_pos (same.mp alone)]
  · rw [if_neg alone, if_neg (mt same.mpr alone), filter_isStep_components]

end Path

/-! ## Plans -/

/-- The file name of the template of a function. -/
def templateFile (name : String) : List Char :=
  name.toList ++ '.' :: extension

theorem components_templateFile {name : String} (whole : '/' ∉ name.toList) :
    Path.components (templateFile name) = [.name (templateFile name)] := by
  have long : 4 ≤ (templateFile name).length := by
    simp [templateFile, extension]
  have named : Path.IsName (templateFile name) := by
    rw [Path.isName_iff]
    refine ⟨?_, ?_, ?_, ?_⟩
    · simp [templateFile, extension, whole]
    all_goals
      intro same
      rw [same] at long
      simp at long
  rw [Path.components_of_whole named.whole named.ne_dot, named.meaning]
  rfl

/-- Where the template of one of several functions is written.  A default
function alone has the place of its source with another extension, and other
functions have a file of their own in a directory that is named after the
source. -/
def planned (directory base source : String) (functions : List String)
    (name : String) : List Char :=
  let path := relativePath base.toList source.toList
  if functions = ["default"] then
    Path.join directory.toList (Path.withExtension path extension)
  else
    Path.join (Path.join directory.toList (Path.withExtension path []))
      (templateFile name)

theorem plan_eq_map (directory base source : String) (functions : List String) :
    plan directory base source functions =
      functions.map fun name =>
        String.ofList (planned directory base source functions name) := by
  unfold plan planned
  by_cases alone : functions = ["default"]
  · rw [alone]
    rfl
  · simp only [if_neg alone]
    rfl

/-- The components that a template has behind those of the output directory, from
those of the place of its source. -/
def target (functions : List String) (path : List Component) (name : String) :
    List Component :=
  if functions = ["default"] then
    Path.retitled extension path
  else
    joined (Path.retitled [] path) (Path.components (templateFile name))

theorem components_withExtension_relativePath {paths : List String}
    {source : String} (listed : source ∈ paths) {added : List Char}
    (whole : '/' ∉ added) :
    Path.components
        (Path.withExtension
          (relativePath (baseDirectory paths).toList source.toList) added) =
      Path.retitled added (place paths source) := by
  obtain ⟨components, trimmed⟩ := relativePath_spec listed
  rw [Path.components_withExtension trimmed whole, components]

theorem components_planned {paths : List String} {source : String}
    (listed : source ∈ paths) (directory : String) (functions : List String)
    (name : String) :
    Path.components
        (planned directory (baseDirectory paths) source functions name) =
      joined (componentsOf directory)
        (target functions (place paths source) name) := by
  have whole : '/' ∉ extension := by decide
  unfold planned target
  by_cases alone : functions = ["default"]
  · rw [if_pos alone, if_pos alone, Path.components_join_eq_joined,
      components_withExtension_relativePath listed whole]
    rfl
  · rw [if_neg alone, if_neg alone, Path.components_join_eq_joined,
      Path.components_join_eq_joined,
      components_withExtension_relativePath listed List.not_mem_nil, joined_joined]
    rfl

/-- The components of the planned paths. -/
theorem map_componentsOf_plan {paths : List String} {source : String}
    (listed : source ∈ paths) (directory : String) (functions : List String) :
    (plan directory (baseDirectory paths) source functions).map componentsOf =
      functions.map fun name =>
        joined (componentsOf directory)
          (target functions (place paths source) name) := by
  rw [plan_eq_map, List.map_map]
  apply List.map_congr_left
  intro name _
  rw [Function.comp_apply, componentsOf, String.toList_ofList]
  exact components_planned listed directory functions name

end VelocityScript.Output
