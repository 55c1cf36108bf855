import VelocityScript.Proofs.Output.Trimming

/-!
# Places of sources

The base of several paths has the components that start all of them, so every
source has a place relative to it.  The place has the components of the source
behind those of the base.
-/

namespace VelocityScript.Output

namespace Path

/-! ## Dropping pieces -/

theorem dropIdle_suffix (pieces : List (List Char)) :
    dropIdle pieces <:+ pieces :=
  List.dropWhile_suffix _

theorem filterMap_dropIdle (pieces : List (List Char)) :
    (dropIdle pieces).filterMap component? = pieces.filterMap component? := by
  unfold dropIdle
  induction pieces with
  | nil => rfl
  | cons piece others inductionHypothesis =>
      cases found : component? piece with
      | none =>
          rw [List.dropWhile_cons_of_pos (by simp [found]), inductionHypothesis,
            List.filterMap_cons_none found]
      | some component => rw [List.dropWhile_cons_of_neg (by simp [found])]

theorem head?_dropIdle {pieces : List (List Char)} {first : List Char}
    (found : (dropIdle pieces).head? = some first) : isIdle first = false := by
  have apart := List.head?_dropWhile_not
    (fun piece => (component? piece).isNone) pieces
  unfold dropIdle at found
  rw [found] at apart
  exact apart

theorem dropPieces_suffix (count : Nat) (pieces : List (List Char)) :
    dropPieces count pieces <:+ pieces := by
  induction count generalizing pieces with
  | zero => exact dropIdle_suffix pieces
  | succ count inductionHypothesis =>
      rw [dropPieces]
      split
      · exact List.nil_suffix
      · next first others cut =>
          have dropped := dropIdle_suffix pieces
          rw [cut] at dropped
          have further := (inductionHypothesis others).trans
            (List.suffix_cons first others)
          exact further.trans dropped

theorem head?_dropPieces {count : Nat} {pieces : List (List Char)}
    {first : List Char} (found : (dropPieces count pieces).head? = some first) :
    isIdle first = false := by
  induction count generalizing pieces with
  | zero => exact head?_dropIdle found
  | succ count inductionHypothesis =>
      rw [dropPieces] at found
      split at found
      · cases found
      · exact inductionHypothesis found

/-- Dropping meaningful pieces drops their components. -/
theorem filterMap_dropPieces (count : Nat) (pieces : List (List Char)) :
    (dropPieces count pieces).filterMap component? =
      (pieces.filterMap component?).drop count := by
  induction count generalizing pieces with
  | zero => exact filterMap_dropIdle pieces
  | succ count inductionHypothesis =>
      rw [dropPieces, ← filterMap_dropIdle pieces]
      split
      · next empty =>
          rw [empty]
          rfl
      · next first others cut =>
          have meaning : isIdle first = false := by
            apply @head?_dropIdle pieces
            rw [cut]
            rfl
          obtain ⟨component, stands⟩ : ∃ component, component? first = some component :=
            Option.isSome_iff_exists.mp (by simpa [isIdle] using meaning)
          rw [cut, inductionHypothesis, List.filterMap_cons_some stands,
            List.drop_succ_cons]

/-! ## Places relative to a base -/

theorem cutHead_fst_eq_nil_iff {text : List Char} :
    (cutHead text).1 = [] ↔ mark text = [] := by
  rcases cutHead_cases text with
    ⟨rest, rfl, _⟩ | ⟨rfl, _⟩ | ⟨rest, rfl, _⟩ | ⟨unmarked, cut⟩
  · exact ⟨nofun, nofun⟩
  · exact ⟨nofun, nofun⟩
  · exact ⟨nofun, nofun⟩
  · rw [unmarked, cut]
    exact ⟨fun _ => rfl, fun _ => rfl⟩

theorem length_mark {text : List Char} (marked : mark text ≠ []) :
    (mark text).length = 1 := by
  rcases cutHead_cases text with
    ⟨rest, rfl, _⟩ | ⟨rfl, _⟩ | ⟨rest, rfl, _⟩ | ⟨unmarked, _⟩
  · rfl
  · rfl
  · rfl
  · exact absurd unmarked marked

theorem components_joinWith {pieces : List (List Char)}
    (whole : ∀ piece ∈ pieces, '/' ∉ piece)
    (meaningful : ∀ first, pieces.head? = some first → isIdle first = false) :
    components (joinWith '/' pieces) = pieces.filterMap component? := by
  rw [components_eq, mark_joinWith whole meaningful, bodyComponents_joinWith whole,
    List.nil_append]

theorem trimEnd_joinWith {pieces : List (List Char)}
    (whole : ∀ piece ∈ pieces, '/' ∉ piece)
    (starts : ∀ first, pieces.head? = some first → isIdle first = false)
    (ends : EndsWithMeaning pieces) :
    trimEnd (joinWith '/' pieces) = joinWith '/' pieces := by
  by_cases empty : pieces = []
  · rw [empty]
    rfl
  · apply trimEnd_eq_self
    rw [cutHead_of_mark_eq_nil (mark_joinWith whole starts)]
    dsimp only
    rw [splitWhere_joinWith empty whole]
    exact ends

/-- Behind its first components a path has those of its pieces.  The mark at its
start is a component, too. -/
theorem drop_components (text : List Char) (count : Nat) :
    (components text).drop (count + 1) =
      ((keptPieces text).filterMap component?).drop
        (if (cutHead text).1 = [] then count + 1 else count) := by
  rw [components_eq_keptPieces]
  by_cases unmarked : mark text = []
  · rw [unmarked, if_pos (cutHead_fst_eq_nil_iff.mpr unmarked), List.nil_append]
  · rw [if_neg (mt cutHead_fst_eq_nil_iff.mp unmarked), List.drop_append,
      length_mark unmarked, Nat.succ_sub_one, List.drop_eq_nil_of_le,
      List.nil_append]
    rw [length_mark unmarked]
    omega

/-- The pieces of a path that are kept are those of their text, unless there are
none. -/
theorem splitWhere_joinWith_keptPieces (text : List Char) :
    splitWhere (· == '/') (joinWith '/' (keptPieces text)) = keptPieces text ∨
      splitWhere (· == '/') (joinWith '/' (keptPieces text)) = [[]] ∧
        keptPieces text = [] := by
  by_cases empty : keptPieces text = []
  · rw [empty]
    exact Or.inr ⟨rfl, rfl⟩
  · exact Or.inl (splitWhere_joinWith empty fun piece member =>
      whole_of_mem_keptPieces member)

/-- Behind its first components a path has a trimmed rest with the other ones. -/
theorem exists_relative?_of_prefix {base text : List Char}
    (starts : components base <+: components text) :
    ∃ rest, relative? base text = some rest ∧ trimEnd rest = rest ∧
      components rest = (components text).drop (components base).length := by
  have begins : (components base).isPrefixOf (components text) = true :=
    List.isPrefixOf_iff_prefix.mpr starts
  unfold relative?
  rw [if_pos begins]
  split
  · next nothing =>
      refine ⟨trimEnd text, rfl, trimEnd_trimEnd text, ?_⟩
      rw [components_trimEnd, nothing, List.drop_zero]
  · next count counted =>
      rw [cutHead_trimEnd]
      dsimp only
      rw [counted, drop_components]
      generalize (if (cutHead text).1 = [] then count + 1 else count) = taken
      refine ⟨_, rfl, ?_⟩
      rcases splitWhere_joinWith_keptPieces text with kept | ⟨blank, empty⟩
      · rw [kept, ← filterMap_dropPieces]
        have suffix := dropPieces_suffix taken (keptPieces text)
        have whole : ∀ piece ∈ dropPieces taken (keptPieces text), '/' ∉ piece :=
          fun piece member => whole_of_mem_keptPieces (suffix.subset member)
        have opening : ∀ first,
            (dropPieces taken (keptPieces text)).head? = some first →
              isIdle first = false := fun first found => head?_dropPieces found
        have ends := (endsWithMeaning_keptPieces text).suffix suffix
        exact ⟨trimEnd_joinWith whole opening ends,
          components_joinWith whole opening⟩
      · have nothing : dropPieces taken [[]] = [] := by
          cases taken with
          | zero => rfl
          | succ count => rfl
        rw [blank, nothing, empty, List.filterMap_nil, List.drop_nil]
        exact ⟨rfl, rfl⟩

/-! ## Paths with given components -/

/-- The components of some path: only the first one can be no step, and every
name is one. -/
structure Canonical (path : List Component) : Prop where
  steps : ∀ component ∈ path.tail, component.isStep = true
  names : ∀ name, .name name ∈ path → IsName name

theorem canonical_components (text : List Char) : Canonical (components text) where
  steps _ member := isStep_of_mem_tail_components member
  names _ member := isName_of_mem_components member

theorem Canonical.ofPrefix {path others : List Component}
    (canonical : Canonical others) (starts : path <+: others) :
    Canonical path := by
  obtain ⟨rest, rfl⟩ := starts
  refine ⟨fun component member => canonical.steps component ?_,
    fun name member => canonical.names name (List.mem_append_left rest member)⟩
  cases path with
  | nil => cases member
  | cons first more => exact List.mem_append_left rest member

theorem components_componentText {component : Component}
    (named : ∀ name, component = .name name → IsName name) :
    components (componentText component) = [component] := by
  cases component with
  | root => rfl
  | current => rfl
  | parent => rfl
  | name text =>
      have named := named text rfl
      rw [componentText, components_of_whole named.whole named.ne_dot, named.meaning]
      rfl

theorem isAbsolute_componentText {component : Component}
    (step : component.isStep = true)
    (named : ∀ name, component = .name name → IsName name) :
    isAbsolute (componentText component) = false := by
  cases component with
  | root => cases step
  | current => cases step
  | parent => rfl
  | name text =>
      have whole := (named text rfl).whole
      rw [componentText, isAbsolute, beq_eq_false_iff_ne]
      intro starts
      exact whole (List.mem_of_mem_head? starts)

/-- A path built from components has these components. -/
theorem components_ofComponents {path : List Component}
    (canonical : Canonical path) : components (ofComponents path) = path := by
  induction path using List.reverseRecOn with
  | nil => rfl
  | append_singleton others last inductionHypothesis =>
      have built := inductionHypothesis
        (canonical.ofPrefix (List.prefix_append others [last]))
      have named : ∀ name, last = .name name → IsName name := by
        rintro name rfl
        exact canonical.names name (List.mem_append_right others List.mem_cons_self)
      have whole := components_componentText named
      have shape : ofComponents (others ++ [last]) =
          join (ofComponents others) (componentText last) := by
        simp only [ofComponents, List.foldl_append, List.foldl_cons, List.foldl_nil]
      rw [shape, components_join]
      by_cases empty : others = []
      · have nothing : ofComponents others = [] := by
          rw [empty]
          rfl
        rw [if_pos (Or.inr nothing), whole, empty, List.nil_append]
      · have step : last.isStep = true := by
          apply canonical.steps
          cases others with
          | nil => exact absurd rfl empty
          | cons first more => exact List.mem_append_right more List.mem_cons_self
        have filled : ofComponents others ≠ [] := by
          intro nothing
          rw [nothing] at built
          exact empty built.symm
        have below : ¬(isAbsolute (componentText last) = true ∨
            ofComponents others = []) := by
          rw [isAbsolute_componentText step named]
          exact not_or.mpr ⟨Bool.false_ne_true, filled⟩
        rw [if_neg below, built, ← filter_isStep_components, whole,
          List.filter_singleton, step]
        rfl

end Path

/-! ## The base of several paths -/

theorem commonComponents_isPrefix (first second : List Component) :
    commonComponents first second <+: first ∧
      commonComponents first second <+: second := by
  have nothing (path : List Component) : [] <+: path := List.nil_prefix
  induction first generalizing second with
  | nil => exact ⟨nothing _, nothing _⟩
  | cons component others inductionHypothesis =>
      cases second with
      | nil => exact ⟨nothing _, nothing _⟩
      | cons other more =>
          obtain ⟨left, right⟩ := inductionHypothesis more
          rw [commonComponents]
          by_cases same : component = other
          · rw [if_pos same]
            exact ⟨List.cons_prefix_cons.mpr ⟨rfl, left⟩,
              List.cons_prefix_cons.mpr ⟨same, right⟩⟩
          · rw [if_neg same]
            exact ⟨nothing _, nothing _⟩

theorem directoryComponents_isPrefix (path : List Component) :
    directoryComponents path <+: path := by
  unfold directoryComponents
  split
  · exact List.nil_prefix
  · exact List.dropLast_prefix path

theorem foldl_commonComponents_isPrefix (start : List Component)
    (paths : List (List Component)) :
    paths.foldl commonComponents start <+: start ∧
      ∀ path ∈ paths, paths.foldl commonComponents start <+: path := by
  induction paths generalizing start with
  | nil => exact ⟨List.prefix_refl start, nofun⟩
  | cons first others inductionHypothesis =>
      obtain ⟨starts, each⟩ := inductionHypothesis (commonComponents start first)
      obtain ⟨left, right⟩ := commonComponents_isPrefix start first
      refine ⟨starts.trans left, ?_⟩
      intro path member
      rcases List.mem_cons.mp member with rfl | later
      · exact starts.trans right
      · exact each path later

/-- What paths share starts each of them. -/
theorem sharedComponents_isPrefix {paths : List (List Component)}
    {path : List Component} (member : path ∈ paths) :
    sharedComponents paths <+: path := by
  cases paths with
  | nil => cases member
  | cons first others =>
      obtain ⟨starts, each⟩ :=
        foldl_commonComponents_isPrefix (directoryComponents first) others
      rcases List.mem_cons.mp member with rfl | later
      · exact starts.trans (directoryComponents_isPrefix path)
      · exact each path later

/-- The components of a path. -/
def componentsOf (path : String) : List Component :=
  Path.components path.toList

theorem componentsOf_baseDirectory {paths : List String} :
    componentsOf (baseDirectory paths) =
      sharedComponents (paths.map componentsOf) := by
  unfold componentsOf baseDirectory
  rw [String.toList_ofList]
  apply Path.components_ofComponents
  cases paths with
  | nil => exact ⟨nofun, nofun⟩
  | cons first others =>
      have starts := sharedComponents_isPrefix
        (List.mem_cons_self (a := componentsOf first)
          (l := others.map componentsOf))
      exact (Path.canonical_components first.toList).ofPrefix starts

theorem baseDirectory_isPrefix {paths : List String} {source : String}
    (listed : source ∈ paths) :
    componentsOf (baseDirectory paths) <+: componentsOf source := by
  rw [componentsOf_baseDirectory]
  exact sharedComponents_isPrefix (List.mem_map_of_mem listed)

/-- The components of a source behind those of the base of all paths. -/
def place (paths : List String) (source : String) : List Component :=
  (componentsOf source).drop (componentsOf (baseDirectory paths)).length

/-- The text of the place of a source. -/
theorem relativePath_spec {paths : List String} {source : String}
    (listed : source ∈ paths) :
    Path.components
        (relativePath (baseDirectory paths).toList source.toList) =
      place paths source ∧
    Path.trimEnd (relativePath (baseDirectory paths).toList source.toList) =
      relativePath (baseDirectory paths).toList source.toList := by
  obtain ⟨rest, found, trimmed, dropped⟩ :=
    Path.exists_relative?_of_prefix (baseDirectory_isPrefix listed)
  unfold relativePath
  rw [found]
  exact ⟨dropped, trimmed⟩

end VelocityScript.Output
