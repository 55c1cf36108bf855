import VelocityScript.Proofs.Output.Places

/-!
# The directory that sources share

The first path gives the components of its directory, and each other path cuts
them down to those it starts with.  What is left is the longest list that starts
the directory of the first path and all other paths.  Where no path lies below
another one it is also the longest list that starts the directories of all paths,
and then the order of the paths does not matter.
-/

namespace VelocityScript.Output

namespace Path

/-! ## The directory of a path -/

theorem dropIdle_reverse (pieces : List (List Char)) :
    dropIdle pieces.reverse = (pieces.rdropWhile isIdle).reverse := by
  rw [List.rdropWhile, List.reverse_reverse]
  rfl

theorem parent?_of_append {text last : List Char} {others : List (List Char)}
    (kept : keptPieces text = others ++ [last]) :
    parent? text =
      some ((cutHead text).1 ++ joinWith '/' (others.rdropWhile isIdle)) := by
  unfold keptPieces at kept
  unfold parent?
  simp only [dropIdle_reverse, kept, List.reverse_append, List.reverse_cons,
    List.reverse_nil, List.nil_append, List.singleton_append,
    List.reverse_reverse]

theorem parent?_of_nil {text : List Char} (kept : keptPieces text = []) :
    parent? text = if (cutHead text).1 = ['.'] then some [] else none := by
  unfold keptPieces at kept
  unfold parent?
  simp only [dropIdle_reverse, kept, List.reverse_nil]

/-- Behind a dot at the start the first piece is empty. -/
theorem prefix_keptPieces_of_dot {text rest : List Char}
    {pieces : List (List Char)} (cut : cutHead text = (['.'], '/' :: rest))
    (starts : pieces <+: keptPieces text) :
    pieces = [] ∨ pieces = [[]] ∨ ∃ next more, pieces = [] :: next :: more := by
  rcases keptPieces_of_dot cut with empty | ⟨next, more, filled⟩
  · rw [empty] at starts
    exact Or.inl (List.prefix_nil.mp starts)
  · rw [filled] at starts
    match pieces, starts with
    | [], _ => exact Or.inl rfl
    | [piece], starts =>
        obtain ⟨rfl, _⟩ := List.cons_prefix_cons.mp starts
        exact Or.inr (Or.inl rfl)
    | piece :: second :: others, starts =>
        obtain ⟨rfl, _⟩ := List.cons_prefix_cons.mp starts
        exact Or.inr (Or.inr ⟨second, others, rfl⟩)

/-- The first pieces of a path behind its start have the components that they
have in the path. -/
theorem components_cutHead_append {text : List Char}
    {pieces : List (List Char)} (starts : pieces <+: keptPieces text) :
    components ((cutHead text).1 ++ joinWith '/' pieces) =
      mark text ++ pieces.filterMap component? := by
  have whole : ∀ piece ∈ pieces, '/' ∉ piece := fun piece member =>
    whole_of_mem_keptPieces (starts.subset member)
  have dot : components ['.'] = [.current] := rfl
  rcases cutHead_cases text with
    ⟨rest, rfl, cut⟩ | ⟨rfl, _⟩ | ⟨rest, rfl, cut⟩ | ⟨unmarked, cut⟩
  · rw [cut, List.singleton_append, components_separator,
      bodyComponents_joinWith whole]
    rfl
  · have nothing : pieces = [] := List.prefix_nil.mp starts
    rw [nothing]
    rfl
  · have opens : mark ('.' :: '/' :: rest) = [.current] := rfl
    rw [cut, opens]
    rcases prefix_keptPieces_of_dot cut starts with rfl | rfl | ⟨next, more, rfl⟩
    · exact dot
    · exact dot
    · rw [joinWith_cons_of_ne_nil '/' [] (List.cons_ne_nil next more),
        List.nil_append, components_append (List.cons_ne_nil _ _), dot,
        bodyComponents_joinWith fun piece member =>
          whole piece (List.mem_cons_of_mem [] member)]
      rfl
  · rw [cut, unmarked, List.nil_append, List.nil_append]
    refine components_joinWith whole fun first found => ?_
    cases pieces with
    | nil => cases found
    | cons leading others =>
        cases found
        have opening : first :: others <+: splitWhere (· == '/') text := by
          refine starts.trans ?_
          rw [keptPieces, cut]
          exact List.rdropWhile_prefix isIdle _
        obtain ⟨behind, same⟩ := opening
        have filled : text ≠ [] := by
          rintro rfl
          obtain ⟨more, kept⟩ := starts
          cases kept
        exact not_isIdle_of_mark_eq_nil unmarked same.symm filled

/-- The components of the directory of a path are those of the path without the
last one. -/
theorem components_parent? (text : List Char) :
    ((parent? text).map components).getD [] =
      directoryComponents (components text) := by
  rw [components_eq_keptPieces]
  cases kept : keptPieces text using List.reverseRecOn with
  | nil =>
      rw [parent?_of_nil kept, List.filterMap_nil, List.append_nil, mark]
      rcases cutHead_cases text with
        ⟨rest, _, cut⟩ | ⟨_, cut⟩ | ⟨rest, _, cut⟩ | ⟨_, cut⟩
      all_goals
        rw [cut]
        rfl
  | append_singleton others last _ =>
      have meaning := endsWithMeaning_keptPieces text last
        (by rw [kept, List.getLast?_concat])
      obtain ⟨component, stands⟩ : ∃ component, component? last = some component :=
        Option.isSome_iff_exists.mp (by simpa [isIdle] using meaning)
      have step := component?_isStep stands
      have starts : others.rdropWhile isIdle <+: keptPieces text := by
        rw [kept]
        exact (List.rdropWhile_prefix isIdle others).trans
          (List.prefix_append others [last])
      rw [parent?_of_append kept, Option.map_some, Option.getD_some,
        components_cutHead_append starts, filterMap_rdropWhile_isIdle,
        List.filterMap_append, List.filterMap_cons_some stands, List.filterMap_nil,
        ← List.append_assoc, directoryComponents, List.getLast?_concat,
        List.dropLast_concat]
      cases component with
      | root => cases step
      | current => rfl
      | parent => rfl
      | name text => rfl

end Path

/-- Only the root is a path whose last component is the root. -/
theorem directoryComponents_of_canonical {path : List Component}
    (canonical : Path.Canonical path) : directoryComponents path = path.dropLast := by
  unfold directoryComponents
  split
  · next last =>
      obtain ⟨front, rfl⟩ := List.getLast?_eq_some_iff.mp last
      cases front with
      | nil => rfl
      | cons first others =>
          have step := canonical.steps .root
            (List.mem_append_right others List.mem_cons_self)
          cases step
  · rfl

/-! ## What several paths share -/

theorem prefix_commonComponents_iff {path first second : List Component} :
    path <+: commonComponents first second ↔ path <+: first ∧ path <+: second := by
  constructor
  · intro starts
    obtain ⟨left, right⟩ := commonComponents_isPrefix first second
    exact ⟨starts.trans left, starts.trans right⟩
  · rintro ⟨left, right⟩
    induction path generalizing first second with
    | nil => exact List.nil_prefix
    | cons component others inductionHypothesis =>
        obtain ⟨more, rfl⟩ := left
        obtain ⟨rest, rfl⟩ := right
        rw [List.cons_append, List.cons_append, commonComponents, if_pos rfl]
        exact List.cons_prefix_cons.mpr ⟨rfl, inductionHypothesis
          (List.prefix_append others more) (List.prefix_append others rest)⟩

theorem prefix_foldl_commonComponents_iff {path start : List Component}
    {paths : List (List Component)} :
    path <+: paths.foldl commonComponents start ↔
      path <+: start ∧ ∀ other ∈ paths, path <+: other := by
  induction paths generalizing start with
  | nil => simp
  | cons first others inductionHypothesis =>
      rw [List.foldl_cons, inductionHypothesis, prefix_commonComponents_iff,
        List.forall_mem_cons, and_assoc]

theorem prefix_dropLast {path other : List Component} (starts : path <+: other)
    (part : path ≠ other) : path <+: other.dropLast := by
  cases other using List.reverseRecOn with
  | nil => exact absurd (List.prefix_nil.mp starts) part
  | append_singleton front last _ =>
      rw [List.dropLast_concat]
      exact (List.prefix_concat_iff.mp starts).resolve_left part

/-- No path is the start of another one, unless both are the same. -/
def Unnested (paths : List (List Component)) : Prop :=
  ∀ path ∈ paths, ∀ other ∈ paths, path <+: other → path = other

instance (paths : List (List Component)) : Decidable (Unnested paths) :=
  inferInstanceAs (Decidable (∀ path ∈ paths, ∀ other ∈ paths, _))

/-- Where no path lies below another one, what all share starts the directory of
each, not only that of the first one. -/
theorem prefix_sharedComponents_iff {paths : List (List Component)}
    {path : List Component} (filled : paths ≠ []) (unnested : Unnested paths)
    (canonical : ∀ other ∈ paths, Path.Canonical other) :
    path <+: sharedComponents paths ↔
      ∀ other ∈ paths, path <+: directoryComponents other := by
  cases paths with
  | nil => exact absurd rfl filled
  | cons first others =>
      rw [sharedComponents, prefix_foldl_commonComponents_iff,
        List.forall_mem_cons]
      refine and_congr_right fun inFirst => forall₂_congr fun other member => ?_
      constructor
      · intro inOther
        by_cases same : other = first
        · rw [same]
          exact inFirst
        · -- The other path does not start the first one, so a part is left.
          have part : path ≠ other := by
            rintro rfl
            exact same (unnested path (List.mem_cons_of_mem first member) first
              List.mem_cons_self
              (inFirst.trans (directoryComponents_isPrefix first)))
          rw [directoryComponents_of_canonical
            (canonical other (List.mem_cons_of_mem first member))]
          exact prefix_dropLast inOther part
      · intro inDirectory
        exact inDirectory.trans (directoryComponents_isPrefix other)

theorem sharedComponents_perm {paths order : List (List Component)}
    (unnested : Unnested paths)
    (canonical : ∀ other ∈ paths, Path.Canonical other)
    (permuted : order.Perm paths) :
    sharedComponents order = sharedComponents paths := by
  by_cases filled : paths = []
  · rw [filled] at permuted ⊢
    rw [permuted.eq_nil]
  · have filledOrder : order ≠ [] := by
      rintro rfl
      exact filled permuted.nil_eq.symm
    have alike {path : List Component} :
        path <+: sharedComponents order ↔ path <+: sharedComponents paths := by
      rw [prefix_sharedComponents_iff filled unnested canonical,
        prefix_sharedComponents_iff filledOrder
          (fun path member other inOrder =>
            unnested path (permuted.subset member) other (permuted.subset inOrder))
          (fun other member => canonical other (permuted.subset member))]
      exact forall_congr' fun other => by rw [permuted.mem_iff]
    have left := alike.mp (List.prefix_refl _)
    have right := alike.mpr (List.prefix_refl _)
    exact left.eq_of_length (Nat.le_antisymm left.length_le right.length_le)

/-- The components of the directory of a path; none if it has no directory. -/
def parentComponents (path : String) : List Component :=
  ((Path.parent? path.toList).map Path.components).getD []

/-- The base of several paths starts each of them, so each has a place relative to
it.  It is the longest list of components that starts the directory of the first
path and all others.  If no path lies below another one, it does not depend on
their order. -/
theorem base_is_deepest_shared_directory (first : String)
    (others : List String) :
    (∀ source ∈ first :: others,
      componentsOf (baseDirectory (first :: others)) <+: componentsOf source ∧
      ∃ rest,
        Path.relative? (baseDirectory (first :: others)).toList source.toList =
          some rest ∧
        componentsOf source =
          componentsOf (baseDirectory (first :: others)) ++
            Path.components rest) ∧
    (∀ path : List Component,
      path <+: componentsOf (baseDirectory (first :: others)) ↔
        path <+: parentComponents first ∧
          ∀ other ∈ others, path <+: componentsOf other) ∧
    (Unnested ((first :: others).map componentsOf) →
      ∀ order, order.Perm (first :: others) →
        baseDirectory order = baseDirectory (first :: others)) := by
  refine ⟨fun source listed => ?_, fun path => ?_,
    fun unnested order permuted => ?_⟩
  · have starts := baseDirectory_isPrefix listed
    obtain ⟨rest, found, -, dropped⟩ := Path.exists_relative?_of_prefix starts
    refine ⟨starts, rest, found, ?_⟩
    obtain ⟨behind, whole⟩ := starts
    rw [dropped]
    change componentsOf source = _ ++ (componentsOf source).drop _
    rw [← whole]
    exact congrArg _ List.drop_left.symm
  · rw [componentsOf_baseDirectory, List.map_cons, sharedComponents,
      prefix_foldl_commonComponents_iff, List.forall_mem_map, parentComponents,
      Path.components_parent?]
    rfl
  · unfold baseDirectory
    have same := sharedComponents_perm unnested
      (fun other member => by
        obtain ⟨source, -, rfl⟩ := List.mem_map.mp member
        exact Path.canonical_components source.toList)
      (permuted.map componentsOf)
    unfold componentsOf at same
    rw [same]

/-- Three sources in two directories, one of them with idle pieces in its path. -/
theorem base_is_deepest_shared_directory_templates :
    let sources :=
      ["/work//templates/./get.ts", "/work/templates/api/test.ts",
        "/work/templates/put.ts"]
    "/work/templates/api/test.ts" ∈ sources ∧
      (∃ rest, Path.relative? (baseDirectory sources).toList
        "/work/templates/api/test.ts".toList = some rest) ∧
      [.root, .name "work".toList] <+:
        componentsOf (baseDirectory sources) ∧
      Unnested (sources.map componentsOf) ∧
      baseDirectory sources = "/work/templates" ∧
      baseDirectory sources.reverse = "/work/templates" := by
  intro sources
  have listed : "/work/templates/api/test.ts" ∈ sources := by decide
  have unnested : Unnested (sources.map componentsOf) := by decide +kernel
  have base : baseDirectory sources = "/work/templates" := by decide +kernel
  obtain ⟨each, deepest, anyOrder⟩ := base_is_deepest_shared_directory
    "/work//templates/./get.ts"
    ["/work/templates/api/test.ts", "/work/templates/put.ts"]
  obtain ⟨-, rest, found, -⟩ := each _ listed
  refine ⟨listed, ⟨rest, found⟩, (deepest _).mpr (by decide +kernel), unnested,
    base, ?_⟩
  rw [← base]
  exact anyOrder unnested _ (List.reverse_perm sources)

/-- Where a path lies below another one the order matters. -/
example :
    baseDirectory ["a", "a/b.ts"] = "" ∧ baseDirectory ["a/b.ts", "a"] = "a" := by
  decide +kernel

end VelocityScript.Output
