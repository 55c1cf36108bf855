import VelocityScript.Proofs.Output.Places

/-!
# Extensions

A path with another extension differs from the path before in its file name
only.  A file name that has two dots in front of its extension, or three of
them, can leave a step upwards.
-/

namespace VelocityScript.Output.Path

/-- A file name without its extension. -/
def stem (name : List Char) : List Char :=
  (cutExtension name).1

theorem cutExtension_append {stem extension : List Char} (filled : stem ≠ [])
    (undotted : '.' ∉ extension) :
    cutExtension (stem ++ '.' :: extension) = (stem, extension) := by
  have dotless : ∀ character ∈ extension.reverse, (character != '.') = true := by
    intro character member
    rw [bne_iff_ne]
    rintro rfl
    exact undotted (List.mem_reverse.mp member)
  have reversed : (stem ++ '.' :: extension).reverse =
      extension.reverse ++ '.' :: stem.reverse := by
    simp
  have taken : (extension.reverse ++ '.' :: stem.reverse).takeWhile (· != '.') =
      extension.reverse := by
    rw [List.takeWhile_append_of_pos dotless, List.takeWhile_cons_of_neg (by simp),
      List.append_nil]
  have dropped : (extension.reverse ++ '.' :: stem.reverse).dropWhile (· != '.') =
      '.' :: stem.reverse := by
    rw [List.dropWhile_append_of_pos dotless, List.dropWhile_cons_of_neg (by simp)]
  unfold cutExtension
  rw [reversed]
  dsimp only
  rw [taken, dropped]
  cases backwards : stem.reverse with
  | nil => exact absurd (List.reverse_eq_nil_iff.mp backwards) filled
  | cons last others =>
      dsimp only
      rw [← backwards, List.reverse_reverse, List.reverse_reverse]

/-- A file name is not cut, or it is cut at its last dot. -/
theorem cutExtension_cases (name : List Char) :
    cutExtension name = (name, []) ∨
      ∃ stem extension, stem ≠ [] ∧ name = stem ++ '.' :: extension ∧
        cutExtension name = (stem, extension) := by
  cases rest : name.reverse.dropWhile (· != '.') with
  | nil =>
      refine Or.inl ?_
      unfold cutExtension
      dsimp only
      rw [rest]
  | cons dot others =>
      cases others with
      | nil =>
          refine Or.inl ?_
          unfold cutExtension
          dsimp only
          rw [rest]
      | cons last more =>
          have dotted : dot = '.' := by
            have stops := List.head?_dropWhile_not (· != '.') name.reverse
            rw [rest] at stops
            simpa using stops
          have whole := List.takeWhile_append_dropWhile (p := (· != '.'))
            (l := name.reverse)
          rw [rest, dotted] at whole
          have same : name = (last :: more).reverse ++
              '.' :: (name.reverse.takeWhile (· != '.')).reverse := by
            rw [← List.reverse_reverse name]
            conv_lhs => rw [← whole]
            simp
          refine Or.inr ⟨(last :: more).reverse,
            (name.reverse.takeWhile (· != '.')).reverse, by simp, same, ?_⟩
          unfold cutExtension
          dsimp only
          rw [rest]

theorem stem_ne_nil {name : List Char} (named : IsName name) : stem name ≠ [] := by
  unfold stem
  rcases cutExtension_cases name with uncut | ⟨front, extension, filled, _, cut⟩
  · rw [uncut]
    exact (isName_iff.mp named).2.1
  · rw [cut]
    exact filled

theorem whole_stem {name : List Char} (named : IsName name) : '/' ∉ stem name := by
  unfold stem
  rcases cutExtension_cases name with uncut | ⟨front, extension, _, same, cut⟩
  · rw [uncut]
    exact named.whole
  · rw [cut]
    intro member
    apply named.whole
    rw [same]
    exact List.mem_append_left _ member

/-- A file name with another extension.  The dot of the old extension goes with
it, except where it is needed as the second of two. -/
def renamed (extension name : List Char) : List Char :=
  if stem name = ['.'] then
    ['.', '.']
  else if extension = [] then
    stem name
  else
    stem name ++ '.' :: extension

/-- The new extension is added to what is left of a file name, if that is one
again. -/
theorem withExtension_of_dropExtension {front name kept extension : List Char}
    (opening : IsFront front) (named : IsName kept)
    (same : stem kept = stem name) (apart : stem name ≠ ['.'])
    (dropped : dropExtension (front ++ name) = front ++ kept) :
    withExtension (front ++ name) extension = front ++ renamed extension name := by
  unfold withExtension
  dsimp only
  rw [dropped, fileName?_front_append opening named]
  dsimp only
  rw [trimEnd_front_append opening named, List.length_append, Nat.add_sub_cancel,
    List.take_left, renamed, if_neg apart, ← same]
  by_cases removed : extension = []
  · rw [if_pos removed, if_pos removed]
    rfl
  · rw [if_neg removed, if_neg removed, List.append_assoc]
    rfl

theorem fileName?_front_dots {front : List Char} (opening : IsFront front) :
    fileName? (front ++ ['.', '.']) = none := by
  have ends : components (front ++ ['.', '.']) = _ :=
    components_front_append opening (by simp) (by simp)
  have parent : component? ['.', '.'] = some .parent := rfl
  unfold fileName?
  rw [ends, parent, Option.toList_some, List.getLast?_concat]

/-- The stem of a file name is a file name with a dot behind it, too, unless it
is a dot itself. -/
theorem isName_stem_dot {name : List Char} (named : IsName name)
    (apart : stem name ≠ ['.']) : IsName (stem name ++ ['.']) := by
  have filled := stem_ne_nil named
  rw [isName_iff]
  refine ⟨?_, by simp, by simp [filled], ?_⟩
  · rw [List.mem_append, not_or]
    exact ⟨whole_stem named, by simp⟩
  · intro upwards
    have again : stem name ++ ['.'] = ['.'] ++ ['.'] := upwards
    exact apart (List.append_cancel_right again)

/-- Another extension changes the file name of a trimmed path.  What is left
before the new extension is added ends with a file name again, unless only two
dots are left of the old one. -/
theorem withExtension_front_append {front name extension : List Char}
    (opening : IsFront front) (named : IsName name) :
    withExtension (front ++ name) extension = front ++ renamed extension name := by
  have found := fileName?_front_append opening named
  rcases cutExtension_cases name with uncut | ⟨start, old, filled, same, cut⟩
  · have apart : stem name ≠ ['.'] := by
      rw [stem, uncut]
      exact named.ne_dot
    have dropped : dropExtension (front ++ name) = front ++ name := by
      rw [dropExtension, found]
      dsimp only
      rw [uncut, List.length_nil, Nat.sub_zero, List.take_length]
    exact withExtension_of_dropExtension opening named rfl apart dropped
  · have stems : stem name = start := by
      rw [stem, cut]
    have dropped : dropExtension (front ++ name) = front ++ (start ++ ['.']) := by
      rw [dropExtension, found]
      dsimp only
      have shape : front ++ name = (front ++ (start ++ ['.'])) ++ old := by
        rw [same]
        simp
      rw [cut, shape, List.length_append, Nat.add_sub_cancel, List.take_left]
    rw [← stems] at dropped filled
    by_cases dot : stem name = ['.']
    · rw [dot, List.singleton_append] at dropped
      unfold withExtension
      dsimp only
      rw [dropped, fileName?_front_dots opening, renamed, if_pos dot]
    · have again : stem (stem name ++ ['.']) = stem name := by
        rw [stem, cutExtension_append filled List.not_mem_nil]
      exact withExtension_of_dropExtension opening (isName_stem_dot named dot) again
        dot dropped

theorem withExtension_of_fileName?_eq_none {text : List Char}
    (unnamed : fileName? text = none) (extension : List Char) :
    withExtension text extension = text := by
  have dropped : dropExtension text = text := by
    rw [dropExtension, unnamed]
  unfold withExtension
  dsimp only
  rw [dropped, unnamed]

/-! ## Components -/

/-- The component that a file name becomes with another extension. -/
def titled (extension name : List Char) : Component :=
  if renamed extension name = ['.', '.'] then
    .parent
  else
    .name (renamed extension name)

theorem renamed_spec {extension name : List Char} (whole : '/' ∉ extension)
    (named : IsName name) :
    '/' ∉ renamed extension name ∧ renamed extension name ≠ ['.'] ∧
      component? (renamed extension name) = some (titled extension name) := by
  have filled := stem_ne_nil named
  have unseparated := whole_stem named
  have shape : '/' ∉ renamed extension name ∧ renamed extension name ≠ [] ∧
      renamed extension name ≠ ['.'] := by
    unfold renamed
    by_cases dot : stem name = ['.']
    · rw [if_pos dot]
      simp
    · rw [if_neg dot]
      by_cases removed : extension = []
      · rw [if_pos removed]
        exact ⟨unseparated, filled, dot⟩
      · rw [if_neg removed]
        refine ⟨?_, by simp, ?_⟩
        · rw [List.mem_append, List.mem_cons, not_or, not_or]
          exact ⟨unseparated, by simp, whole⟩
        · intro same
          have lengths := congrArg List.length same
          rw [List.length_append, List.length_cons] at lengths
          have shorter : (stem name).length = 0 := by
            rw [List.length_singleton] at lengths
            omega
          exact filled (List.length_eq_zero_iff.mp shorter)
  obtain ⟨free, filled, apart⟩ := shape
  refine ⟨free, apart, ?_⟩
  unfold component? titled
  rw [if_neg (not_or.mpr ⟨filled, apart⟩)]
  split
  · rfl
  · rfl

theorem isStep_titled (extension name : List Char) :
    (titled extension name).isStep = true := by
  unfold titled
  split
  · rfl
  · rfl

/-- A path, by its components, with another extension of its file name. -/
def retitled (extension : List Char) (path : List Component) : List Component :=
  match path.getLast? with
  | some (.name name) => path.dropLast ++ [titled extension name]
  | _ => path

theorem retitled_of_unnamed {path : List Component}
    (unnamed : ∀ name, path.getLast? ≠ some (.name name)) (extension : List Char) :
    retitled extension path = path := by
  unfold retitled
  split
  · next name last => exact absurd last (unnamed name)
  · rfl

theorem components_withExtension {text extension : List Char}
    (trimmed : trimEnd text = text) (whole : '/' ∉ extension) :
    components (withExtension text extension) =
      retitled extension (components text) := by
  cases found : fileName? text with
  | none =>
      have unnamed (name : List Char) :
          (components text).getLast? ≠ some (.name name) := by
        intro last
        rw [fileName?_eq_some_iff.mpr last] at found
        cases found
      rw [withExtension_of_fileName?_eq_none found, retitled_of_unnamed unnamed]
  | some name =>
      have last := fileName?_eq_some_iff.mp found
      have named := isName_of_mem_components (List.mem_of_getLast? last)
      obtain ⟨front, opening, rfl⟩ := exists_front_of_fileName? trimmed found
      obtain ⟨free, apart, meaning⟩ := renamed_spec whole named
      rw [withExtension_front_append opening named,
        components_front_append opening free apart, meaning,
        components_front_name opening named, retitled, List.getLast?_concat]
      dsimp only
      rw [List.dropLast_concat]
      rfl

end VelocityScript.Output.Path
