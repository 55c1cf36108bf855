import Mathlib.Data.List.DropRight
import VelocityScript.Output.Plan

/-!
# Paths and their pieces

The components of a path are those of its pieces between separators, after what
only the start of a path can say: that it starts at the root, or at the current
directory.  Two texts with a separator between them have the components of both.
-/

namespace VelocityScript

/-! ## Cutting and joining -/

section Cutting

variable {separates : Char → Bool} {separator : Char}

theorem splitWhere_append_separator (yes : separates separator = true)
    (first rest : List Char) :
    splitWhere separates (first ++ separator :: rest) =
      splitWhere separates first ++ splitWhere separates rest := by
  induction first with
  | nil =>
      rw [List.nil_append, splitWhere]
      cases cut : splitWhere separates rest with
      | nil => exact absurd cut (splitWhere_ne_nil separates rest)
      | cons piece pieces =>
          simp only [cut, yes, if_true, splitWhere, List.singleton_append]
  | cons character others inductionHypothesis =>
      rw [List.cons_append, splitWhere, inductionHypothesis, splitWhere]
      cases cut : splitWhere separates others with
      | nil => exact absurd cut (splitWhere_ne_nil separates others)
      | cons piece pieces =>
          by_cases here : separates character = true
          · simp only [here, if_true, List.cons_append]
          · simp only [here, List.cons_append]
            rfl

theorem splitWhere_of_none {text : List Char}
    (free : ∀ character ∈ text, separates character = false) :
    splitWhere separates text = [text] := by
  induction text with
  | nil => rfl
  | cons character others inductionHypothesis =>
      have here := free character List.mem_cons_self
      have later := inductionHypothesis fun other member =>
        free other (List.mem_cons_of_mem character member)
      rw [splitWhere, later]
      simp only [here]
      rfl

theorem not_separates_of_mem_splitWhere {text piece : List Char}
    (member : piece ∈ splitWhere separates text) :
    ∀ character ∈ piece, separates character = false := by
  induction text generalizing piece with
  | nil =>
      rw [splitWhere, List.mem_singleton] at member
      rw [member]
      exact fun _ inNil => absurd inNil List.not_mem_nil
  | cons first others inductionHypothesis =>
      rw [splitWhere] at member
      cases cut : splitWhere separates others with
      | nil => exact absurd cut (splitWhere_ne_nil separates others)
      | cons next pieces =>
          rw [cut] at member inductionHypothesis
          by_cases here : separates first = true
          · simp only [here, if_true] at member
            rcases List.mem_cons.mp member with rfl | later
            · exact fun _ inNil => absurd inNil List.not_mem_nil
            · exact inductionHypothesis later
          · have apart : separates first = false := Bool.eq_false_iff.mpr here
            simp only [apart] at member
            rcases List.mem_cons.mp member with rfl | later
            · intro character inPiece
              rcases List.mem_cons.mp inPiece with rfl | inNext
              · exact apart
              · exact inductionHypothesis List.mem_cons_self character inNext
            · exact inductionHypothesis (List.mem_cons_of_mem next later)

theorem joinWith_cons_of_ne_nil (separator : Char) (piece : List Char)
    {pieces : List (List Char)} (filled : pieces ≠ []) :
    joinWith separator (piece :: pieces) =
      piece ++ separator :: joinWith separator pieces := by
  cases pieces with
  | nil => exact absurd rfl filled
  | cons next others => rfl

/-- Joined pieces end with the last one, behind a separator if there are
others. -/
theorem joinWith_concat (separator : Char) (pieces : List (List Char))
    (last : List Char) :
    joinWith separator (pieces ++ [last]) =
      (if pieces = [] then [] else joinWith separator pieces ++ [separator]) ++
        last := by
  induction pieces with
  | nil => rfl
  | cons piece others inductionHypothesis =>
      rw [List.cons_append, joinWith_cons_of_ne_nil separator piece (by simp),
        inductionHypothesis, if_neg (List.cons_ne_nil piece others)]
      by_cases alone : others = []
      · rw [if_pos alone, alone, joinWith]
        simp
      · rw [if_neg alone, joinWith_cons_of_ne_nil separator piece alone]
        simp

/-- Cutting undoes joining. -/
theorem splitWhere_joinWith {pieces : List (List Char)} (filled : pieces ≠ [])
    (whole : ∀ piece ∈ pieces, separator ∉ piece) :
    splitWhere (· == separator) (joinWith separator pieces) = pieces := by
  have uncut (piece : List Char) (free : separator ∉ piece) :
      splitWhere (· == separator) piece = [piece] := by
    apply splitWhere_of_none
    intro character member
    rw [beq_eq_false_iff_ne]
    rintro rfl
    exact free member
  induction pieces with
  | nil => exact absurd rfl filled
  | cons piece others inductionHypothesis =>
      have first := uncut piece (whole piece List.mem_cons_self)
      by_cases alone : others = []
      · rw [alone, joinWith]
        exact first
      · have later := inductionHypothesis alone fun other member =>
          whole other (List.mem_cons_of_mem piece member)
        rw [joinWith_cons_of_ne_nil separator piece alone,
          splitWhere_append_separator (by simp), first, later]
        rfl

end Cutting

namespace Output

/-- Whether a component is a step from a directory: to one above it, or to a
name in it. -/
def Component.isStep : Component → Bool
  | .parent | .name _ => true
  | .root | .current => false

namespace Path

/-! ## Pieces and components -/

theorem component?_isStep {piece : List Char} {component : Component}
    (found : component? piece = some component) : component.isStep = true := by
  unfold component? at found
  split at found
  · cases found
  · split at found
    · cases found
      rfl
    · cases found
      rfl

theorem eq_of_component?_name {piece name : List Char}
    (found : component? piece = some (.name name)) : piece = name := by
  unfold component? at found
  split at found
  · cases found
  · split at found
    · cases found
    · cases found
      rfl

/-- A text that is a name between separators. -/
structure IsName (name : List Char) : Prop where
  whole : '/' ∉ name
  meaning : component? name = some (.name name)

theorem isName_iff {name : List Char} :
    IsName name ↔
      '/' ∉ name ∧ name ≠ [] ∧ name ≠ ['.'] ∧ name ≠ ['.', '.'] := by
  constructor
  · rintro ⟨whole, meaning⟩
    refine ⟨whole, ?_, ?_, ?_⟩
    all_goals
      rintro rfl
      cases meaning
  · rintro ⟨whole, filled, dot, dots⟩
    refine ⟨whole, ?_⟩
    rw [component?, if_neg (by simp [filled, dot]), if_neg dots]

theorem isStep_of_mem_bodyComponents {text : List Char} {component : Component}
    (member : component ∈ bodyComponents text) : component.isStep = true := by
  obtain ⟨piece, _, found⟩ := List.mem_filterMap.mp member
  exact component?_isStep found

theorem isName_of_mem_bodyComponents {text name : List Char}
    (member : .name name ∈ bodyComponents text) : IsName name := by
  obtain ⟨piece, inText, found⟩ := List.mem_filterMap.mp member
  have same := eq_of_component?_name found
  rw [same] at inText found
  refine ⟨fun separator => ?_, found⟩
  have apart := not_separates_of_mem_splitWhere inText '/' separator
  cases apart

theorem bodyComponents_append (first rest : List Char) :
    bodyComponents (first ++ '/' :: rest) =
      bodyComponents first ++ bodyComponents rest := by
  unfold bodyComponents
  rw [splitWhere_append_separator rfl, List.filterMap_append]

theorem bodyComponents_of_whole {piece : List Char} (whole : '/' ∉ piece) :
    bodyComponents piece = (component? piece).toList := by
  have uncut : splitWhere (· == '/') piece = [piece] := by
    apply splitWhere_of_none
    intro character member
    rw [beq_eq_false_iff_ne]
    rintro rfl
    exact whole member
  unfold bodyComponents
  rw [uncut]
  cases found : component? piece with
  | none => rw [List.filterMap_cons_none found]; rfl
  | some component => rw [List.filterMap_cons_some found]; rfl

theorem bodyComponents_joinWith {pieces : List (List Char)}
    (whole : ∀ piece ∈ pieces, '/' ∉ piece) :
    bodyComponents (joinWith '/' pieces) = pieces.filterMap component? := by
  by_cases empty : pieces = []
  · rw [empty]
    rfl
  · rw [bodyComponents, splitWhere_joinWith empty whole]

/-! ## The start of a path -/

/-- The component that only the start of a path can be, if its start is one. -/
def mark (text : List Char) : List Component :=
  headComponents (cutHead text).1

theorem mark_separator (rest : List Char) : mark ('/' :: rest) = [.root] := by
  rfl

theorem mark_append {first : List Char} (filled : first ≠ []) (rest : List Char) :
    mark (first ++ '/' :: rest) = mark first := by
  cases first with
  | nil => exact absurd rfl filled
  | cons start others =>
      by_cases root : start = '/'
      · rw [root]
        rfl
      · by_cases dot : start = '.'
        · rw [dot]
          cases others with
          | nil => rfl
          | cons next more =>
              by_cases separated : next = '/'
              · rw [separated]
                rfl
              · simp [mark, cutHead, separated]
        · simp [mark, cutHead, root, dot]

theorem mark_of_whole {piece : List Char} (whole : '/' ∉ piece)
    (named : piece ≠ ['.']) : mark piece = [] := by
  unfold mark cutHead
  split
  · exact absurd List.mem_cons_self whole
  · exact absurd rfl named
  · exact absurd (List.mem_cons_of_mem '.' List.mem_cons_self) whole
  · rfl

theorem not_isStep_of_mem_mark {text : List Char} {component : Component}
    (member : component ∈ mark text) : component.isStep = false := by
  unfold mark headComponents at member
  split at member
  · cases List.mem_singleton.mp member
    rfl
  · split at member
    · cases List.mem_singleton.mp member
      rfl
    · cases member

/-- The components of a path are its mark and those of its pieces. -/
theorem components_eq (text : List Char) :
    components text = mark text ++ bodyComponents text := by
  have body : bodyComponents (cutHead text).2 = bodyComponents text := by
    unfold cutHead
    split
    · next rest => exact (bodyComponents_append [] rest).symm
    · rfl
    · next rest =>
        have pieces := bodyComponents_append ['.'] rest
        have empty := bodyComponents_append [] rest
        rw [List.nil_append] at empty
        rw [List.singleton_append] at pieces
        rw [pieces, empty]
        rfl
    · rfl
  rw [← body]
  rfl

theorem filter_isStep_components (text : List Char) :
    (components text).filter Component.isStep = bodyComponents text := by
  have marked : (mark text).filter Component.isStep = [] := by
    rw [List.filter_eq_nil_iff]
    intro component member
    rw [not_isStep_of_mem_mark member]
    exact Bool.false_ne_true
  have steps : (bodyComponents text).filter Component.isStep =
      bodyComponents text := by
    rw [List.filter_eq_self]
    exact fun component member => isStep_of_mem_bodyComponents member
  rw [components_eq, List.filter_append, marked, steps, List.nil_append]

theorem isName_of_mem_components {text name : List Char}
    (member : .name name ∈ components text) : IsName name := by
  have step : .name name ∈ (components text).filter Component.isStep :=
    List.mem_filter.mpr ⟨member, rfl⟩
  rw [filter_isStep_components] at step
  exact isName_of_mem_bodyComponents step

/-- Only the first component can be no step. -/
theorem isStep_of_mem_tail_components {text : List Char} {component : Component}
    (member : component ∈ (components text).tail) : component.isStep = true := by
  have short : (mark text).length ≤ 1 := by
    unfold mark headComponents
    split
    · exact Nat.le_refl 1
    · split
      · exact Nat.le_refl 1
      · exact Nat.zero_le 1
  rw [components_eq] at member
  cases marked : mark text with
  | nil =>
      rw [marked, List.nil_append] at member
      exact isStep_of_mem_bodyComponents (List.mem_of_mem_tail member)
  | cons first others =>
      have alone : others = [] := by
        rw [marked, List.length_cons] at short
        exact List.length_eq_zero_iff.mp (by omega)
      rw [marked, alone, List.singleton_append, List.tail_cons] at member
      exact isStep_of_mem_bodyComponents member

theorem components_append {first : List Char} (filled : first ≠ [])
    (rest : List Char) :
    components (first ++ '/' :: rest) =
      components first ++ bodyComponents rest := by
  rw [components_eq, mark_append filled, bodyComponents_append, components_eq first,
    List.append_assoc]

theorem components_separator (rest : List Char) :
    components ('/' :: rest) = .root :: bodyComponents rest := by
  have body := bodyComponents_append [] rest
  rw [List.nil_append] at body
  rw [components_eq, mark_separator, body]
  rfl

/-- A separator at the end of a path has no meaning, unless it is the whole
path. -/
theorem components_append_of_separator (first rest : List Char) :
    components (first ++ '/' :: rest) =
      components (first ++ ['/']) ++ bodyComponents rest := by
  by_cases empty : first = []
  · rw [empty, List.nil_append, List.nil_append, components_separator,
      components_separator]
    rfl
  · rw [components_append empty, components_append empty]
    have nothing : bodyComponents [] = [] := rfl
    rw [nothing, List.append_nil]

theorem components_of_whole {piece : List Char} (whole : '/' ∉ piece)
    (named : piece ≠ ['.']) : components piece = (component? piece).toList := by
  rw [components_eq, mark_of_whole whole named, bodyComponents_of_whole whole,
    List.nil_append]

theorem components_ne_nil {text : List Char} (filled : text ≠ []) :
    components text ≠ [] := by
  cases text with
  | nil => exact absurd rfl filled
  | cons start others =>
      by_cases root : start = '/'
      · rw [root, components_separator]
        exact List.cons_ne_nil _ _
      · intro empty
        rw [components_eq, List.append_eq_nil_iff] at empty
        obtain ⟨unmarked, idle⟩ := empty
        -- The first piece is not empty, so it can only be a dot, which is a mark.
        rw [bodyComponents, splitWhere] at idle
        cases cut : splitWhere (· == '/') others with
        | nil => exact absurd cut (splitWhere_ne_nil _ others)
        | cons piece pieces =>
            have apart : (start == '/') = false := beq_eq_false_iff_ne.mpr root
            rw [cut] at idle
            simp only [apart] at idle
            have first := List.filterMap_eq_nil_iff.mp idle (start :: piece)
              List.mem_cons_self
            have dot : start :: piece = ['.'] := by
              unfold component? at first
              split at first
              · next dotted => simpa using dotted
              · split at first
                · cases first
                · cases first
            injection dot with dot alone
            have rejoined := joinWith_splitWhere '/' others
            rw [cut, alone] at rejoined
            rw [dot] at unmarked
            cases pieces with
            | nil =>
                rw [joinWith] at rejoined
                rw [← rejoined] at unmarked
                cases unmarked
            | cons next more =>
                rw [joinWith_cons_of_ne_nil '/' [] (List.cons_ne_nil next more),
                  List.nil_append] at rejoined
                rw [← rejoined] at unmarked
                cases unmarked

/-! ## Joining paths -/

theorem components_join (base text : List Char) :
    components (join base text) =
      if isAbsolute text ∨ base = [] then
        components text
      else
        components base ++ bodyComponents text := by
  unfold join
  by_cases absolute : isAbsolute text = true
  · rw [if_pos absolute, if_pos (Or.inl absolute)]
  · by_cases empty : base = []
    · rw [if_neg absolute, if_pos (Or.inl empty), if_pos (Or.inr empty), empty,
        List.nil_append]
    · have below : ¬(isAbsolute text = true ∨ base = []) :=
        not_or.mpr ⟨absolute, empty⟩
      rw [if_neg absolute, if_neg below]
      by_cases separated : base.getLast? = some '/'
      · obtain ⟨front, same⟩ := List.getLast?_eq_some_iff.mp separated
        rw [if_pos (Or.inr separated), same, List.append_assoc,
          List.singleton_append, components_append_of_separator]
      · have bare : ¬(base = [] ∨ base.getLast? = some '/') :=
          not_or.mpr ⟨empty, separated⟩
        rw [if_neg bare, components_append empty]

end Path

end Output

end VelocityScript
