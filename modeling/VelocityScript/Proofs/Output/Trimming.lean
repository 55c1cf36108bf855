import VelocityScript.Proofs.Output.Pieces

/-!
# Parts of paths

A path that is trimmed ends with its file name, if it has one.  Trimming keeps
the components of a path, and what is left of a path after a base has the
components behind those of the base.
-/

namespace VelocityScript.Output.Path

/-! ## File names -/

/-- A text in front of a file name: nothing, or a text that ends with a
separator. -/
def IsFront (front : List Char) : Prop :=
  front = [] ∨ ∃ directory, front = directory ++ ['/']

theorem IsFront.tail {character : Char} {front : List Char}
    (opening : IsFront (character :: front)) : IsFront front := by
  rcases opening with nothing | ⟨directory, same⟩
  · cases nothing
  · cases directory with
    | nil =>
        injection same with _ rest
        exact Or.inl rest
    | cons first others =>
        injection same with _ rest
        exact Or.inr ⟨others, rest⟩

theorem components_front_append {front piece : List Char}
    (opening : IsFront front) (whole : '/' ∉ piece) (named : piece ≠ ['.']) :
    components (front ++ piece) =
      components front ++ (component? piece).toList := by
  rcases opening with rfl | ⟨directory, rfl⟩
  · exact components_of_whole whole named
  · rw [List.append_assoc, List.singleton_append, components_append_of_separator,
      bodyComponents_of_whole whole]

theorem IsName.ne_dot {name : List Char} (named : IsName name) : name ≠ ['.'] :=
  (isName_iff.mp named).2.2.1

theorem components_front_name {front name : List Char}
    (opening : IsFront front) (named : IsName name) :
    components (front ++ name) = components front ++ [.name name] := by
  rw [components_front_append opening named.whole named.ne_dot, named.meaning]
  rfl

theorem fileName?_eq_some_iff {text name : List Char} :
    fileName? text = some name ↔
      (components text).getLast? = some (.name name) := by
  unfold fileName?
  split
  · next last found =>
      rw [found]
      simp
  · next other =>
      constructor
      · exact nofun
      · intro found
        exact absurd found (other name)

theorem fileName?_front_append {front name : List Char}
    (opening : IsFront front) (named : IsName name) :
    fileName? (front ++ name) = some name := by
  rw [fileName?_eq_some_iff, components_front_name opening named,
    List.getLast?_concat]

theorem splitWhere_front_append {front name : List Char}
    (opening : IsFront front) (whole : '/' ∉ name) :
    ∃ pieces, splitWhere (· == '/') (front ++ name) = pieces ++ [name] := by
  have uncut : splitWhere (· == '/') name = [name] :=
    splitWhere_joinWith (List.cons_ne_nil name [])
      (List.forall_mem_singleton.mpr whole)
  rcases opening with rfl | ⟨directory, rfl⟩
  · exact ⟨[], uncut⟩
  · refine ⟨splitWhere (· == '/') directory, ?_⟩
    rw [List.append_assoc, List.singleton_append, splitWhere_append_separator rfl,
      uncut]

/-! ## Trimming -/

/-- The ways in which a path starts. -/
theorem cutHead_cases (text : List Char) :
    (∃ rest, text = '/' :: rest ∧ cutHead text = (['/'], rest)) ∨
      (text = ['.'] ∧ cutHead text = (['.'], [])) ∨
      (∃ rest, text = '.' :: '/' :: rest ∧
        cutHead text = (['.'], '/' :: rest)) ∨
      (mark text = [] ∧ cutHead text = ([], text)) := by
  unfold mark cutHead
  split
  · next rest => exact Or.inl ⟨rest, rfl, rfl⟩
  · exact Or.inr (Or.inl ⟨rfl, rfl⟩)
  · next rest => exact Or.inr (Or.inr (Or.inl ⟨rest, rfl, rfl⟩))
  · exact Or.inr (Or.inr (Or.inr ⟨rfl, rfl⟩))

theorem cutHead_of_mark_eq_nil {text : List Char} (unmarked : mark text = []) :
    cutHead text = ([], text) := by
  rcases cutHead_cases text with
    ⟨rest, rfl, _⟩ | ⟨rfl, _⟩ | ⟨rest, rfl, _⟩ | ⟨_, cut⟩
  · cases unmarked
  · cases unmarked
  · cases unmarked
  · exact cut

/-- Whether a piece of a path has no meaning. -/
def isIdle (piece : List Char) : Bool :=
  (component? piece).isNone

/-- The pieces of a path behind its start, up to the last one with a meaning. -/
def keptPieces (text : List Char) : List (List Char) :=
  (splitWhere (· == '/') (cutHead text).2).rdropWhile isIdle

theorem trimEnd_eq (text : List Char) :
    trimEnd text = (cutHead text).1 ++ joinWith '/' (keptPieces text) := by
  rfl

theorem cutHead_append (text : List Char) :
    (cutHead text).1 ++ (cutHead text).2 = text := by
  unfold cutHead
  split <;> rfl

theorem whole_of_mem_splitWhere {text piece : List Char}
    (member : piece ∈ splitWhere (· == '/') text) : '/' ∉ piece := by
  intro separator
  have apart := not_separates_of_mem_splitWhere member '/' separator
  cases apart

theorem whole_of_mem_keptPieces {text piece : List Char}
    (member : piece ∈ keptPieces text) : '/' ∉ piece := by
  have start := List.rdropWhile_prefix isIdle (splitWhere (· == '/') (cutHead text).2)
  exact whole_of_mem_splitWhere (start.subset member)

theorem filterMap_rdropWhile_isIdle (pieces : List (List Char)) :
    (pieces.rdropWhile isIdle).filterMap component? =
      pieces.filterMap component? := by
  induction pieces using List.reverseRecOn with
  | nil => rfl
  | append_singleton others last inductionHypothesis =>
      by_cases idle : isIdle last = true
      · have nothing : component? last = none := Option.isNone_iff_eq_none.mp idle
        rw [List.rdropWhile_concat_pos _ _ _ idle, inductionHypothesis,
          List.filterMap_append, List.filterMap_cons_none nothing,
          List.filterMap_nil, List.append_nil]
      · rw [List.rdropWhile_concat_neg _ _ _ idle]

/-- The pieces end with one that has a meaning, if there are any. -/
def EndsWithMeaning (pieces : List (List Char)) : Prop :=
  ∀ last, pieces.getLast? = some last → isIdle last = false

theorem endsWithMeaning_keptPieces (text : List Char) :
    EndsWithMeaning (keptPieces text) := by
  intro last found
  have filled : keptPieces text ≠ [] := by
    intro empty
    rw [empty] at found
    cases found
  have same : (keptPieces text).getLast filled = last := by
    rw [List.getLast?_eq_some_getLast filled] at found
    exact Option.some.inj found
  have meaning := List.rdropWhile_last_not isIdle _ filled
  rw [← same]
  exact Bool.eq_false_iff.mpr meaning

theorem EndsWithMeaning.rdropWhile_eq {pieces : List (List Char)}
    (meaningful : EndsWithMeaning pieces) : pieces.rdropWhile isIdle = pieces := by
  rw [List.rdropWhile_eq_self_iff]
  intro filled idle
  have meaning := meaningful _ (List.getLast?_eq_some_getLast filled)
  rw [meaning] at idle
  cases idle

theorem EndsWithMeaning.suffix {pieces others : List (List Char)}
    (meaningful : EndsWithMeaning pieces) (suffix : others <:+ pieces) :
    EndsWithMeaning others := by
  intro last found
  obtain ⟨front, rfl⟩ := suffix
  apply meaningful last
  rw [List.getLast?_append, found]
  rfl

/-- Where the last piece has a meaning nothing is trimmed. -/
theorem trimEnd_eq_self {text : List Char}
    (meaningful :
      EndsWithMeaning (splitWhere (· == '/') (cutHead text).2)) :
    trimEnd text = text := by
  rw [trimEnd_eq, keptPieces, meaningful.rdropWhile_eq, joinWith_splitWhere,
    cutHead_append]

/-- A path that ends with a file name does so behind its start. -/
theorem exists_front_of_cutHead {front name : List Char}
    (opening : IsFront front) (named : IsName name) :
    ∃ rest, IsFront rest ∧ (cutHead (front ++ name)).2 = rest ++ name := by
  rcases cutHead_cases (front ++ name) with
    ⟨rest, same, cut⟩ | ⟨same, _⟩ | ⟨rest, same, cut⟩ | ⟨_, cut⟩
  · cases front with
    | nil =>
        rw [List.nil_append] at same
        have whole := named.whole
        rw [same] at whole
        exact absurd List.mem_cons_self whole
    | cons character others =>
        injection same with _ same
        rw [cut]
        exact ⟨others, opening.tail, same.symm⟩
  · cases front with
    | nil => exact absurd same named.ne_dot
    | cons character others =>
        injection same with _ same
        have nothing := (List.append_eq_nil_iff.mp same).2
        exact absurd nothing (isName_iff.mp named).2.1
  · cases front with
    | nil =>
        rw [List.nil_append] at same
        have whole := named.whole
        rw [same] at whole
        exact absurd (List.mem_cons_of_mem '.' List.mem_cons_self) whole
    | cons character others =>
        injection same with _ same
        rw [cut]
        exact ⟨others, opening.tail, same.symm⟩
  · rw [cut]
    exact ⟨front, opening, rfl⟩

theorem trimEnd_front_append {front name : List Char}
    (opening : IsFront front) (named : IsName name) :
    trimEnd (front ++ name) = front ++ name := by
  obtain ⟨rest, opens, body⟩ := exists_front_of_cutHead opening named
  obtain ⟨pieces, cut⟩ := splitWhere_front_append opens named.whole
  apply trimEnd_eq_self
  rw [body, cut]
  intro last found
  rw [List.getLast?_concat] at found
  cases found
  rw [isIdle, named.meaning]
  rfl

/-- Joined pieces of which the first one has a meaning have no mark. -/
theorem mark_joinWith {pieces : List (List Char)}
    (whole : ∀ piece ∈ pieces, '/' ∉ piece)
    (meaningful : ∀ first, pieces.head? = some first → isIdle first = false) :
    mark (joinWith '/' pieces) = [] := by
  cases pieces with
  | nil => rfl
  | cons first others =>
      have meaning := meaningful first rfl
      have named : first ≠ ['.'] := by
        rintro rfl
        cases meaning
      have filled : first ≠ [] := by
        rintro rfl
        cases meaning
      have alone := mark_of_whole (whole first List.mem_cons_self) named
      by_cases empty : others = []
      · rw [empty]
        exact alone
      · rw [joinWith_cons_of_ne_nil '/' first empty, mark_append filled]
        exact alone

theorem isIdle_iff {piece : List Char} :
    isIdle piece = true ↔ piece = [] ∨ piece = ['.'] := by
  unfold isIdle component?
  split
  · next idle => simp [idle]
  · next apart =>
      split
      · next upwards => simp [upwards]
      · simpa using apart

/-- Without a mark, a path starts with a piece that has a meaning. -/
theorem not_isIdle_of_mark_eq_nil {text first : List Char}
    {others : List (List Char)} (unmarked : mark text = [])
    (cut : splitWhere (· == '/') text = first :: others) (filled : text ≠ []) :
    isIdle first = false := by
  have rejoined := joinWith_splitWhere '/' text
  rw [cut] at rejoined
  rw [Bool.eq_false_iff]
  intro idle
  by_cases empty : others = []
  · rw [empty, joinWith] at rejoined
    rcases isIdle_iff.mp idle with nothing | dot
    · exact filled (rejoined.symm.trans nothing)
    · rw [← rejoined, dot] at unmarked
      cases unmarked
  · rw [joinWith_cons_of_ne_nil '/' first empty] at rejoined
    rw [← rejoined] at unmarked
    rcases isIdle_iff.mp idle with nothing | dot
    · rw [nothing] at unmarked
      cases unmarked
    · rw [dot] at unmarked
      cases unmarked

/-- Behind a dot at the start nothing is kept, or what is kept starts with a
separator: the first piece is empty. -/
theorem keptPieces_of_dot {text rest : List Char}
    (cut : cutHead text = (['.'], '/' :: rest)) :
    keptPieces text = [] ∨
      ∃ next more, keptPieces text = [] :: next :: more := by
  have meaningful := endsWithMeaning_keptPieces text
  have start : keptPieces text <+: [] :: splitWhere (· == '/') rest := by
    have whole : splitWhere (· == '/') ('/' :: rest) =
        [] :: splitWhere (· == '/') rest :=
      splitWhere_append_separator rfl [] rest
    rw [keptPieces, cut, whole]
    exact List.rdropWhile_prefix isIdle _
  cases kept : keptPieces text with
  | nil => exact Or.inl rfl
  | cons first others =>
      rw [kept] at start meaningful
      obtain ⟨rfl, _⟩ := List.cons_prefix_cons.mp start
      cases others with
      | nil => cases meaningful [] rfl
      | cons next more => exact Or.inr ⟨next, more, rfl⟩

/-- Trimming keeps the start of a path. -/
theorem cutHead_trimEnd (text : List Char) :
    cutHead (trimEnd text) =
      ((cutHead text).1, joinWith '/' (keptPieces text)) := by
  have meaningful := endsWithMeaning_keptPieces text
  rw [trimEnd_eq]
  rcases cutHead_cases text with
    ⟨rest, _, cut⟩ | ⟨same, cut⟩ | ⟨rest, _, cut⟩ | ⟨unmarked, cut⟩
  · rw [cut]
    rfl
  · rw [same]
    rfl
  · have shape := keptPieces_of_dot cut
    rw [cut]
    rcases shape with nothing | ⟨next, more, filled⟩
    · rw [nothing]
      rfl
    · rw [filled, joinWith_cons_of_ne_nil '/' [] (List.cons_ne_nil next more)]
      rfl
  · rw [cut, List.nil_append]
    apply cutHead_of_mark_eq_nil
    apply mark_joinWith fun piece member => whole_of_mem_keptPieces member
    intro first found
    have start : keptPieces text <+: splitWhere (· == '/') text := by
      rw [keptPieces, cut]
      exact List.rdropWhile_prefix isIdle _
    cases kept : keptPieces text with
    | nil =>
        rw [kept] at found
        cases found
    | cons leading more =>
        rw [kept] at found start meaningful
        cases found
        obtain ⟨rest, same⟩ := start
        rw [List.cons_append] at same
        have filled : text ≠ [] := by
          rintro rfl
          have alone : more = [] := by
            injection same with _ same
            exact (List.append_eq_nil_iff.mp same).1
          have blank : first = [] := by
            injection same
          have meaning := meaningful first (by rw [alone]; rfl)
          rw [blank] at meaning
          cases meaning
        exact not_isIdle_of_mark_eq_nil unmarked same.symm filled

/-! ## What trimming keeps -/

theorem keptPieces_trimEnd (text : List Char) :
    keptPieces (trimEnd text) = keptPieces text := by
  have meaningful := endsWithMeaning_keptPieces text
  have cut := cutHead_trimEnd text
  unfold keptPieces at cut meaningful ⊢
  rw [cut]
  by_cases empty : (splitWhere (· == '/') (cutHead text).2).rdropWhile isIdle = []
  · rw [empty]
    rfl
  · rw [splitWhere_joinWith empty fun piece member =>
      whole_of_mem_keptPieces member, meaningful.rdropWhile_eq]

theorem trimEnd_trimEnd (text : List Char) :
    trimEnd (trimEnd text) = trimEnd text := by
  rw [trimEnd_eq (trimEnd text), keptPieces_trimEnd, cutHead_trimEnd, ← trimEnd_eq]

/-- The components of a path are those of its start and of the kept pieces. -/
theorem components_eq_keptPieces (text : List Char) :
    components text = mark text ++ (keptPieces text).filterMap component? := by
  have body : components text = mark text ++ bodyComponents (cutHead text).2 := rfl
  rw [body, bodyComponents, keptPieces, filterMap_rdropWhile_isIdle]

theorem components_trimEnd (text : List Char) :
    components (trimEnd text) = components text := by
  rw [components_eq_keptPieces (trimEnd text), components_eq_keptPieces text,
    keptPieces_trimEnd, mark, cutHead_trimEnd]
  rfl

/-- A trimmed path with a file name ends with it. -/
theorem exists_front_of_fileName? {text name : List Char}
    (trimmed : trimEnd text = text) (found : fileName? text = some name) :
    ∃ front, IsFront front ∧ text = front ++ name := by
  rw [fileName?_eq_some_iff, components_eq_keptPieces] at found
  have meaningful := endsWithMeaning_keptPieces text
  rw [trimEnd_eq] at trimmed
  cases kept : keptPieces text using List.reverseRecOn with
  | nil =>
      rw [kept, List.filterMap_nil, List.append_nil] at found
      have apart := not_isStep_of_mem_mark (List.mem_of_getLast? found)
      cases apart
  | append_singleton others last _ =>
      have meaning := meaningful last (by rw [kept, List.getLast?_concat])
      obtain ⟨component, stands⟩ : ∃ component, component? last = some component :=
        Option.isSome_iff_exists.mp (by simpa [isIdle] using meaning)
      rw [kept, List.filterMap_append, List.filterMap_cons_some stands,
        List.filterMap_nil, ← List.append_assoc, List.getLast?_concat] at found
      cases found
      have same := eq_of_component?_name stands
      rw [kept, joinWith_concat, same, ← List.append_assoc] at trimmed
      refine ⟨_, ?_, trimmed.symm⟩
      by_cases empty : others = []
      · rw [if_pos empty, List.append_nil]
        rcases cutHead_cases text with
          ⟨rest, _, cut⟩ | ⟨_, cut⟩ | ⟨rest, _, cut⟩ | ⟨_, cut⟩
        · rw [cut]
          exact Or.inr ⟨[], rfl⟩
        · have nothing : keptPieces text = [] := by
            rw [keptPieces, cut]
            rfl
          rw [kept] at nothing
          exact absurd nothing (List.append_ne_nil_of_right_ne_nil _ nofun)
        · rw [empty, List.nil_append] at kept
          rcases keptPieces_of_dot cut with nothing | ⟨next, more, filled⟩
          · rw [kept] at nothing
            cases nothing
          · rw [kept] at filled
            cases filled
        · rw [cut]
          exact Or.inl rfl
      · rw [if_neg empty, ← List.append_assoc]
        exact Or.inr ⟨_, rfl⟩

end VelocityScript.Output.Path
