import Mathlib.Data.List.Induction
import VelocityScript.Proofs.Script.Safety

/-!
# Positions

The table of a text holds the offsets at which its lines start, in ascending
order.  The last of them that does not exceed an offset between two characters is
the start of the line in which the offset lies, and there are as many before it as
there are line breaks before the offset.
-/

namespace VelocityScript

/-! ## Looking numbers up -/

/-- A spot is that of a number in a table: the entry is the number, or the entries
in front of the index are less and the ones from there on are greater. -/
def Spot.Holds (table : Array Nat) (key : Nat) : Spot → Prop
  | .entry index => table[index]? = some key
  | .gap index =>
      index ≤ table.size ∧
      (∀ (place : Nat) entry, place < index → table[place]? = some entry →
        entry < key) ∧
      ∀ (place : Nat) entry, index ≤ place → table[place]? = some entry →
        key < entry

/-- The entries of a table stand in ascending order. -/
def IsAscending (table : Array Nat) : Prop :=
  ∀ (first second : Nat) left right, first < second →
    table[first]? = some left → table[second]? = some right → left < right

theorem isAscending_toArray {entries : List Nat}
    (ascending : entries.Pairwise (· < ·)) : IsAscending entries.toArray := by
  intro first second left right before here there
  rw [List.getElem?_toArray] at here there
  obtain ⟨inFirst, rfl⟩ := List.getElem?_eq_some_iff.mp here
  obtain ⟨inSecond, rfl⟩ := List.getElem?_eq_some_iff.mp there
  exact List.pairwise_iff_getElem.mp ascending first second inFirst inSecond before

/-- One round of a search keeps what is known of the entries outside of the part
that is left. -/
theorem searchBetween_holds {table : Array Nat} {key low high : Nat}
    (ascending : IsAscending table) (inside : high ≤ table.size)
    (ordered : low ≤ high)
    (below : ∀ (place : Nat) entry, place < low → table[place]? = some entry →
      entry < key)
    (above : ∀ (place : Nat) entry, high ≤ place → table[place]? = some entry →
      key < entry) :
    (searchBetween table key low high inside).Holds table key := by
  fun_induction searchBetween table key low high inside with
  | case1 low high inside remains middle bounded found =>
      rw [Spot.Holds, ← found]
      exact Array.getElem?_eq_getElem bounded
  | case2 low high inside remains middle bounded other less inductionHypothesis =>
      refine inductionHypothesis (by omega) (fun place entry before here => ?_) above
      have standing := Array.getElem?_eq_getElem bounded
      rcases Nat.lt_or_eq_of_le (Nat.le_of_lt_succ before) with earlier | rfl
      · exact Nat.lt_trans (ascending place middle entry _ earlier here standing) less
      · rw [standing] at here
        cases here
        exact less
  | case3 low high inside remains middle bounded other notLess
      inductionHypothesis =>
      refine inductionHypothesis (by omega) below fun place entry behind here => ?_
      have standing := Array.getElem?_eq_getElem bounded
      have greater : key < table[middle] := by omega
      rcases Nat.lt_or_eq_of_le behind with later | rfl
      · exact Nat.lt_trans greater
          (ascending middle place _ entry later standing here)
      · rw [standing] at here
        cases here
        exact greater
  | case4 low high inside closed =>
      exact ⟨Nat.le_trans ordered inside, below, fun place entry behind here =>
        above place entry (Nat.le_trans (Nat.not_lt.mp closed) behind) here⟩

theorem search_holds {table : Array Nat} (ascending : IsAscending table)
    (key : Nat) : (search table key).Holds table key := by
  refine searchBetween_holds ascending (Nat.le_refl _) (Nat.zero_le _)
    (fun place entry before _ => absurd before (Nat.not_lt_zero place))
    fun place entry behind here => ?_
  rw [Array.getElem?_eq_none behind] at here
  cases here

/-- Where a table is cut at a number, the last entry that does not exceed the
number is the last one before the cut. -/
theorem lastIndexUpTo_eq {front back : List Nat} {last key : Nat}
    (ascending : (front ++ last :: back).Pairwise (· < ·)) (reaches : last ≤ key)
    (beyond : ∀ entry ∈ back, key < entry) :
    lastIndexUpTo (front ++ last :: back).toArray key = front.length := by
  have holds := search_holds (isAscending_toArray ascending) key
  have atLast : (front ++ last :: back)[front.length]? = some last := by
    rw [List.getElem?_append_right (Nat.le_refl _), Nat.sub_self]
    rfl
  have inBack : ∀ (place : Nat) entry, front.length < place →
      (front ++ last :: back)[place]? = some entry → key < entry := by
    intro place entry behind here
    obtain ⟨distance, rfl⟩ := Nat.exists_eq_add_of_lt behind
    rw [List.getElem?_append_right (by omega)] at here
    have shifted : front.length + distance + 1 - front.length = distance + 1 := by
      omega
    rw [shifted, List.getElem?_cons_succ] at here
    exact beyond entry (List.mem_of_getElem? here)
  unfold lastIndexUpTo
  cases found : search (front ++ last :: back).toArray key with
  | entry index =>
      rw [found, Spot.Holds, List.getElem?_toArray] at holds
      rcases Nat.lt_trichotomy index front.length with earlier | same | later
      · -- An entry before the last one is less than it, so it is not the number.
        have less := isAscending_toArray ascending index front.length key last
          earlier (by rw [List.getElem?_toArray]; exact holds)
          (by rw [List.getElem?_toArray]; exact atLast)
        omega
      · exact same
      · exact absurd (inBack index key later holds) (Nat.lt_irrefl key)
  | gap index =>
      rw [found] at holds
      obtain ⟨inside, below, above⟩ := holds
      simp only [List.getElem?_toArray] at below above
      have behind : front.length < index := by
        refine Nat.lt_of_not_le fun notBehind => ?_
        have exceeds := above front.length last notBehind atLast
        omega
      have ends : index ≤ front.length + 1 := by
        refine Nat.le_of_not_lt fun further => ?_
        rw [List.size_toArray, List.length_append, List.length_cons] at inside
        have there : front.length + 1 < (front ++ last :: back).length := by
          rw [List.length_append, List.length_cons]
          omega
        have here := List.getElem?_eq_getElem there
        have less := below _ _ further here
        have greater := inBack _ _ (Nat.lt_succ_self _) here
        omega
      exact Nat.sub_eq_of_eq_add (Nat.le_antisymm ends behind)

/-! ## Starts of lines -/

theorem lineStartsBehind_append (offset : Nat) (before after : List Char) :
    lineStartsBehind offset (before ++ after) =
      lineStartsBehind offset before ++
        lineStartsBehind (offset + byteLength before) after := by
  induction before generalizing offset with
  | nil => rfl
  | cons character rest inductionHypothesis =>
      simp only [List.cons_append, lineStartsBehind, byteLength,
        inductionHypothesis, ← Nat.add_assoc]
      split <;> rfl

theorem length_lineStartsBehind (offset : Nat) (text : List Char) :
    (lineStartsBehind offset text).length = text.count '\n' := by
  induction text generalizing offset with
  | nil => rfl
  | cons character rest inductionHypothesis =>
      simp only [lineStartsBehind, List.count_cons]
      split
      · next breaks => simp [inductionHypothesis, breaks]
      · next other => simp [inductionHypothesis, other]

/-- A line starts behind its line break and within the text. -/
theorem mem_lineStartsBehind {offset start : Nat} {text : List Char}
    (member : start ∈ lineStartsBehind offset text) :
    offset < start ∧ start ≤ offset + byteLength text := by
  induction text generalizing offset with
  | nil => cases member
  | cons character rest inductionHypothesis =>
      have positive := character.utf8Size_pos
      rw [byteLength]
      simp only [lineStartsBehind] at member
      split at member
      · rcases List.mem_cons.mp member with rfl | later
        · omega
        · have bounds := inductionHypothesis later
          omega
      · have bounds := inductionHypothesis member
        omega

theorem pairwise_lineStartsBehind (offset : Nat) (text : List Char) :
    (offset :: lineStartsBehind offset text).Pairwise (· < ·) := by
  refine List.pairwise_cons.mpr
    ⟨fun start member => (mem_lineStartsBehind member).1, ?_⟩
  induction text generalizing offset with
  | nil => exact .nil
  | cons character rest inductionHypothesis =>
      simp only [lineStartsBehind]
      split
      · exact List.pairwise_cons.mpr
          ⟨fun start member => (mem_lineStartsBehind member).1,
            inductionHypothesis _⟩
      · exact inductionHypothesis _

theorem lineStartsBehind_of_unbroken {line : List Char} (unbroken : '\n' ∉ line)
    (offset : Nat) : lineStartsBehind offset line = [] := by
  rw [← List.length_eq_zero_iff, length_lineStartsBehind,
    List.count_eq_zero.mpr unbroken]

/-! ## Last lines -/

/-- A text cut in front of its last line: what stands before is nothing or ends
with a line break, and the line has none. -/
structure LastLine (text earlier line : List Char) : Prop where
  whole : text = earlier ++ line
  closed : earlier = [] ∨ ∃ front, earlier = front ++ ['\n']
  unbroken : '\n' ∉ line

theorem exists_lastLine (text : List Char) :
    ∃ earlier line, LastLine text earlier line := by
  induction text using List.reverseRecOn with
  | nil => exact ⟨[], [], rfl, Or.inl rfl, List.not_mem_nil⟩
  | append_singleton front last inductionHypothesis =>
      by_cases breaks : last = '\n'
      · exact ⟨front ++ [last], [], (List.append_nil _).symm,
          Or.inr ⟨front, by rw [breaks]⟩, List.not_mem_nil⟩
      · obtain ⟨earlier, line, whole, closed, unbroken⟩ := inductionHypothesis
        refine ⟨earlier, line ++ [last], by rw [whole, List.append_assoc], closed,
          ?_⟩
        rw [List.mem_append, List.mem_singleton]
        exact not_or.mpr ⟨unbroken, Ne.symm breaks⟩

/-- A text without a line break lengthens the last line. -/
theorem LastLine.append {text earlier line more : List Char}
    (last : LastLine text earlier line) (unbroken : '\n' ∉ more) :
    LastLine (text ++ more) earlier (line ++ more) where
  whole := by rw [last.whole, List.append_assoc]
  closed := last.closed
  unbroken := by
    rw [List.mem_append]
    exact not_or.mpr ⟨last.unbroken, unbroken⟩

/-- The last line starts at the last one of the starts. -/
theorem LastLine.exists_starts {text earlier line : List Char}
    (last : LastLine text earlier line) :
    ∃ front, 0 :: lineStartsBehind 0 text = front ++ [byteLength earlier] ∧
      front.length = text.count '\n' := by
  have starts : lineStartsBehind 0 text = lineStartsBehind 0 earlier := by
    rw [last.whole, lineStartsBehind_append,
      lineStartsBehind_of_unbroken last.unbroken, List.append_nil]
  have counted : text.count '\n' = earlier.count '\n' := by
    rw [last.whole, List.count_append, List.count_eq_zero.mpr last.unbroken,
      Nat.add_zero]
  rw [starts, counted]
  rcases last.closed with rfl | ⟨front, rfl⟩
  · exact ⟨[], rfl, rfl⟩
  · refine ⟨0 :: lineStartsBehind 0 front, ?_, ?_⟩
    · rw [lineStartsBehind_append, byteLength_append, Nat.zero_add]
      rfl
    · rw [List.length_cons, length_lineStartsBehind, List.count_append]
      rfl

/-! ## Positions -/

/-- The position between two parts of a text. -/
theorem SourceText.position_eq {source : SourceText}
    {before after earlier line : List Char}
    (split : source.characters = before ++ after)
    (last : LastLine before earlier line) :
    source.position (byteLength before) =
      ⟨before.count '\n', line.length, byteLength before⟩ := by
  obtain ⟨front, starts, counted⟩ := last.exists_starts
  have table : source.lineStarts =
      (front ++ byteLength earlier ::
        lineStartsBehind (byteLength before) after).toArray := by
    rw [SourceText.lineStarts, split, lineStartsBehind_append, Nat.zero_add,
      ← List.cons_append, starts, List.append_assoc, List.singleton_append]
  have ascending := pairwise_lineStartsBehind 0 source.characters
  rw [split, lineStartsBehind_append, Nat.zero_add, ← List.cons_append, starts,
    List.append_assoc, List.singleton_append] at ascending
  have reaches : byteLength earlier ≤ byteLength before := by
    rw [last.whole, byteLength_append]
    exact Nat.le_add_right _ _
  have index := lastIndexUpTo_eq ascending reaches
    fun start member => (mem_lineStartsBehind member).1
  have inside : min (byteLength before) (byteLength source.characters) =
      byteLength before := by
    rw [split, byteLength_append]
    exact Nat.min_eq_left (Nat.le_add_right _ _)
  have start : source.lineStarts.getD front.length 0 = byteLength earlier := by
    rw [table]
    simp
  have excerpt : Span.excerpt source.characters
      ⟨byteLength earlier, byteLength before⟩ = line := by
    rw [Span.excerpt, split, charactersWithin_byteLength, last.whole,
      List.append_assoc, charactersWithin_byteLength, List.drop_left]
  unfold SourceText.position
  simp only [inside]
  rw [table, index, ← table, start, excerpt, counted]

/-- Whether a position comes before another one, by the lines and then by the
columns. -/
def Position.IsBefore (left right : Position) : Prop :=
  left.line < right.line ∨ left.line = right.line ∧ left.column < right.column

theorem Position.IsBefore.asymm {left right : Position}
    (before : left.IsBefore right) : ¬ right.IsBefore left := by
  unfold Position.IsBefore at *
  omega

theorem Position.not_isBefore_of_same {left right : Position}
    (line : left.line = right.line) (column : left.column = right.column) :
    ¬ left.IsBefore right := by
  unfold Position.IsBefore
  omega

/-- A boundary further on has a later position: either there is a line break in
between, or the line is longer. -/
theorem isBefore_of_lt {source : SourceText} {first second : Nat}
    (firstBoundary : Script.IsBoundary source.characters first)
    (secondBoundary : Script.IsBoundary source.characters second)
    (less : first < second) :
    (source.position first).IsBefore (source.position second) := by
  obtain ⟨before, after, split, rfl⟩ := firstBoundary
  obtain ⟨longer, rest, splitLonger, rfl⟩ := secondBoundary
  have starts : before <+: longer := by
    have both : before <+: longer ++ rest := ⟨after, split.symm.trans splitLonger⟩
    rcases List.prefix_or_prefix_of_prefix both (List.prefix_append longer rest) with
      shorter | ⟨more, same⟩
    · exact shorter
    · rw [← same, byteLength_append] at less
      omega
  obtain ⟨more, rfl⟩ := starts
  obtain ⟨earlier, line, last⟩ := exists_lastLine before
  rw [SourceText.position_eq split last]
  by_cases breaks : '\n' ∈ more
  · obtain ⟨laterEarlier, laterLine, laterLast⟩ := exists_lastLine (before ++ more)
    rw [SourceText.position_eq splitLonger laterLast]
    refine Or.inl ?_
    dsimp only
    have positive := List.count_pos_iff.mpr breaks
    rw [List.count_append]
    omega
  · rw [SourceText.position_eq splitLonger (last.append breaks)]
    refine Or.inr ⟨?_, ?_⟩
    · rw [List.count_append, List.count_eq_zero.mpr breaks, Nat.add_zero]
    · have filled : more ≠ [] := by
        rintro rfl
        rw [List.append_nil] at less
        exact Nat.lt_irrefl _ less
      rw [List.length_append]
      exact Nat.lt_add_of_pos_right (List.length_pos_iff.mpr filled)

/-- Between any two parts of a text the offset of the position is that of the
boundary, the line counts the line breaks before it, and the column counts the
characters behind the last of them.  An offset past the end has the position of
the end.  Positions have the order of the offsets, and line and column determine
the offset. -/
theorem positions_are_exact (source : SourceText) :
    (∀ before after, source.characters = before ++ after →
      ∃ earlier line, LastLine before earlier line ∧
        source.position (byteLength before) =
          ⟨before.count '\n', line.length, byteLength before⟩) ∧
    (∀ offset, byteLength source.characters ≤ offset →
      source.position offset =
        source.position (byteLength source.characters)) ∧
    ∀ first second, Script.IsBoundary source.characters first →
      Script.IsBoundary source.characters second →
        (first < second ↔
          (source.position first).IsBefore (source.position second)) ∧
        ((source.position first).line = (source.position second).line →
          (source.position first).column = (source.position second).column →
            first = second) := by
  refine ⟨fun before after split => ?_, fun offset past => ?_,
    fun first second firstBoundary secondBoundary => ?_⟩
  · obtain ⟨earlier, line, last⟩ := exists_lastLine before
    exact ⟨earlier, line, last, SourceText.position_eq split last⟩
  · unfold SourceText.position
    rw [Nat.min_eq_right past, Nat.min_self]
  · have forward := isBefore_of_lt firstBoundary secondBoundary
    have backward := isBefore_of_lt secondBoundary firstBoundary
    refine ⟨⟨forward, fun before => ?_⟩, fun line column => ?_⟩
    · rcases Nat.lt_trichotomy first second with less | rfl | greater
      · exact less
      · exact absurd before before.asymm
      · exact absurd before (backward greater).asymm
    · rcases Nat.lt_trichotomy first second with less | same | greater
      · exact absurd (forward less) (Position.not_isBefore_of_same line column)
      · exact same
      · exact absurd (backward greater)
          (Position.not_isBefore_of_same line.symm column.symm)

/-- Behind a line break and a character of two bytes, and past the end. -/
theorem positions_are_exact_umlaut :
    let source : SourceText := ⟨"umlaut.ts", "a\näb"⟩
    Script.IsBoundary source.characters 1 ∧
      Script.IsBoundary source.characters 4 ∧
      (source.position 1).IsBefore (source.position 4) ∧
      source.position 4 = ⟨1, 1, 4⟩ ∧
      source.position 9 = ⟨1, 2, 5⟩ := by
  intro source
  obtain ⟨-, past, ordered⟩ := positions_are_exact source
  have first : Script.IsBoundary source.characters 1 :=
    ⟨['a'], ['\n', 'ä', 'b'], by decide, by decide⟩
  have second : Script.IsBoundary source.characters 4 :=
    ⟨['a', '\n', 'ä'], ['b'], by decide, by decide⟩
  refine ⟨first, second, ((ordered 1 4 first second).1).mp (by decide), ?_, ?_⟩
  · decide +kernel
  · rw [past 9 (by decide)]
    decide +kernel

end VelocityScript
