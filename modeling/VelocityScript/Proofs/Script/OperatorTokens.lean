import VelocityScript.Proofs.Script.Facing
import VelocityScript.Transpile

/-!
# Operators and tokens

Two readers look at the punctuation of a text.  One finds the next token, which
is the longest punctuator at the front.  The other one finds the next operator
between operands, which is the longest token of an operator at the front, unless
an assignment or an arrow stands there.  Both find the same, except in front of
an increment or a decrement: there the second one finds a sum or a difference.
-/

namespace VelocityScript.Script

namespace Punctuator

variable {rest : List Char} {mark token : Punctuator}

theorem mem_all (mark : Punctuator) : mark ∈ all := by
  cases mark <;> decide

/-- No punctuator stands behind a shorter one. -/
theorem pairwise_length_all :
    all.Pairwise fun first second =>
      second.characters.length ≤ first.characters.length := by
  decide

/-- The next token is the longest punctuator at the front of a text. -/
theorem length_le_of_atFront? (found : atFront? rest = some mark)
    (front : token.characters <+: rest) :
    token.characters.length ≤ mark.characters.length := by
  obtain ⟨-, before, behind, split, passed⟩ :=
    List.find?_eq_some_iff_append.mp found
  have member := mem_all token
  have ordered := pairwise_length_all
  rw [split] at member ordered
  rcases List.mem_append.mp member with earlier | later
  · have skipped := passed token earlier
    rw [List.isPrefixOf_iff_prefix.mpr front] at skipped
    cases skipped
  · rcases List.mem_cons.mp later with rfl | later
    · exact Nat.le_refl _
    · exact List.rel_of_pairwise_cons (List.pairwise_append.mp ordered).2.1 later

/-- A text starts with the punctuators that its next token starts with, and with
no other ones. -/
theorem isPrefixOf_eq_of_atFront? (found : atFront? rest = some mark)
    (token : Punctuator) :
    token.characters.isPrefixOf rest =
      token.characters.isPrefixOf mark.characters := by
  rw [Bool.eq_iff_iff, List.isPrefixOf_iff_prefix, List.isPrefixOf_iff_prefix]
  have whole := atFront?_isPrefix found
  constructor
  · intro front
    exact List.prefix_of_prefix_length_le front whole
      (length_le_of_atFront? found front)
  · intro front
    exact front.trans whole

theorem isPrefixOf_eq_false_of_atFront? (missing : atFront? rest = none)
    (token : Punctuator) : token.characters.isPrefixOf rest = false := by
  rw [atFront?, List.find?_eq_none] at missing
  exact Bool.eq_false_iff.mpr (missing token (mem_all token))

/-- The operator that is found where a token comes next.  An increment and a
decrement are none, but each of them starts with one. -/
def operatorAt? : Punctuator → Option (Punctuator × BinaryOperator)
  | .increment => some (.plus, .add)
  | .decrement => some (.minus, .subtract)
  | mark => binaryOperators.find? fun entry => entry.1 == mark

theorem binaryAtFront?_characters (mark : Punctuator) :
    binaryAtFront? mark.characters = mark.operatorAt? := by
  cases mark <;> rfl

/-- The reader of operators sees no more of a text than its next token. -/
theorem binaryAtFront?_eq (rest : List Char) :
    binaryAtFront? rest = (atFront? rest).bind operatorAt? := by
  cases found : atFront? rest with
  | none =>
      have missing := isPrefixOf_eq_false_of_atFront? found
      have candidates : (binaryOperators.filter fun entry =>
          entry.1.characters.isPrefixOf rest) = [] :=
        List.filter_eq_nil_iff.mpr fun entry _ =>
          Bool.eq_false_iff.mp (missing entry.1)
      unfold binaryAtFront?
      rw [candidates]
      split <;> rfl
  | some mark =>
      rw [Option.bind_some, ← binaryAtFront?_characters]
      unfold binaryAtFront?
      simp only [isPrefixOf_eq_of_atFront? found]

theorem mem_of_operatorAt? {operator : BinaryOperator}
    (found : mark.operatorAt? = some (token, operator)) :
    (token, operator) ∈ binaryOperators := by
  unfold operatorAt? at found
  split at found
  · cases found
    decide
  · cases found
    decide
  · exact List.mem_of_find?_eq_some found

/-- The operator is the whole token, unless the token is an increment or a
decrement. -/
theorem eq_iff_of_operatorAt? {operator : BinaryOperator}
    (found : mark.operatorAt? = some (token, operator)) :
    mark = token ↔ mark ≠ .increment ∧ mark ≠ .decrement := by
  unfold operatorAt? at found
  split at found
  · cases found
    decide
  · cases found
    decide
  · next notIncrement notDecrement =>
      have same := List.find?_some found
      exact ⟨fun _ => ⟨notIncrement, notDecrement⟩,
        fun _ => (beq_iff_eq.mp same).symm⟩

end Punctuator

namespace Cursor

variable {cursor after : Cursor} {operator : BinaryOperator}

theorem sees_eq_false_iff {mark : Punctuator} :
    cursor.sees mark = false ↔ cursor.punctuator? ≠ some mark := by
  rw [sees, beq_eq_false_iff_ne]

/-- Where no word comes next, the next operator is the one of the next token. -/
theorem binaryOperator?_eq (bare : cursor.word? = none) :
    cursor.binaryOperator? =
      (cursor.punctuator?.bind Punctuator.operatorAt?).map fun found =>
        (found.2, cursor.tokenStart.advance found.1.characters.length) := by
  have wordless : wordAtFront? cursor.tokenStart.rest = none :=
    Option.map_eq_none_iff.mp bare
  rw [punctuator?, ← Punctuator.binaryAtFront?_eq, binaryOperator?]
  dsimp only
  rw [wordless]

/-- No word comes next where a punctuator does. -/
theorem word?_of_punctuator? {mark : Punctuator}
    (seen : cursor.punctuator? = some mark) : cursor.word? = none := by
  rw [punctuator?] at seen
  rw [word?, Option.map_eq_none_iff]
  cases standing : cursor.tokenStart.rest with
  | nil => rfl
  | cons first others =>
      refine if_neg fun starts => ?_
      rw [standing, atFront?_eq_none (Bool.or_eq_true_iff.mpr (Or.inl starts))]
        at seen
      cases seen

theorem binaryOperator?_of_sees {mark : Punctuator} (seen : cursor.sees mark = true) :
    cursor.binaryOperator? = mark.operatorAt?.map fun found =>
      (found.2, cursor.tokenStart.advance found.1.characters.length) := by
  have same : cursor.punctuator? = some mark := beq_iff_eq.mp seen
  rw [binaryOperator?_eq (word?_of_punctuator? same), same, Option.bind_some]

end Cursor

/-- Where the next operator is a punctuator, it is the whole next token exactly
unless that is an increment or a decrement.  In front of these the next operator
is a sum or a difference, cut out of the token: so no chain that admits sums ends
there, and a line that starts with one of them always goes on with the expression
on the line before it. -/
theorem operator_is_next_token_iff (cursor : Cursor) :
    (∀ operator after, cursor.word? = none →
      cursor.binaryOperator? = some (operator, after) →
        ∃ token, (token, operator) ∈ Punctuator.binaryOperators ∧
          token.characters <+: cursor.tokenStart.rest ∧
          after = cursor.tokenStart.advance token.characters.length ∧
          (cursor.punctuator? = some token ↔
            cursor.sees .increment = false ∧ cursor.sees .decrement = false)) ∧
    (cursor.sees .increment = true →
      cursor.binaryOperator? = some (.add, cursor.tokenStart.advance 1)) ∧
    (cursor.sees .decrement = true →
      cursor.binaryOperator? = some (.subtract, cursor.tokenStart.advance 1)) ∧
    ∀ depth least start tree,
      (Nested.ofDepth depth).binary least start = .ok (tree, cursor) →
        least ≤ BinaryOperator.add.level →
          cursor.sees .increment = false ∧ cursor.sees .decrement = false := by
  have increment : cursor.sees .increment = true → _ :=
    Cursor.binaryOperator?_of_sees
  have decrement : cursor.sees .decrement = true → _ :=
    Cursor.binaryOperator?_of_sees
  refine ⟨fun operator after bare found => ?_, increment, decrement, ?_⟩
  · rw [Cursor.binaryOperator?_eq bare, Option.map_eq_some_iff] at found
    obtain ⟨⟨token, read⟩, taken, same⟩ := found
    obtain ⟨mark, seen, entry⟩ := Option.bind_eq_some_iff.mp taken
    cases same
    refine ⟨token, Punctuator.mem_of_operatorAt? entry, ?_, rfl, ?_⟩
    · rw [Cursor.punctuator?, ← Punctuator.binaryAtFront?_eq] at taken
      exact Punctuator.binaryAtFront?_isPrefix taken
    · rw [Cursor.sees_eq_false_iff, Cursor.sees_eq_false_iff, seen]
      simpa using Punctuator.eq_iff_of_operatorAt? entry
  · intro depth least start tree read low
    obtain ⟨-, -, ends⟩ :=
      (Nested.ofDepth_groups depth).binary least start tree cursor read
    refine ⟨Bool.eq_false_iff.mpr fun seen => ?_,
      Bool.eq_false_iff.mpr fun seen => ?_⟩
    · exact Nat.not_lt.mpr low (ends _ _ (increment seen))
    · exact Nat.not_lt.mpr low (ends .subtract _ (decrement seen))

/-- A shift, and a line that starts with an increment. -/
theorem operator_is_next_token_iff_shift :
    (∃ after token, (Cursor.mk 1 " >>> b".toList).binaryOperator? =
        some (.unsignedShiftRight, after) ∧
      after = (Cursor.mk 1 " >>> b".toList).tokenStart.advance
        token.characters.length ∧
      (Cursor.mk 1 " >>> b".toList).punctuator? = some token) ∧
    (Cursor.mk 1 "\n++b".toList).binaryOperator? =
      some (.add, (Cursor.mk 1 "\n++b".toList).tokenStart.advance 1) ∧
    ∃ tree next, (Nested.ofDepth 5).binary 1 (.ofText "a\n++b;") =
        .ok (tree, next) ∧
      next.sees .increment = false ∧ next.sees .decrement = false := by
  have read : ∃ tree next, (Nested.ofDepth 5).binary 1 (.ofText "a\n++b;") =
      .ok (tree, next) := by
    have parsed : ((Nested.ofDepth 5).binary 1 (.ofText "a\n++b;")).toBool =
        true := by
      decide +kernel
    cases ran : (Nested.ofDepth 5).binary 1 (.ofText "a\n++b;") with
    | error error =>
        rw [ran] at parsed
        cases parsed
    | ok outcome => exact ⟨outcome.1, outcome.2, rfl⟩
  have found : (Cursor.mk 1 " >>> b".toList).binaryOperator? =
      some (.unsignedShiftRight, ⟨5, " b".toList⟩) := by
    decide
  obtain ⟨token, -, -, after, whole⟩ :=
    (operator_is_next_token_iff ⟨1, " >>> b".toList⟩).1 .unsignedShiftRight
      ⟨5, " b".toList⟩ (by decide) found
  obtain ⟨tree, next, ran⟩ := read
  refine ⟨⟨_, token, found, after, whole.mpr (by decide)⟩, ?_, tree, next, ran, ?_⟩
  · exact (operator_is_next_token_iff ⟨1, "\n++b".toList⟩).2.1 (by decide)
  · exact (operator_is_next_token_iff next).2.2.2 5 1 _ tree ran (by decide)

/-- A decrement on a line of its own is read as a difference, and the template
shows no sign of it; with a semicolon in front of it, it is reported. -/
theorem decrement_is_cut_into_difference :
    let broken : SourceText :=
      ⟨"decrement.ts", "export function f(a, b) \x7b let c = a \n--b; \x7d"⟩
    let closed : SourceText :=
      ⟨"decrement.ts", "export function f(a, b) \x7b let c = a;\n--b; \x7d"⟩
    (Cursor.mk 1 "\n--b".toList).binaryOperator? =
        some (.subtract, ⟨3, "-b".toList⟩) ∧
      (Cursor.mk 1 "\n--b".toList).punctuator? = some .decrement ∧
      (transpile .apigateway broken).diagnostics = [] ∧
      (transpile .apigateway broken).render {} =
        [("f", "## Function: f\n#set($c = $a - -$b)\n")] ∧
      (transpile .apigateway closed).diagnostics.map Diagnostic.message =
        ["Operator MinusMinusToken not supported in VTL"] := by
  decide +kernel

end VelocityScript.Script
