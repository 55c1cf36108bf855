import VelocityScript.Lowering.State

/-!
# Names of temporaries

The names of temporaries are valid, different from each other, and told from
all other names by the check.
-/

namespace VelocityScript.Template

theorem toList_temporaryName (number : Nat) :
    (temporaryName number).toList =
      temporaryStem.toList ++ Nat.toDigits 10 number := by
  rw [temporaryName, String.toList_append]
  exact congrArg _ Nat.toList_repr

theorem temporaryName_injective {first second : Nat}
    (same : temporaryName first = temporaryName second) : first = second := by
  have texts := congrArg String.toList same
  rw [toList_temporaryName, toList_temporaryName,
    List.append_cancel_left_eq] at texts
  rw [← Nat.ofDigitChars_ten_toDigits (n := first), texts,
    Nat.ofDigitChars_ten_toDigits]

theorem isTemporary_temporaryName (number : Nat) :
    isTemporary (temporaryName number) = true := by
  have digits : ∀ character ∈ Nat.toDigits 10 number,
      character.isDigit = true := by
    intro character member
    exact Nat.isDigit_of_mem_toDigits (by decide) (by decide) member
  have dropped : (temporaryName number).toList.drop temporaryStem.length =
      Nat.toDigits 10 number := by
    rw [toList_temporaryName]
    exact List.drop_left' String.length_toList
  simp only [isTemporary, dropped, Bool.and_eq_true, Bool.not_eq_true',
    List.isPrefixOf_iff_prefix, List.isEmpty_eq_false_iff, List.all_eq_true]
  refine ⟨?_, Nat.toDigits_ne_nil, digits⟩
  rw [toList_temporaryName]
  exact List.prefix_append _ _

/-- A name is valid when it starts with a letter and goes on with letters,
digits, `_` and `-`. -/
theorem isValidIdentifier_of_toList {name : String} {first : Char}
    {others : List Char} (spelled : name.toList = first :: others)
    (letter : first.isAlpha = true)
    (rest : ∀ character ∈ others,
      (character.isAlphanum || character == '_' || character == '-') = true) :
    isValidIdentifier name = true := by
  have notDollar : first ≠ '$' := by
    rintro rfl
    cases letter
  simp only [isValidIdentifier, spelled]
  split
  · next stripped =>
      split at stripped
      · next dollar =>
          cases dollar
          exact absurd rfl notDollar
      · cases stripped
  · next found tail stripped =>
      split at stripped
      · next dollar =>
          cases dollar
          exact absurd rfl notDollar
      · cases stripped
        simp only [letter, Bool.true_and, List.all_eq_true]
        exact rest

theorem isValidIdentifier_temporaryName (number : Nat) :
    isValidIdentifier (temporaryName number) = true := by
  have stem : temporaryStem.toList = ['l', 'o', 'c', 'a', 'l', '_'] := by
    decide
  have spelled : (temporaryName number).toList =
      'l' :: (['o', 'c', 'a', 'l', '_'] ++ Nat.toDigits 10 number) := by
    rw [toList_temporaryName, stem]
    rfl
  refine isValidIdentifier_of_toList spelled (by decide) ?_
  intro character member
  rcases List.mem_append.mp member with inStem | inDigits
  · simp only [List.mem_cons, List.not_mem_nil, or_false] at inStem
    rcases inStem with rfl | rfl | rfl | rfl | rfl <;> decide
  · have digit : character.isDigit = true :=
      Nat.isDigit_of_mem_toDigits (by decide) (by decide) inDigits
    simp [Char.isAlphanum, digit]

/-- A valid name stays valid without its leading `$`. -/
theorem isValidIdentifier_bareName {name : String}
    (valid : isValidIdentifier name = true) :
    isValidIdentifier (Lowering.bareName name) = true := by
  unfold isValidIdentifier at valid
  dsimp only at valid
  split at valid
  · cases valid
  · next first others stripped =>
      rw [Bool.and_eq_true, List.all_eq_true] at valid
      refine isValidIdentifier_of_toList ?_ valid.1 valid.2
      rw [Lowering.bareName, String.toList_ofList]
      exact stripped

end VelocityScript.Template

namespace VelocityScript.Lowering

/-- No name, without its leading `$`, is that of a temporary. -/
def Unreserved (names : List String) : Prop :=
  ∀ name ∈ names, Template.isTemporary (bareName name) = false

instance (names : List String) : Decidable (Unreserved names) :=
  inferInstanceAs
    (Decidable (∀ name ∈ names, Template.isTemporary (bareName name) = false))

@[simp]
theorem unreserved_nil : Unreserved [] := by
  intro name member
  cases member

@[simp]
theorem unreserved_cons {name : String} {names : List String} :
    Unreserved (name :: names) ↔
      Template.isTemporary (bareName name) = false ∧ Unreserved names := by
  simp [Unreserved]

@[simp]
theorem unreserved_append {first second : List String} :
    Unreserved (first ++ second) ↔ Unreserved first ∧ Unreserved second := by
  simp [Unreserved, or_imp, forall_and]

end VelocityScript.Lowering
