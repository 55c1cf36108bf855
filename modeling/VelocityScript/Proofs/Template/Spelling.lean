import VelocityScript.Number.Decimal
import VelocityScript.Proofs.Template.Temporary

/-!
# Spelling of names and numbers

A name is a letter with letters, digits, `_` and `-` after it.  Where a text
starts with a name, the longest name at its start ends exactly there unless
another such character follows.  A number starts with a character that could go
on with a name.  Neither names nor numbers have quotes.
-/

namespace VelocityScript.Template

/-- Whether a character can stand in a name. -/
def isNameCharacter (character : Char) : Bool :=
  character.isAlphanum || character == '_' || character == '-'

/-- Whether some characters are a name, with no `$` before it. -/
def isName : List Char → Bool
  | [] => false
  | first :: others => first.isAlpha && others.all isNameCharacter

/-- A name at the start of a text that contains all other names at the start. -/
structure IsLongestName (name text : List Char) : Prop where
  isName : isName name = true
  stands : name <+: text
  longest : ∀ other, Template.isName other = true → other <+: text →
    other <+: name

theorem isName_append_singleton {name : List Char} {character : Char}
    (named : isName name = true) (continued : isNameCharacter character = true) :
    isName (name ++ [character]) = true := by
  cases name with
  | nil => cases named
  | cons first others =>
      obtain ⟨letter, rest⟩ := (Bool.and_eq_true _ _).mp named
      simp only [List.cons_append, isName, letter, List.all_append, rest,
        List.all_cons, continued, List.all_nil, Bool.and_self]

theorem isNameCharacter_of_mem {name : List Char} (named : isName name = true) :
    ∀ character ∈ name, isNameCharacter character = true := by
  cases name with
  | nil => cases named
  | cons first others =>
      obtain ⟨letter, rest⟩ := (Bool.and_eq_true _ _).mp named
      refine List.forall_mem_cons.mpr ⟨?_, List.all_eq_true.mp rest⟩
      simp [isNameCharacter, Char.isAlphanum, letter]

/-- A name is the longest one at its place unless the next character goes on
with it. -/
theorem isLongestName_append_iff {name rest : List Char}
    (named : isName name = true) :
    IsLongestName name (name ++ rest) ↔
      ∀ character ∈ rest.head?, isNameCharacter character = false := by
  constructor
  · intro whole character next
    obtain ⟨others, rfl⟩ := List.head?_eq_some_iff.mp next
    refine Bool.eq_false_iff.mpr fun continued => ?_
    have longer := whole.longest (name ++ [character])
      (isName_append_singleton named continued)
      ⟨others, by simp only [List.append_assoc, List.singleton_append]⟩
    have short := longer.length_le
    simp only [List.length_append, List.length_singleton] at short
    omega
  · intro ends
    refine ⟨named, List.prefix_append name rest, fun other otherNamed found => ?_⟩
    rcases List.prefix_or_prefix_of_prefix found (List.prefix_append name rest)
      with shorter | longer
    · exact shorter
    -- A longer name would go on with the first character of the rest.
    · obtain ⟨tail, rfl⟩ := longer
      obtain ⟨after, same⟩ := (List.prefix_append_right_inj name).mp found
      cases tail with
      | nil => simp
      | cons character others =>
          have continued := isNameCharacter_of_mem otherNamed character
            (by simp)
          rw [ends character (by simp [← same])] at continued
          cases continued

/-! ## Names -/

theorem isName_bareName {text : String}
    (valid : isValidIdentifier text = true) :
    isName (Lowering.bareName text).toList = true := by
  unfold isValidIdentifier at valid
  dsimp only at valid
  split at valid
  · cases valid
  · next first others stripped =>
      rw [Lowering.bareName, String.toList_ofList]
      exact (congrArg isName stripped).trans valid

theorem isName_temporaryName (number : Nat) :
    isName (temporaryName number).toList = true := by
  have bare : Lowering.bareName (temporaryName number) =
      temporaryName number := by
    refine String.toList_inj.mp ?_
    rw [Lowering.bareName, String.toList_ofList, toList_temporaryName]
    rfl
  rw [← bare]
  exact isName_bareName (isValidIdentifier_temporaryName number)

theorem quote_not_mem_of_isName {name : List Char}
    (named : isName name = true) : '"' ∉ name := by
  intro member
  have character := isNameCharacter_of_mem named '"' member
  cases character

/-! ## Numbers -/

/-- Digits, possibly with points after the first one. -/
structure IsNumeral (text : List Char) : Prop where
  starts : ∃ first others, text = first :: others ∧ first.isDigit = true
  characters : ∀ character ∈ text, character.isDigit = true ∨ character = '.'

theorem isNumeral_naturalDigits (value : Nat) :
    IsNumeral (naturalDigits value) := by
  have digits : ∀ character ∈ naturalDigits value,
      character.isDigit = true := fun character member =>
    Nat.isDigit_of_mem_toDigits (by decide) (by decide) member
  obtain ⟨first, others, spelled⟩ :=
    List.exists_cons_of_ne_nil (Nat.toDigits_ne_nil (n := value) (b := 10))
  refine ⟨⟨first, others, spelled, digits first ?_⟩, fun character member =>
    .inl (digits character member)⟩
  rw [naturalDigits, spelled]
  exact List.mem_cons_self

theorem IsNumeral.append {text others : List Char} (numeral : IsNumeral text)
    (characters : ∀ character ∈ others,
      character.isDigit = true ∨ character = '.') :
    IsNumeral (text ++ others) := by
  obtain ⟨first, rest, rfl, digit⟩ := numeral.starts
  exact ⟨⟨first, rest ++ others, rfl, digit⟩,
    List.forall_mem_append.mpr ⟨numeral.characters, characters⟩⟩

theorem IsNumeral.take {text : List Char} (numeral : IsNumeral text)
    {count : Nat} (positive : 0 < count) : IsNumeral (text.take count) := by
  obtain ⟨first, rest, rfl, digit⟩ := numeral.starts
  refine ⟨⟨first, rest.take (count - 1), ?_, digit⟩, fun character member =>
    numeral.characters character (List.mem_of_mem_take member)⟩
  exact List.take_cons positive

theorem digit_of_mem_replicate {count : Nat} {character : Char}
    (member : character ∈ List.replicate count '0') :
    character.isDigit = true ∨ character = '.' := by
  rw [List.eq_of_mem_replicate member]
  exact .inl rfl

theorem isNumeral_positional (decimal : Decimal) :
    IsNumeral decimal.positional := by
  have digits := isNumeral_naturalDigits decimal.coefficient
  simp only [Decimal.positional]
  split
  · exact digits.append fun _ => digit_of_mem_replicate
  · split
    · refine (digits.take (by omega)).append ?_
      refine List.forall_mem_cons.mpr ⟨.inr rfl, fun character member => ?_⟩
      exact digits.characters character (List.mem_of_mem_drop member)
    · refine ⟨⟨'0', _, rfl, rfl⟩, ?_⟩
      refine List.forall_mem_cons.mpr ⟨.inl rfl, List.forall_mem_cons.mpr
        ⟨.inr rfl, List.forall_mem_append.mpr ⟨?_, digits.characters⟩⟩⟩
      exact fun _ => digit_of_mem_replicate

/-- The text of a number starts like the rest of a name, and has no quotes. -/
structure IsNumberText (text : List Char) : Prop where
  starts : ∃ first others, text = first :: others ∧
    isNameCharacter first = true
  unquoted : '"' ∉ text

theorem IsNumeral.isNumberText {text : List Char} (numeral : IsNumeral text) :
    IsNumberText text := by
  obtain ⟨first, others, spelled, digit⟩ := numeral.starts
  refine ⟨⟨first, others, spelled, ?_⟩, fun member => ?_⟩
  · simp [isNameCharacter, Char.isAlphanum, digit]
  · rcases numeral.characters '"' member with digit | point
    · cases digit
    · cases point

/-- A sign can stand in a name as well. -/
theorem IsNumberText.signed {text : List Char} (numbered : IsNumberText text)
    (negative : Bool) :
    IsNumberText ((if negative then ['-'] else []) ++ text) := by
  cases negative with
  | false => exact numbered
  | true =>
      refine ⟨⟨'-', text, rfl, rfl⟩, fun member => ?_⟩
      rcases List.mem_cons.mp member with sign | inText
      · cases sign
      · exact numbered.unquoted inText

theorem isNumberText_text (number : Double) :
    IsNumberText number.text.toList := by
  have magnitude : IsNumberText (String.ofList
      ((if number.negative then ['-'] else []) ++
        number.magnitudeText)).toList := by
    rw [String.toList_ofList]
    exact (isNumeral_positional _).isNumberText.signed number.negative
  unfold Double.text
  split
  · split
    · exact ⟨⟨'0', [], rfl, rfl⟩, by decide⟩
    · split
      · rw [String.toList_ofList]
        exact (isNumeral_naturalDigits _).isNumberText.signed number.negative
      · exact magnitude
  · split
    · exact magnitude
    · split
      · split
        · exact ⟨⟨'-', _, rfl, rfl⟩, by decide⟩
        · exact ⟨⟨'i', _, rfl, rfl⟩, by decide⟩
      · exact ⟨⟨'N', _, rfl, rfl⟩, by decide⟩

end VelocityScript.Template
