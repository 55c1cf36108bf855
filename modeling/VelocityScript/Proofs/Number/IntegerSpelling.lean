import Mathlib.Data.List.Forall2
import Mathlib.Data.List.TakeWhile
import Mathlib.Data.Nat.Digits.Defs
import VelocityScript.Number.Literal
import VelocityScript.Proofs.Number.Exactness
import VelocityScript.Proofs.Script.StringSpelling
import VelocityScript.Proofs.Template.Spelling
import VelocityScript.Proofs.Template.StringReading

/-!
# Ways to spell an integer

An integer is spelled with decimal digits, or with the digits of another base after
a mark of that base.  Separators may stand between the digits and behind them.
However an integer below `2 ^ 53` is spelled, its literal is read as the double with
exactly that value, and what is printed for that double is its decimal digits alone.
-/

namespace VelocityScript

open Script (IsHexDigitOf)

/-! ## Spelling -/

/-- A digit of a base and its value. -/
structure IsDigitOf (base value : Nat) (character : Char) : Prop where
  below : value < base
  spells : IsHexDigitOf value character

/-- Digits of a base, with any separators before, between and behind them. -/
inductive SpellsDigits (base : Nat) : List Nat → List Char → Prop
  | nil : SpellsDigits base [] []
  | separator {values : List Nat} {spelled : List Char} :
      SpellsDigits base values spelled → SpellsDigits base values ('_' :: spelled)
  | digit {value : Nat} {values : List Nat} {character : Char}
      {spelled : List Char} :
      IsDigitOf base value character → SpellsDigits base values spelled →
      SpellsDigits base (value :: values) (character :: spelled)

/-- The number that digits stand for, the greatest weight first. -/
def digitsValue (base : Nat) (values : List Nat) : Nat :=
  Nat.ofDigits base values.reverse

/-- The letters that mark a base. -/
def baseMarks : List (Char × Nat) :=
  [('x', 16), ('X', 16), ('o', 8), ('O', 8), ('b', 2), ('B', 2)]

/-- The ways to spell a natural number.  Zeros may stand in front, and separators
after the first decimal digit or after the mark of the base. -/
inductive SpellsInteger : Nat → List Char → Prop
  | decimal {value : Nat} {values : List Nat} {first : Char}
      {spelled : List Char} :
      IsDigitOf 10 value first → SpellsDigits 10 values spelled →
      SpellsInteger (digitsValue 10 (value :: values)) (first :: spelled)
  | marked {base : Nat} {mark : Char} {values : List Nat} {spelled : List Char} :
      (mark, base) ∈ baseMarks → values ≠ [] → SpellsDigits base values spelled →
      SpellsInteger (digitsValue base values) ('0' :: mark :: spelled)

variable {base value : Nat} {values : List Nat} {character : Char}
  {spelled characters : List Char} {text : String}

/-! ## Values of digits -/

theorem digitsValue_cons (base value : Nat) (values : List Nat) :
    digitsValue base (value :: values) =
      value * base ^ values.length + digitsValue base values := by
  rw [digitsValue, Nat.ofDigits_reverse_cons, Nat.mul_comm, Nat.add_comm]
  rfl

theorem digitsValue_concat (base value : Nat) (values : List Nat) :
    digitsValue base (values ++ [value]) =
      digitsValue base values * base + value := by
  rw [digitsValue, List.reverse_append, List.reverse_singleton,
    List.singleton_append, Nat.ofDigits_cons, Nat.mul_comm, Nat.add_comm]
  rfl

namespace IsDigitOf

/-- A digit is no character without a value. -/
theorem ne {other : Char} (digit : IsDigitOf base value character)
    (valueless : digitValue? other = none) : character ≠ other := by
  rintro rfl
  rw [digit.spells.digitValue?] at valueless
  cases valueless

theorem decimal (digit : IsDigitOf 10 value character) :
    character = Char.ofNat ('0'.toNat + value) := by
  have below := digit.below
  cases digit.spells with
  | decimal => rfl
  | lower => omega
  | upper => omega

theorem isDigit (digit : IsDigitOf 10 value character) :
    character.isDigit = true := by
  have all : ∀ value < 10, (Char.ofNat ('0'.toNat + value)).isDigit = true := by
    decide
  rw [digit.decimal]
  exact all value digit.below

/-- A decimal digit marks no base. -/
theorem radixMark? (digit : IsDigitOf 10 value character) :
    VelocityScript.radixMark? character = none := by
  have all : ∀ value < 10,
      VelocityScript.radixMark? (Char.ofNat ('0'.toNat + value)) = none := by
    decide
  rw [digit.decimal]
  exact all value digit.below

end IsDigitOf

/-! ## Digits without separators -/

/-- Digits of a base and their values. -/
abbrev AreDigitsOf (base : Nat) : List Nat → List Char → Prop :=
  List.Forall₂ (IsDigitOf base)

theorem SpellsDigits.filter (spells : SpellsDigits base values spelled) :
    AreDigitsOf base values (spelled.filter (· != '_')) := by
  induction spells with
  | nil => exact .nil
  | separator _ inductionHypothesis => exact inductionHypothesis
  | @digit _ _ character _ digit _ inductionHypothesis =>
      have kept : (character != '_') = true := bne_iff_ne.mpr (digit.ne (by decide))
      rw [List.filter_cons, if_pos kept]
      exact .cons digit inductionHypothesis

theorem AreDigitsOf.spells (digits : AreDigitsOf base values characters) :
    SpellsDigits base values characters := by
  induction digits with
  | nil => exact .nil
  | cons digit _ inductionHypothesis => exact .digit digit inductionHypothesis

theorem AreDigitsOf.digitsFrom? (digits : AreDigitsOf base values characters)
    (start : Nat) :
    VelocityScript.digitsFrom? base start characters =
      some (start * base ^ values.length + digitsValue base values) := by
  induction digits generalizing start with
  | nil => simp [VelocityScript.digitsFrom?, digitsValue]
  | @cons value character values characters digit _ inductionHypothesis =>
      rw [VelocityScript.digitsFrom?, digit.spells.digitIn? digit.below]
      refine (inductionHypothesis (start * base + value)).trans ?_
      rw [digitsValue_cons, List.length_cons, Nat.add_mul, Nat.pow_succ',
        Nat.mul_assoc, Nat.add_assoc]

theorem AreDigitsOf.number? (digits : AreDigitsOf base values characters) :
    VelocityScript.digitsFrom? base 0 characters =
      some (digitsValue base values) := by
  rw [digits.digitsFrom?, Nat.zero_mul, Nat.zero_add]

theorem AreDigitsOf.isDigit (digits : AreDigitsOf 10 values characters) :
    ∀ character ∈ characters, character.isDigit = true := by
  induction digits with
  | nil => exact List.forall_mem_nil _
  | cons digit _ inductionHypothesis =>
      exact List.forall_mem_cons.mpr ⟨digit.isDigit, inductionHypothesis⟩

theorem AreDigitsOf.head?_ne {other : Char}
    (digits : AreDigitsOf base values characters)
    (valueless : digitValue? other = none) : characters.head? ≠ some other := by
  cases digits with
  | nil => exact (Option.some_ne_none other).symm
  | cons digit _ =>
      rw [List.head?_cons, ne_eq, Option.some.injEq]
      exact digit.ne valueless

theorem AreDigitsOf.isEmpty (digits : AreDigitsOf base values characters)
    (filled : values ≠ []) : characters.isEmpty = false := by
  cases digits with
  | nil => exact absurd rfl filled
  | cons => rfl

/-! ## Reading integers -/

/-- What follows a mark is read as digits, if it has no sign. -/
theorem radixInteger?_of_unsigned (unsigned : characters.head? ≠ some '+') :
    radixInteger? base characters =
      (digits? base characters).filter (· < Nat.pow 2 64) := by
  unfold radixInteger?
  split
  · exact absurd rfl unsigned
  · rfl

theorem AreDigitsOf.radixInteger? (digits : AreDigitsOf base values characters)
    (filled : values ≠ []) (fits : digitsValue base values < 2 ^ 64) :
    VelocityScript.radixInteger? base characters =
      some (digitsValue base values) := by
  rw [radixInteger?_of_unsigned (digits.head?_ne (by decide)), digits?,
    digits.isEmpty filled, if_neg Bool.false_ne_true, digits.number?,
    Option.filter_some]
  exact if_pos (decide_eq_true fits)

/-- The parts of a decimal number that has digits only. -/
theorem AreDigitsOf.decimalParts (digits : AreDigitsOf 10 values characters)
    (filled : values ≠ []) :
    DecimalParts.ofCharacters? characters = some ⟨false, characters, [], 0⟩ := by
  have whole : characters.takeWhile Char.isDigit = characters :=
    List.takeWhile_eq_self_iff.mpr digits.isDigit
  have nothing : characters.dropWhile Char.isDigit = [] :=
    List.dropWhile_eq_nil_iff.mpr digits.isDigit
  unfold DecimalParts.ofCharacters?
  split
  next negative unsigned sign =>
    obtain ⟨rfl, rfl⟩ : negative = false ∧ unsigned = characters := by
      split at sign
      · exact absurd rfl (digits.head?_ne (by decide))
      · exact absurd rfl (digits.head?_ne (by decide))
      · cases sign
        exact ⟨rfl, rfl⟩
    simp only [whole, nothing, digits.isEmpty filled]
    rfl

theorem nearest?_whole (read : digitsFrom? 10 0 characters = some value) :
    DecimalParts.nearest? ⟨false, characters, [], 0⟩ =
      Double.ofQuotient? false value 1 := by
  unfold DecimalParts.nearest?
  simp only [List.append_nil, read, Option.getD_some, List.length_nil]
  by_cases zero : value = 0
  · rw [if_pos (.inl zero), zero]
  · rw [if_neg (by omega), if_neg (by omega)]
    simp

theorem AreDigitsOf.decimalLiteral? (digits : AreDigitsOf 10 values characters)
    (filled : values ≠ []) :
    VelocityScript.decimalLiteral? characters =
      Double.ofQuotient? false (digitsValue 10 values) 1 := by
  rw [VelocityScript.decimalLiteral?, digits.decimalParts filled, Option.bind_some,
    nearest?_whole digits.number?]

/-- Decimal digits are no integer of another base, whatever the second of them. -/
theorem numericLiteral?_of_digits
    (plain : text.toList.filter (· != '_') = characters)
    (digits : AreDigitsOf 10 values characters) :
    numericLiteral? text = decimalLiteral? characters := by
  unfold numericLiteral?
  simp only [plain]
  split
  · cases digits with
    | cons _ others =>
        cases others with
        | cons second _ => rw [second.radixMark?]
  · rfl

theorem numericLiteral?_of_mark {mark : Char} {rest : List Char}
    (plain : text.toList.filter (· != '_') = '0' :: mark :: rest)
    (marked : (mark, base) ∈ baseMarks) :
    numericLiteral? text = (radixInteger? base rest).bind fun value =>
      Double.ofQuotient? false value 1 := by
  have all : ∀ entry ∈ baseMarks, radixMark? entry.1 = some entry.2 := by decide
  unfold numericLiteral?
  simp only [plain, all (mark, base) marked]

/-- However an integer is spelled, its literal is the nearest double. -/
theorem SpellsInteger.numericLiteral? (spells : SpellsInteger value text.toList)
    (fits : value < 2 ^ 64) :
    VelocityScript.numericLiteral? text = Double.ofQuotient? false value 1 := by
  generalize spelling : text.toList = spelled at spells
  cases spells with
  | decimal first others =>
      have digits := (SpellsDigits.digit first others).filter
      rw [numericLiteral?_of_digits (by rw [spelling]) digits,
        digits.decimalLiteral? (List.cons_ne_nil _ _)]
  | @marked base mark values spelled marked filled spells =>
      have letters : ∀ entry ∈ baseMarks, (entry.1 != '_') = true := by decide
      have kept : (mark != '_') = true := letters (mark, base) marked
      have plain : text.toList.filter (· != '_') =
          '0' :: mark :: spelled.filter (· != '_') := by
        rw [spelling, List.filter_cons_of_pos (by decide), List.filter_cons,
          if_pos kept]
      rw [numericLiteral?_of_mark plain marked,
        spells.filter.radixInteger? filled fits, Option.bind_some]

/-! ## Decimal digits of a number -/

theorem isDigitOf_digitChar (short : value < 10) :
    IsDigitOf 10 value (Nat.digitChar value) := by
  have all : ∀ value < 10,
      Nat.digitChar value = Char.ofNat ('0'.toNat + value) := by decide
  refine ⟨short, ?_⟩
  rw [all value short]
  exact .decimal short

theorem exists_digits (value : Nat) :
    ∃ values, AreDigitsOf 10 values (Nat.toDigits 10 value) ∧
      digitsValue 10 values = value := by
  induction value using Nat.strong_induction_on with
  | _ value inductionHypothesis =>
      by_cases short : value < 10
      · refine ⟨[value], ?_, Nat.ofDigits_singleton⟩
        rw [Nat.toDigits_of_lt_base short]
        exact .cons (isDigitOf_digitChar short) .nil
      · obtain ⟨values, digits, sum⟩ := inductionHypothesis (value / 10) (by omega)
        -- The digits of the quotient come first, and the remainder is the last one.
        have last := isDigitOf_digitChar (Nat.mod_lt value (by decide : 0 < 10))
        refine ⟨values ++ [value % 10], ?_, ?_⟩
        · rw [Nat.toDigits_of_base_le (by decide) (Nat.not_lt.mp short)]
          exact List.rel_append digits (.cons last .nil)
        · rw [digitsValue_concat, sum, Nat.mul_comm]
          exact Nat.div_add_mod value 10

/-- The decimal digits of a number are a spelling of it. -/
theorem spellsInteger_repr (value : Nat) :
    SpellsInteger value (Nat.repr value).toList := by
  obtain ⟨values, digits, sum⟩ := exists_digits value
  obtain ⟨first, others, spelled⟩ :=
    List.exists_cons_of_ne_nil (Nat.toDigits_ne_nil (n := value) (b := 10))
  rw [Nat.repr_eq_ofList_toDigits, String.toList_ofList, spelled, ← sum]
  rw [spelled] at digits
  cases digits with
  | cons digit rest => exact .decimal digit (AreDigitsOf.spells rest)

/-! ## Printed numbers -/

namespace Template

/-- In every layout a number is printed as its text. -/
theorem render_number (options : LayoutOptions) (number : Double)
    (origin : Origin) :
    (Node.ofExpression (.ofValue (.number number origin))).render options =
      number.text := by
  obtain ⟨first, others, spelled, -⟩ := (isNumberText_text number).starts
  have filled : number.text.isEmpty = false := by
    rw [String.isEmpty_eq_false_iff]
    intro empty
    rw [empty] at spelled
    cases spelled
  refine String.toList_inj.mp ?_
  rw [toList_render_node]
  show written options false [.text 0 number.text] = _
  rw [written_outermost _ _ _ filled]
  exact List.append_nil _

end Template

/-! ## Literals -/

open Template in
/-- However a natural number below `2 ^ 53` is spelled, its literal is read as the
one double with exactly that value and no sign; in every layout that double is
printed as the decimal digits of the number; and these are read as the same double. -/
theorem integer_literal_keeps_value {value : Nat} {text : String}
    (spells : SpellsInteger value text.toList) (small : value < 2 ^ 53) :
    ∃ number : Double, numericLiteral? text = some number ∧
      (∀ other : Double, other.IsNatural value ↔ other = number) ∧
      (∀ (options : LayoutOptions) (origin : Origin),
        (Node.ofExpression (.ofValue (.number number origin))).render options =
          Nat.repr value) ∧
      numericLiteral? (Nat.repr value) = some number := by
  obtain ⟨number, rounded, natural⟩ := Double.exists_isNatural small
  have fits : value < 2 ^ 64 := Nat.lt_trans small (by decide)
  refine ⟨number, (spells.numericLiteral? fits).trans rounded,
    fun other => ⟨fun isNatural => isNatural.eq natural, ?_⟩,
    fun options origin => ?_,
    ((spellsInteger_repr value).numericLiteral? fits).trans rounded⟩
  · rintro rfl
    exact natural
  · rw [render_number, natural.text_eq small]

open Template in
/-- All 53 bits in hexadecimal digits of either case, with separators between them
and behind the last one. -/
theorem integer_literal_keeps_value_all_bits :
    SpellsInteger 9007199254740991 "0X1F_ffff_FFFF_ffff_".toList ∧
    9007199254740991 < 2 ^ 53 ∧
    ∃ number : Double, numericLiteral? "0X1F_ffff_FFFF_ffff_" = some number ∧
      (∀ other : Double, other.IsNatural 9007199254740991 ↔ other = number) ∧
      (∀ (options : LayoutOptions) (origin : Origin),
        (Node.ofExpression (.ofValue (.number number origin))).render options =
          "9007199254740991") ∧
      numericLiteral? "9007199254740991" = some number := by
  have one : IsDigitOf 16 1 '1' := ⟨by decide, .decimal (show 1 < 10 by decide)⟩
  have lower : IsDigitOf 16 15 'f' := ⟨by decide, .lower (show 5 < 6 by decide)⟩
  have upper : IsDigitOf 16 15 'F' := ⟨by decide, .upper (show 5 < 6 by decide)⟩
  have last : SpellsDigits 16 [15, 15, 15, 15] "ffff_".toList :=
    .digit lower (.digit lower (.digit lower (.digit lower (.separator .nil))))
  have middle : SpellsDigits 16 [15, 15, 15, 15, 15, 15, 15, 15]
      "FFFF_ffff_".toList :=
    .digit upper (.digit upper (.digit upper (.digit upper (.separator last))))
  have digits : SpellsDigits 16 [1, 15, 15, 15, 15, 15, 15, 15, 15, 15, 15, 15, 15, 15]
      "1F_ffff_FFFF_ffff_".toList :=
    .digit one (.digit upper (.separator
      (.digit lower (.digit lower (.digit lower (.digit lower
        (.separator middle)))))))
  have spells : SpellsInteger 9007199254740991 "0X1F_ffff_FFFF_ffff_".toList :=
    .marked (by decide : ('X', 16) ∈ baseMarks) (List.cons_ne_nil _ _) digits
  exact ⟨spells, by decide, integer_literal_keeps_value spells (by decide)⟩

end VelocityScript
