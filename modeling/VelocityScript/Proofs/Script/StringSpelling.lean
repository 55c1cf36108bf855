import VelocityScript.Proofs.Script.Delivering
import VelocityScript.Proofs.Script.Leading

/-!
# Ways to spell a string

Between its quotes a string can be spelled in many ways: every character stands
for itself or is written as an escape.  However a string is spelled, its literal
is read as that string, and reading stops right after the closing quote.
-/

namespace VelocityScript.Script

/-! ## Spelling -/

/-- A hexadecimal digit and its value. -/
inductive IsHexDigitOf : Nat → Char → Prop
  | decimal {value : Nat} : value < 10 →
      IsHexDigitOf value (Char.ofNat ('0'.toNat + value))
  | lower {value : Nat} : value < 6 →
      IsHexDigitOf (10 + value) (Char.ofNat ('a'.toNat + value))
  | upper {value : Nat} : value < 6 →
      IsHexDigitOf (10 + value) (Char.ofNat ('A'.toNat + value))

/-- Hexadecimal digits that continue one number to another one. -/
inductive ContinuesTo : Nat → List Char → Nat → Prop
  | nil {number : Nat} : ContinuesTo number [] number
  | cons {number value last : Nat} {digit : Char} {others : List Char} :
      IsHexDigitOf value digit →
      ContinuesTo (number * 16 + value) others last →
      ContinuesTo number (digit :: others) last

/-- Hexadecimal digits of a number. -/
abbrev SpellsNumber (digits : List Char) (number : Nat) : Prop :=
  ContinuesTo 0 digits number

/-- The letters that stand for control characters after a backslash. -/
def controlLetters : List (Char × Char) :=
  [('n', '\n'), ('r', '\r'), ('t', '\t'), ('b', Char.ofNat 8),
    ('f', Char.ofNat 12), ('v', Char.ofNat 11)]

/-- The ways to spell a character between quotes. -/
inductive SpellsCharacter (quote : Char) : Char → List Char → Prop
  | raw {character : Char} :
      character ≠ quote → character ≠ '\\' → character ≠ '\r' →
        character ≠ '\n' → SpellsCharacter quote character [character]
  | control {letter character : Char} :
      (letter, character) ∈ controlLetters →
        SpellsCharacter quote character ['\\', letter]
  | escaped {character : Char} :
      character ∈ ['\\', '"', '\''] →
        SpellsCharacter quote character ['\\', character]
  | twoDigits {character : Char} {digits : List Char} :
      SpellsNumber digits character.toNat → digits.length = 2 →
        SpellsCharacter quote character ('\\' :: 'x' :: digits)
  | fourDigits {character : Char} {digits : List Char} :
      SpellsNumber digits character.toNat → digits.length = 4 →
        SpellsCharacter quote character ('\\' :: 'u' :: digits)
  | braced {character : Char} {digits : List Char} :
      SpellsNumber digits character.toNat → digits ≠ [] →
        SpellsCharacter quote character
          ('\\' :: 'u' :: '\x7b' :: (digits ++ ['\x7d']))

/-- The ways to spell a string between quotes. -/
inductive SpellsString (quote : Char) : List Char → List Char → Prop
  | nil : SpellsString quote [] []
  | cons {character : Char} {others part spelled : List Char} :
      SpellsCharacter quote character part →
      SpellsString quote others spelled →
      SpellsString quote (character :: others) (part ++ spelled)

/-! ## Numbers of escapes -/

theorem IsHexDigitOf.digitValue? {value : Nat} {digit : Char}
    (spells : IsHexDigitOf value digit) :
    VelocityScript.digitValue? digit = some value := by
  have decimal : ∀ value < 10, VelocityScript.digitValue?
      (Char.ofNat ('0'.toNat + value)) = some value := by decide
  have lower : ∀ value < 6, VelocityScript.digitValue?
      (Char.ofNat ('a'.toNat + value)) = some (10 + value) := by decide
  have upper : ∀ value < 6, VelocityScript.digitValue?
      (Char.ofNat ('A'.toNat + value)) = some (10 + value) := by decide
  cases spells with
  | decimal short => exact decimal _ short
  | lower short => exact lower _ short
  | upper short => exact upper _ short

theorem IsHexDigitOf.digitIn? {base value : Nat} {digit : Char}
    (spells : IsHexDigitOf value digit) (below : value < base) :
    VelocityScript.digitIn? base digit = some value := by
  rw [VelocityScript.digitIn?, spells.digitValue?, Option.filter_some,
    decide_eq_true below]
  rfl

theorem IsHexDigitOf.lt {value : Nat} {digit : Char}
    (spells : IsHexDigitOf value digit) : value < 16 := by
  cases spells <;> omega

theorem ContinuesTo.digitsFrom? {number last : Nat} {digits : List Char}
    (spells : ContinuesTo number digits last) :
    VelocityScript.digitsFrom? 16 number digits = some last := by
  induction spells with
  | nil => rfl
  | cons digit _ inductionHypothesis =>
      rw [VelocityScript.digitsFrom?, digit.digitIn? digit.lt]
      exact inductionHypothesis

theorem ContinuesTo.areDigits {number last : Nat} {digits : List Char}
    (spells : ContinuesTo number digits last) :
    ∀ digit ∈ digits, Parser.isHexDigit digit = true := by
  induction spells with
  | nil => exact List.forall_mem_nil _
  | cons digit _ inductionHypothesis =>
      refine List.forall_mem_cons.mpr ⟨?_, inductionHypothesis⟩
      rw [Parser.isHexDigit, digit.digitValue?]
      rfl

namespace Parser

variable {cursor : Cursor} {rest digits : List Char} {character : Char}

theorem hexValue_of_spells {number : Nat} (spells : SpellsNumber digits number) :
    hexValue digits = number := by
  rw [hexValue, ContinuesTo.digitsFrom? spells]
  rfl

theorem delivers_codePoint (character : Char) (start : Nat)
    (standing : cursor.rest = rest) :
    Delivers (codePoint character.toNat start) cursor (· = [character]) rest := by
  have valid : character.toNat.isValidChar := character.valid
  unfold codePoint
  rw [if_pos valid, Char.ofNat_toNat]
  exact delivers_pure rfl standing

theorem delivers_hexDigits {number start : Nat}
    (spells : SpellsNumber digits number)
    (standing : cursor.rest = digits ++ rest) :
    Delivers (hexDigits digits.length start) cursor (· = number) rest := by
  have taken : (cursor.rest.take digits.length).takeWhile isHexDigit = digits := by
    have whole : (digits ++ []).takeWhile isHexDigit =
        digits ++ [].takeWhile isHexDigit :=
      List.takeWhile_append_of_pos (ContinuesTo.areDigits spells)
    rw [List.takeWhile_nil, List.append_nil] at whole
    rw [standing, List.take_left, whole]
  have left : (cursor.advance digits.length).rest = rest := by
    rw [Cursor.advance, standing]
    exact List.drop_left
  refine delivers_get ?_
  dsimp only
  rw [taken]
  refine delivers_skip ?_
  rw [if_neg (Nat.lt_irrefl _), hexValue_of_spells spells]
  exact delivers_pure rfl left

theorem delivers_bracedHexDigits {start : Nat}
    (spells : SpellsNumber digits character.toNat) (nonempty : digits ≠ [])
    (standing : cursor.rest = digits ++ '\x7d' :: rest) :
    Delivers (bracedHexDigits start) cursor (· = character.toNat) rest := by
  have stops : ('\x7d' :: rest).takeWhile isHexDigit = [] :=
    List.takeWhile_cons_of_neg (by decide)
  refine (delivers_takeRun standing (ContinuesTo.areDigits spells) stops).bind
    fun found next same standingNext => ?_
  subst same
  have filled : ¬ found.isEmpty = true := by
    rw [List.isEmpty_iff]
    exact nonempty
  have short : character.toNat < Nat.pow 2 32 := character.val.toNat_lt
  rw [if_neg filled]
  refine delivers_eatCharacter standingNext fun final standingFinal => ?_
  rw [if_pos rfl, hexValue_of_spells spells, if_pos short]
  exact delivers_pure rfl standingFinal

/-! ## Escapes -/

/-- The rest of a text after its first character. -/
theorem rest_advance_one (standing : cursor.rest = character :: rest) :
    (cursor.advance 1).rest = rest := by
  rw [Cursor.advance, standing]
  rfl

/-- A letter after the backslash that starts no longer escape. -/
theorem delivers_letterEscape
    (short : character ∉ ['0', '\r', '\n', 'x', 'u'])
    (standing : cursor.rest = character :: rest) :
    Delivers escape cursor (· = [(simpleEscape? character).getD character])
      rest := by
  have left := rest_advance_one standing
  simp only [List.mem_cons, List.not_mem_nil, or_false, not_or] at short
  obtain ⟨notZero, notReturn, notLine, notByte, notUnit⟩ := short
  refine delivers_get ?_
  dsimp only
  rw [standing]
  split
  · next same => cases same
  · next same => exact absurd (List.cons.inj same).1 notZero
  · next same => exact absurd (List.cons.inj same).1 notReturn
  · next same => exact absurd (List.cons.inj same).1 notLine
  · next same => exact absurd (List.cons.inj same).1 notByte
  · next same => exact absurd (List.cons.inj same).1 notUnit
  · next same =>
      rw [← (List.cons.inj same).1]
      exact delivers_skip (delivers_pure rfl left)

theorem delivers_twoDigits (spells : SpellsNumber digits character.toNat)
    (counted : digits.length = 2) (standing : cursor.rest = 'x' :: (digits ++ rest)) :
    Delivers escape cursor (· = [character]) rest := by
  have left := rest_advance_one standing
  have number : Delivers (hexDigits 2 (cursor.offset - 1)) (cursor.advance 1)
      (· = character.toNat) rest := by
    rw [← counted]
    exact delivers_hexDigits spells left
  refine delivers_get ?_
  dsimp only
  rw [standing]
  refine delivers_skip (number.bind ?_)
  rintro _ next rfl standingNext
  exact delivers_codePoint character _ standingNext

theorem delivers_fourDigits (spells : SpellsNumber digits character.toNat)
    (counted : digits.length = 4) (standing : cursor.rest = 'u' :: (digits ++ rest)) :
    Delivers escape cursor (· = [character]) rest := by
  have left := rest_advance_one standing
  have unbraced : (cursor.advance 1).rest.head? ≠ some '\x7b' := by
    rw [left]
    cases digits with
    | nil => cases counted
    | cons digit others =>
        intro same
        have brace : digit = '\x7b' := Option.some.inj same
        have isDigit := ContinuesTo.areDigits spells digit List.mem_cons_self
        rw [brace] at isDigit
        exact absurd isDigit (by decide)
  have number : Delivers (hexDigits 4 (cursor.offset - 1)) (cursor.advance 1)
      (· = character.toNat) rest := by
    rw [← counted]
    exact delivers_hexDigits spells left
  refine delivers_get ?_
  dsimp only
  rw [standing]
  refine delivers_skip (delivers_uneatenCharacter unbraced ?_)
  rw [if_neg Bool.false_ne_true]
  refine number.bind ?_
  rintro _ next rfl standingNext
  exact delivers_codePoint character _ standingNext

theorem delivers_bracedDigits (spells : SpellsNumber digits character.toNat)
    (nonempty : digits ≠ [])
    (standing : cursor.rest = 'u' :: '\x7b' :: (digits ++ '\x7d' :: rest)) :
    Delivers escape cursor (· = [character]) rest := by
  have left := rest_advance_one standing
  refine delivers_get ?_
  dsimp only
  rw [standing]
  refine delivers_skip (delivers_eatCharacter left fun here standingHere => ?_)
  rw [if_pos rfl]
  refine (delivers_bracedHexDigits spells nonempty standingHere).bind ?_
  rintro _ next rfl standingNext
  exact delivers_codePoint character _ standingNext

/-! ## Literals -/

/-- A round of the loop that reads a string. -/
def stringRound (quote : Char) (start : Nat) (reversed : List Char) :
    Parser (Round (List Char) String) := do
  match (← get).rest with
  | [] | '\r' :: _ | '\n' :: _ => failAt .unterminatedString (← spanFrom start)
  | '\\' :: _ =>
      skip 1
      return .again ((← escape).reverse ++ reversed)
  | character :: _ =>
      skip 1
      if character = quote then
        return .finished (String.ofList reversed.reverse)
      else
        return .again (character :: reversed)

theorem delivers_escapeRound {quote : Char} {start : Nat} {reversed part : List Char}
    (standing : cursor.rest = '\\' :: part)
    (escapes : ∀ here : Cursor, here.rest = part →
      Delivers escape here (· = [character]) rest) :
    Delivers (stringRound quote start reversed) cursor
      (· = .again (character :: reversed)) rest := by
  refine delivers_get ?_
  rw [standing]
  refine delivers_skip ((escapes _ (rest_advance_one standing)).bind ?_)
  rintro _ next rfl standingNext
  exact delivers_pure rfl standingNext

/-- A character that is no line break and no backslash is read as it stands. -/
theorem delivers_plainRound {quote : Char} {start : Nat} {reversed : List Char}
    (plain : character ∉ ['\\', '\r', '\n'])
    (standing : cursor.rest = character :: rest) :
    Delivers (stringRound quote start reversed) cursor
      (· = if character = quote then .finished (String.ofList reversed.reverse)
        else .again (character :: reversed)) rest := by
  have left := rest_advance_one standing
  simp only [List.mem_cons, List.not_mem_nil, or_false, not_or] at plain
  obtain ⟨notEscape, notReturn, notLine⟩ := plain
  refine delivers_get ?_
  rw [standing]
  split
  · next same => cases same
  · next same => exact absurd (List.cons.inj same).1 notReturn
  · next same => exact absurd (List.cons.inj same).1 notLine
  · next same => exact absurd (List.cons.inj same).1 notEscape
  · next same =>
      rw [← (List.cons.inj same).1]
      refine delivers_skip ?_
      split
      · exact delivers_pure rfl left
      · exact delivers_pure rfl left

/-- However a character is spelled, a round reads it. -/
theorem delivers_spelledCharacter {quote : Char} {start : Nat}
    {reversed part : List Char} (spells : SpellsCharacter quote character part)
    (standing : cursor.rest = part ++ rest) :
    Delivers (stringRound quote start reversed) cursor
      (· = .again (character :: reversed)) rest := by
  have letters : ∀ pair ∈ controlLetters, simpleEscape? pair.1 = some pair.2 ∧
      pair.1 ∉ ['0', '\r', '\n', 'x', 'u'] := by decide
  have marks : ∀ mark ∈ ['\\', '"', '\''], simpleEscape? mark = none ∧
      mark ∉ ['0', '\r', '\n', 'x', 'u'] := by
    intro mark listed
    simp only [List.mem_cons, List.not_mem_nil, or_false] at listed
    rcases listed with rfl | rfl | rfl
    · decide
    · decide
    · decide
  cases spells with
  | raw notQuote notEscape notReturn notLine =>
      have plain : character ∉ ['\\', '\r', '\n'] := by
        simp only [List.mem_cons, List.not_mem_nil, or_false, not_or]
        exact ⟨notEscape, notReturn, notLine⟩
      refine (delivers_plainRound plain standing).mono fun outcome same => ?_
      rw [same, if_neg notQuote]
  | @control letter _ listed =>
      obtain ⟨means, short⟩ := letters _ listed
      refine delivers_escapeRound standing fun here standingHere => ?_
      have delivers := delivers_letterEscape short standingHere
      rw [means] at delivers
      exact delivers
  | escaped listed =>
      obtain ⟨means, short⟩ := marks _ listed
      refine delivers_escapeRound standing fun here standingHere => ?_
      have delivers := delivers_letterEscape short standingHere
      rw [means] at delivers
      exact delivers
  | twoDigits spells counted =>
      exact delivers_escapeRound standing fun here standingHere =>
        delivers_twoDigits spells counted standingHere
  | fourDigits spells counted =>
      exact delivers_escapeRound standing fun here standingHere =>
        delivers_fourDigits spells counted standingHere
  | braced spells nonempty =>
      refine delivers_escapeRound standing fun here standingHere =>
        delivers_bracedDigits spells nonempty ?_
      rw [standingHere]
      simp

theorem spelling_length_pos {quote : Char} {part : List Char}
    (spells : SpellsCharacter quote character part) : 0 < part.length := by
  cases spells <;> exact Nat.succ_pos _

/-- The loop reads a string character by character, up to the closing quote. -/
theorem loops_string {quote : Char} (isQuote : quote ∈ ['"', '\'']) (start : Nat)
    {characters spelled : List Char}
    (spells : SpellsString quote characters spelled) :
    ∀ (reversed : List Char) (cursor : Cursor),
      cursor.rest = spelled ++ quote :: rest →
        Loops (stringRound quote start) reversed cursor
          (· = String.ofList (reversed.reverse ++ characters)) rest := by
  induction spells with
  | nil =>
      intro reversed cursor standing
      have plain : quote ∉ ['\\', '\r', '\n'] := by
        simp only [List.mem_cons, List.not_mem_nil, or_false] at isQuote
        rcases isQuote with rfl | rfl
        · decide
        · decide
      refine loops_finished ((delivers_plainRound plain standing).mono
        fun outcome same => ⟨_, ?_, rfl⟩)
      rw [same, if_pos rfl, List.append_nil]
  | @cons character others part spelled spellsPart _ inductionHypothesis =>
      intro reversed cursor standing
      rw [List.append_assoc] at standing
      have shorter : (spelled ++ quote :: rest).length < cursor.rest.length := by
        have positive := spelling_length_pos spellsPart
        have lengths : (part ++ (spelled ++ quote :: rest)).length =
            part.length + (spelled ++ quote :: rest).length :=
          List.length_append
        rw [standing, lengths]
        omega
      refine loops_again ((delivers_spelledCharacter spellsPart standing).mono
        fun outcome same => ⟨_, same, rfl⟩) shorter ?_
      rintro _ next rfl standingNext
      refine (inductionHypothesis _ next standingNext).mono fun result same => ?_
      rw [same, List.reverse_cons, List.append_assoc]
      rfl

theorem delivers_stringLiteral {quote : Char} (isQuote : quote ∈ ['"', '\''])
    {characters spelled : List Char} (spells : SpellsString quote characters spelled)
    (standing : cursor.tokenStart.rest = quote :: (spelled ++ quote :: rest)) :
    Delivers stringLiteral cursor (· = String.ofList characters) rest := by
  have mark : quote = '"' ∨ quote = '\'' := by
    simpa only [List.mem_cons, List.not_mem_nil, or_false] using isQuote
  refine delivers_skipTrivia (delivers_get (delivers_get ?_))
  rw [standing]
  dsimp only
  rw [if_pos mark]
  exact delivers_skip (loops_string isQuote _ spells [] _
    (rest_advance_one standing)).delivers

/-- A literal is read as its string, however that is spelled, and reading stops
right after the closing quote. -/
theorem stringLiteral_spelled {quote : Char} (isQuote : quote ∈ ['"', '\''])
    {characters spelled : List Char} (spells : SpellsString quote characters spelled)
    (standing : cursor.tokenStart.rest = quote :: (spelled ++ quote :: rest)) :
    stringLiteral cursor = .ok (String.ofList characters,
      ⟨cursor.tokenStart.offset + byteLength (quote :: (spelled ++ [quote])),
        rest⟩) := by
  obtain ⟨result, next, ran, rfl, left⟩ :=
    delivers_stringLiteral isQuote spells standing
  have passing : Leads stringLiteral cursor fun _ next => cursor.Passes next :=
    leads_atToken (reads_stringLiteral cursor.tokenStart.standsIn_padding).leads
  obtain ⟨passed, split, counted, -⟩ := passing _ next ran
  -- What has been passed is what stands in front of the rest.
  have front : passed = quote :: (spelled ++ [quote]) := by
    have whole : passed ++ rest = (quote :: (spelled ++ [quote])) ++ rest := by
      rw [← left, ← split, standing, left]
      simp
    exact List.append_cancel_right whole
  rw [ran, ← front, ← counted, ← left]

end Parser

end VelocityScript.Script
