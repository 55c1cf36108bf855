import VelocityScript.Proofs.Script.Continuations
import VelocityScript.Proofs.Script.Progress
import VelocityScript.Script.Literal
import VelocityScript.Script.Skipping

/-!
# Tokens, literals and skipped text

What is read without nested constructs: punctuators, words, lists of items
between brackets, literals, and the constructs that are only skipped.
-/

namespace VelocityScript.Script

open Cursor (Moves)

/-! ## Texts at the front of a text -/

theorem wordAtFront?_isPrefix {rest word : List Char}
    (found : wordAtFront? rest = some word) : word <+: rest ∧ word ≠ [] := by
  cases rest with
  | nil => cases found
  | cons first others =>
      simp only [wordAtFront?] at found
      split at found
      · cases found
        exact ⟨List.prefix_cons_inj first |>.mpr (List.takeWhile_prefix _), nofun⟩
      · cases found

namespace Punctuator

theorem characters_ne_nil (punctuator : Punctuator) :
    punctuator.characters ≠ [] := by
  cases punctuator <;> exact nofun

theorem atFront?_isPrefix {rest : List Char} {punctuator : Punctuator}
    (found : atFront? rest = some punctuator) :
    punctuator.characters <+: rest := by
  unfold atFront? at found
  have front := List.find?_some found
  exact List.isPrefixOf_iff_prefix.mp front

theorem foldl_longerOperator_mem :
    ∀ (candidates : List (Punctuator × BinaryOperator))
      (best : Option (Punctuator × BinaryOperator))
      (found : Punctuator × BinaryOperator),
      candidates.foldl longerOperator best = some found →
        found ∈ candidates ∨ best = some found
  | [], best, found, same => Or.inr same
  | candidate :: others, best, found, same => by
      rcases foldl_longerOperator_mem others _ found same with later | here
      · exact Or.inl (List.mem_cons_of_mem candidate later)
      · unfold longerOperator at here
        split at here
        · cases here
          exact Or.inl List.mem_cons_self
        · split at here
          · cases here
            exact Or.inl List.mem_cons_self
          · exact Or.inr here

theorem binaryAtFront?_isPrefix {rest : List Char} {token : Punctuator}
    {operator : BinaryOperator}
    (found : binaryAtFront? rest = some (token, operator)) :
    token.characters <+: rest := by
  unfold binaryAtFront? at found
  split at found
  · cases found
  · rcases foldl_longerOperator_mem _ _ _ found with member | none
    · exact List.isPrefixOf_iff_prefix.mp (List.mem_filter.mp member).2
    · cases none

end Punctuator

/-- A binary operator is passed as a token. -/
theorem Cursor.moves_binaryOperator {cursor after : Cursor}
    {operator : BinaryOperator}
    (found : cursor.binaryOperator? = some (operator, after)) :
    Moves 1 cursor after := by
  simp only [binaryOperator?] at found
  split at found
  · next word named =>
      obtain ⟨front, nonempty⟩ := wordAtFront?_isPrefix named
      have passed := moves_token front nonempty
      split at found
      · cases found
        exact passed
      · split at found
        · cases found
          exact passed
        · cases found
  · obtain ⟨⟨token, read⟩, front, same⟩ := Option.map_eq_some_iff.mp found
    cases same
    exact moves_token (Punctuator.binaryAtFront?_isPrefix front)
      token.characters_ne_nil

namespace Parser

variable {text : List Char} {Result : Type} {cursor : Cursor}

/-! ## Tokens -/

/-- What a parser that may read something tells: whether it has. -/
def Taken (cursor : Cursor) (taken : Bool) (next : Cursor) : Prop :=
  if taken = true then Moves 1 cursor next else next = cursor

theorem Taken.moves {taken : Bool} {next : Cursor}
    (outcome : Taken cursor taken next) : Moves 0 cursor next := by
  cases taken with
  | true => exact Moves.weaken outcome (by omega)
  | false =>
      cases outcome
      exact .refl cursor

/-- The two ways to go on after a parser that may read something. -/
theorem Runs.branch {parser : Parser Bool} {taken untaken : Parser Result}
    {after : Result → Cursor → Prop}
    (runs : Runs text parser cursor (Taken cursor))
    (here : ∀ next, Moves 1 cursor next → Runs text taken next after)
    (there : Runs text untaken cursor after) :
    Runs text (do if ← parser then taken else untaken) cursor after := by
  refine runs.bind fun found next outcome => ?_
  cases found with
  | true => exact here next outcome
  | false =>
      cases outcome
      exact there

/-- A step that is taken only after something has been read. -/
theorem Runs.optional {parser : Parser Bool} {step : Parser Unit}
    {continued : Unit → Parser Result} {after : Result → Cursor → Prop}
    (runs : Runs text parser cursor (Taken cursor))
    (taken : ∀ next, Moves 1 cursor next → Reads text 0 step next)
    (continues : ∀ next, Moves 0 cursor next →
      Runs text (continued ()) next after) :
    Runs text (do if ← parser then step >>= continued else continued ())
      cursor after := by
  refine runs.branch (fun next moved => ?_) (continues cursor (.refl cursor))
  exact (taken next moved).bind fun _ final passed =>
    continues final (moved.onTo passed)

/-- A step that is taken only under a condition. -/
theorem runs_when {condition : Prop} [Decidable condition] {step : Parser Unit}
    {continued : Unit → Parser Result} {after : Result → Cursor → Prop}
    (taken : condition → Reads text 0 step cursor)
    (continues : ∀ next, Moves 0 cursor next →
      Runs text (continued ()) next after) :
    Runs text (if condition then step >>= continued else continued ()) cursor
      after :=
  runs_ite (fun holds => (taken holds).bind fun _ next => continues next)
    fun _ => continues cursor (.refl cursor)

/-- A punctuator is passed from the start of its token on. -/
theorem runs_eatToken (punctuator : Punctuator) :
    Runs text (eat punctuator) cursor fun taken next =>
      if taken = true then Moves 1 cursor.tokenStart next else next = cursor := by
  refine runs_get (runs_ite (fun seen => ?_) fun _ => ?_)
  · have front := Punctuator.atFront?_isPrefix (eq_of_beq seen)
    exact Cursor.moves_of_isPrefix front punctuator.characters_ne_nil
  · exact runs_pure rfl

theorem runs_eat (punctuator : Punctuator) :
    Runs text (eat punctuator) cursor (Taken cursor) := by
  refine (runs_eatToken punctuator).mono fun taken next outcome => ?_
  cases taken with
  | true => exact cursor.moves_tokenStart.onTo outcome
  | false => exact outcome

theorem runs_eatCharacter (character : Char) :
    Runs text (eatCharacter character) cursor (Taken cursor) := by
  refine runs_get (runs_ite (fun seen => ?_) fun _ => ?_)
  · refine Cursor.moves_advance cursor (Nat.le_refl 1) ?_
    cases standing : cursor.rest with
    | nil =>
        rw [standing] at seen
        cases seen
    | cons first others => simp
  · exact runs_pure rfl

theorem runs_eatWord (word : String) :
    Runs text (eatWord word) cursor (Taken cursor) := by
  refine runs_get (runs_ite (fun seen => ?_) fun _ => ?_)
  · obtain ⟨characters, found, rfl⟩ := Option.map_eq_some_iff.mp (eq_of_beq seen)
    obtain ⟨front, nonempty⟩ := wordAtFront?_isPrefix found
    have passed := Cursor.moves_token front nonempty
    rw [← String.length_ofList] at passed
    exact passed
  · exact runs_pure rfl

theorem reads_eat (punctuator : Punctuator) :
    Reads text 0 (eat punctuator) cursor :=
  (runs_eat punctuator).mono fun _ _ outcome => outcome.moves

theorem reads_eatCharacter (character : Char) :
    Reads text 0 (eatCharacter character) cursor :=
  (runs_eatCharacter character).mono fun _ _ outcome => outcome.moves

theorem reads_expect (punctuator : Punctuator) (stands : cursor.StandsIn text) :
    Reads text 1 (expect punctuator) cursor :=
  (runs_eat punctuator).branch (fun _ moved => runs_pure moved)
    (runs_fail nofun stands)

/-- A required punctuator is passed from the start of its token on. -/
theorem runs_expect (punctuator : Punctuator) (stands : cursor.StandsIn text) :
    Runs text (expect punctuator) cursor fun _ next =>
      Moves 1 cursor.tokenStart next := by
  refine (runs_eatToken punctuator).bind fun taken next outcome => ?_
  cases taken with
  | true => exact runs_pure outcome
  | false =>
      cases outcome
      exact runs_fail nofun stands

theorem reads_expectWord (word : String) (stands : cursor.StandsIn text) :
    Reads text 1 (expectWord word) cursor :=
  (runs_eatWord word).branch (fun _ moved => runs_pure moved)
    (runs_fail nofun stands)

/-- A name is passed, and its span is that of the word. -/
theorem runs_nameOf {word : List Char} (stands : cursor.StandsIn text)
    (found : wordAtFront? cursor.tokenStart.rest = some word) :
    Runs text (nameOf word) cursor fun named next =>
      Moves 1 cursor next ∧ FitsIn text named.span := by
  obtain ⟨front, nonempty⟩ := wordAtFront?_isPrefix found
  refine runs_get (runs_set (runs_spanFrom (runs_pure ?_)))
  exact ⟨Cursor.moves_token front nonempty,
    (stands.after cursor.moves_tokenStart).fitsIn
      (Cursor.moves_of_isPrefix front nonempty)⟩

theorem runs_word (stands : cursor.StandsIn text) :
    Runs text word cursor fun named next =>
      Moves 1 cursor next ∧ FitsIn text named.span := by
  refine runs_get ?_
  split
  · next found => exact runs_nameOf stands found
  · exact runs_fail nofun stands

theorem reads_word (stands : cursor.StandsIn text) : Reads text 1 word cursor :=
  (runs_word stands).mono fun _ _ read => read.1

theorem reads_identifier (stands : cursor.StandsIn text) :
    Reads text 1 identifier cursor := by
  refine runs_get ?_
  dsimp only
  split
  · next word found =>
      refine runs_ite (fun _ => ?_) fun _ => ?_
      · obtain ⟨front, nonempty⟩ := wordAtFront?_isPrefix found
        refine runs_failAt nofun ?_
        have fits := (stands.after cursor.moves_tokenStart).fitsIn
          (Cursor.moves_of_isPrefix front nonempty)
        rw [Cursor.advance, ← List.prefix_iff_eq_take.mp front] at fits
        exact fits
      · exact (runs_nameOf stands found).mono fun _ _ read => read.1
  · exact runs_fail nofun stands

theorem reads_semicolon (stands : cursor.StandsIn text) :
    Reads text 0 semicolon cursor := by
  refine (runs_eat .semicolon).branch
    (fun _ moved => runs_pure moved.reaches) (runs_get (runs_ite ?_ ?_))
  · intro _
    exact runs_pure (.refl cursor)
  · intro _
    exact runs_fail nofun stands

theorem reads_otherExpression (kind : OtherExpression) (start : Nat) :
    Reads text 0 (otherExpression kind start) cursor :=
  runs_spanFrom (runs_pure (.refl cursor))

/-! ## Lists of items -/

theorem reads_itemRound {closing : Punctuator} {item : Parser Result}
    {items : List Result} (stands : cursor.StandsIn text)
    (reads : Reads text 1 item cursor) :
    Runs text (itemRound closing item items) cursor
      (Round.Passes 1 cursor) := by
  refine reads.bind fun _ between passed => ?_
  refine (runs_eat .comma).branch (fun next moved => ?_) ?_
  · have whole := passed.trans moved
    exact runs_pure ⟨whole.reaches, by have := whole.length_le; omega⟩
  · exact (reads_expect closing (stands.after passed)).bind
      fun _ _ moved => runs_pure (passed.further moved)

/-- A list of items ends with its closing token.  Its items are read at cursors
from its start on. -/
theorem reads_commaSeparated {closing : Punctuator} {item : Parser Result}
    (stands : cursor.StandsIn text)
    (items : ∀ here, here.StandsIn text → Moves 0 cursor here →
      Reads text 1 item here) :
    Reads text 1 (commaSeparated closing item) cursor := by
  refine reads_repeating 1 stands fun read here standsHere reached => ?_
  refine (runs_eat closing).branch (fun _ moved => runs_pure moved) ?_
  exact reads_itemRound standsHere (items here standsHere reached)

theorem reads_commaSeparatedOrHoles {closing : Punctuator}
    {hole : Nat → Parser Result} {item : Parser Result}
    (stands : cursor.StandsIn text)
    (holes : ∀ start here, Reads text 0 (hole start) here)
    (items : ∀ here, here.StandsIn text → Moves 0 cursor here →
      Reads text 1 item here) :
    Reads text 1 (commaSeparatedOrHoles closing hole item) cursor := by
  refine reads_repeating 1 stands fun read here standsHere reached => ?_
  refine runs_tokenOffset ?_
  refine (runs_eat closing).branch (fun _ moved => runs_pure moved) ?_
  refine (runs_eat .comma).branch (fun next moved => ?_) ?_
  · refine (holes _ next).bind fun _ final rested => ?_
    have whole := moved.trans rested
    exact runs_pure ⟨whole.reaches, by have := whole.length_le; omega⟩
  · exact reads_itemRound standsHere (items here standsHere reached)

/-! ## Literals -/

theorem reads_skip (count : Nat) : Reads text 0 (skip count) cursor :=
  Cursor.moves_advance cursor (Nat.zero_le _) (Nat.zero_le _)

/-- Skipping at a cursor that is not at the end. -/
theorem reads_skip_of_cons {first : Char} {others : List Char} (count : Nat)
    (standing : cursor.rest = first :: others) :
    Reads text 1 (skip (count + 1)) cursor :=
  Cursor.moves_advance cursor (Nat.succ_pos count) (by simp [standing])

theorem runs_takeRun (condition : Char → Bool) :
    Runs text (takeRun condition) cursor fun run next =>
      Moves run.length cursor next :=
  Cursor.moves_advance cursor (Nat.le_refl _)
    (List.takeWhile_prefix condition).length_le

theorem reads_takeRun (condition : Char → Bool) :
    Reads text 0 (takeRun condition) cursor :=
  (runs_takeRun condition).mono fun _ _ moved => moved.weaken (Nat.zero_le _)

/-- A run that starts with the first character. -/
theorem runs_takeRun_of_cons {first : Char} {others : List Char}
    {condition : Char → Bool} (standing : cursor.rest = first :: others)
    (holds : condition first = true) :
    Reads text 1 (takeRun condition) cursor := by
  refine Cursor.moves_advance cursor ?_ (by simp [standing])
  rw [standing, List.takeWhile_cons_of_pos holds]
  exact Nat.succ_pos _

theorem reads_fractionDigits : Reads text 0 fractionDigits cursor :=
  (runs_eatCharacter '.').branch
    (fun _ moved => (reads_takeRun isDigitOrSeparator).bind
      fun _ _ passed => runs_pure (moved.onTo passed))
    (runs_pure (.refl cursor))

/-- A point is read as the start of a fraction. -/
theorem reads_fractionDigits_of_point {others : List Char}
    (standing : cursor.rest = '.' :: others) :
    Reads text 1 fractionDigits cursor := by
  have eaten : Runs text (eatCharacter '.') cursor fun found next =>
      found = true ∧ Moves 1 cursor next := by
    refine runs_get (runs_ite (fun _ => ?_) fun unseen => ?_)
    · exact (reads_skip_of_cons 0 standing).bind
        fun _ _ moved => runs_pure ⟨rfl, moved⟩
    · rw [standing] at unseen
      exact (unseen rfl).elim
  refine eaten.bind fun found next outcome => ?_
  obtain ⟨rfl, moved⟩ := outcome
  exact (reads_takeRun isDigitOrSeparator).bind
    fun _ _ passed => runs_pure (moved.further passed)

theorem reads_exponentDigits {start : Nat} (opened : cursor.OpenedAt text start) :
    Reads text 0 (exponentDigits start) cursor := by
  refine runs_get ?_
  split
  · refine runs_ite (fun _ => ?_) fun _ => runs_pure (.refl cursor)
    refine (reads_skip 1).bind fun _ marked first => ?_
    refine (reads_skip _).bind fun _ signed second => ?_
    refine (reads_takeRun isDigitOrSeparator).bind fun digits here third => ?_
    have passed : Moves 0 cursor here := first.further (second.trans third)
    exact runs_ite (fun _ => runs_failFrom nofun (opened.after passed))
      fun _ => runs_pure passed
  · exact runs_pure (.refl cursor)

/-- A number that starts with a digit or a point. -/
theorem runs_numberEnd {here : Cursor} (stands : cursor.StandsIn text)
    (digits : List Char) (passed : Moves 1 cursor here) :
    Runs text (numberEnd cursor.offset digits) here fun _ next =>
      Moves 1 cursor next := by
  refine (runs_eatCharacter 'n').branch
    (fun _ moved => runs_pure (passed.further moved)) (runs_get ?_)
  split
  · next following rest ahead =>
      refine runs_ite (fun _ => runs_failAt nofun ?_) fun _ => runs_pure passed
      have moved : Moves 0 here (here.advance 1) :=
        Cursor.moves_advance here (Nat.zero_le _) (Nat.zero_le _)
      have fits := stands.fitsIn (passed.trans moved)
      simpa [Cursor.advance, ahead, byteLength] using fits
  · exact runs_pure passed

theorem reads_number {first : Char} {others : List Char}
    (stands : cursor.StandsIn text) (standing : cursor.rest = first :: others)
    (starts : first.isDigit = true ∨ first = '.') :
    Reads text 1 number cursor := by
  refine runs_get (runs_ite (fun _ => ?_) fun _ => ?_)
  · refine (reads_skip_of_cons 1 standing).bind fun _ marked moved => ?_
    refine (reads_takeRun _).bind fun run here passed => ?_
    exact runs_numberEnd stands _ (moved.further passed)
  · have whole : Runs text (takeRun isDigitOrSeparator) cursor fun _ next =>
        Moves 1 cursor next ∨
          Moves 0 cursor next ∧ next.rest = '.' :: others := by
      rcases starts with digit | rfl
      · refine (runs_takeRun_of_cons standing ?_).mono fun _ _ => Or.inl
        simp [isDigitOrSeparator, digit]
      · refine Or.inr ⟨Cursor.moves_advance cursor (Nat.zero_le _) (Nat.zero_le _), ?_⟩
        simp [Cursor.advance, standing, isDigitOrSeparator]
    refine whole.bind fun whole between outcome => ?_
    have fraction : Runs text fractionDigits between fun _ here =>
        Moves 1 cursor here := by
      rcases outcome with passed | ⟨passed, point⟩
      · exact reads_fractionDigits.mono fun _ _ moved =>
          passed.further moved
      · exact (reads_fractionDigits_of_point point).mono fun _ _ moved =>
          passed.onTo moved
    refine fraction.bind fun fraction here passed => ?_
    refine (reads_exponentDigits (stands.opened.after passed)).bind
      fun exponent final moved => ?_
    exact runs_numberEnd stands _ (passed.further moved)

/-! ## Strings and templates -/

theorem reads_hexDigits {count start : Nat}
    (opened : cursor.OpenedAt text start) :
    Reads text 0 (hexDigits count start) cursor := by
  refine runs_get ((reads_skip _).bind fun _ here passed => ?_)
  exact runs_ite (fun _ => runs_failFrom nofun (opened.after passed))
    fun _ => runs_pure passed

theorem reads_codePoint {code start : Nat}
    (opened : cursor.OpenedAt text start) :
    Reads text 0 (codePoint code start) cursor :=
  runs_ite (fun _ => runs_pure (.refl cursor))
    fun _ => runs_failFrom nofun opened

theorem reads_bracedHexDigits {start : Nat}
    (opened : cursor.OpenedAt text start) :
    Reads text 0 (bracedHexDigits start) cursor := by
  refine (reads_takeRun isHexDigit).bind fun digits here passed => ?_
  have openedHere := opened.after passed
  refine runs_ite (fun _ => runs_failFrom nofun openedHere) fun _ => ?_
  refine (runs_eatCharacter '}').branch (fun next moved => ?_)
    (runs_failFrom nofun openedHere)
  have whole : Moves 0 cursor next := passed.further moved
  exact runs_ite (fun _ => runs_pure whole)
    fun _ => runs_failFrom nofun (opened.after whole)

/-- An escape is read after its backslash, which its errors start with. -/
theorem reads_escape (stands : cursor.StandsIn text)
    (opened : cursor.OpenedAt text (cursor.offset - 1)) :
    Reads text 0 escape cursor := by
  refine runs_get ?_
  dsimp only
  split
  · exact runs_fail nofun stands
  · refine (reads_skip 1).bind fun _ here passed => ?_
    exact runs_ite (fun _ => runs_pure passed) fun _ => runs_pure passed
  · refine (reads_skip 1).bind fun _ here passed => ?_
    exact (reads_eatCharacter '\n').discard.bind
      fun _ next moved => runs_pure (passed.further moved)
  · exact (reads_skip 1).bind fun _ here passed => runs_pure passed
  · refine (reads_skip 1).bind fun _ marked first => ?_
    refine (reads_hexDigits (opened.after first)).bind fun _ here second => ?_
    have passed := first.trans second
    exact (reads_codePoint (opened.after passed)).mono
      fun _ _ last => passed.further last
  · refine (reads_skip 1).bind fun _ marked first => ?_
    refine (runs_eatCharacter '\x7b').branch (fun braced second => ?_) ?_
    · have before := first.trans second
      refine (reads_bracedHexDigits (opened.after before)).bind
        fun _ here third => ?_
      have passed := before.trans third
      exact (reads_codePoint (opened.after passed)).mono
        fun _ _ last => passed.onTo last
    · refine (reads_hexDigits (opened.after first)).bind fun _ here second => ?_
      have passed := first.trans second
      exact (reads_codePoint (opened.after passed)).mono
        fun _ _ last => passed.further last
  · exact (reads_skip 1).bind fun _ here passed => runs_pure passed

/-- The backslash at the cursor, and the escape behind it. -/
theorem reads_backslash {others : List Char} (stands : cursor.StandsIn text)
    (standing : cursor.rest = '\\' :: others) :
    Reads text 1 (do skip 1; escape) cursor := by
  have moved := Cursor.moves_advance cursor (Nat.le_refl 1)
    (show 1 ≤ cursor.rest.length by simp [standing])
  have offset : (cursor.advance 1).offset - 1 = cursor.offset := by
    simp [Cursor.advance, standing, byteLength, Char.utf8Size]
  have opened : (cursor.advance 1).OpenedAt text
      ((cursor.advance 1).offset - 1) := by
    rw [offset]
    exact stands.opened.after moved
  exact (reads_escape (stands.after moved) opened).since moved

theorem runs_backslash {others : List Char} {after : Result → Cursor → Prop}
    {continued : List Char → Parser Result} (stands : cursor.StandsIn text)
    (standing : cursor.rest = '\\' :: others)
    (continues : ∀ escaped next, Moves 1 cursor next →
      Runs text (continued escaped) next after) :
    Runs text (do skip 1; continued (← escape)) cursor after := by
  have read : Runs text escape (cursor.advance 1) fun _ next =>
      Moves 1 cursor next := reads_backslash stands standing
  exact read.bind continues

theorem reads_stringLiteral (stands : cursor.StandsIn text) :
    Reads text 1 stringLiteral cursor := by
  refine runs_skipTrivia (runs_get (runs_get ?_))
  have reached := cursor.moves_tokenStart
  have standsStart := stands.after reached
  split
  · next quote others standing =>
      refine runs_ite (fun _ => ?_) fun _ => runs_fail nofun standsStart
      refine (reads_skip_of_cons 0 standing).bind fun _ inside moved => ?_
      have opened := standsStart.opened.after moved
      refine (reads_repeating 0 (standsStart.after moved)
        fun reversed here standsHere passed => runs_get ?_).since
          (reached.trans moved)
      split
      · exact runs_failFrom nofun (opened.after passed)
      · exact runs_failFrom nofun (opened.after passed)
      · exact runs_failFrom nofun (opened.after passed)
      · next ahead =>
          exact runs_backslash standsHere ahead fun _ _ read =>
            runs_pure ⟨read.reaches, read.length_le⟩
      · next character rest _ _ _ ahead =>
          refine (reads_skip_of_cons 0 ahead).bind fun _ next read => ?_
          exact runs_ite (fun _ => runs_pure read.reaches)
            fun _ => runs_pure ⟨read.reaches, read.length_le⟩
  · exact runs_fail nofun standsStart

theorem reads_templateText {start : Nat} (stands : cursor.StandsIn text)
    (opened : cursor.OpenedAt text start) :
    Reads text 0 (templateText start) cursor := by
  refine reads_repeating 0 stands fun reversed here standsHere passed =>
    runs_get ?_
  split
  · exact runs_failFrom nofun (opened.after passed)
  · exact (reads_skip 1).bind fun _ _ read => runs_pure read
  · next ahead =>
      exact runs_backslash standsHere ahead fun _ _ read =>
        runs_pure ⟨read.reaches, read.length_le⟩
  · exact (reads_skip 2).bind fun _ _ read => runs_pure read
  · next ahead =>
      exact (reads_skip_of_cons 1 ahead).bind fun _ _ read =>
        runs_pure ⟨read.reaches, read.length_le⟩
  · next ahead =>
      exact (reads_skip_of_cons 0 ahead).bind fun _ _ read =>
        runs_pure ⟨read.reaches, read.length_le⟩

/-! ## Skipping -/

/-- Skips a quoted text or a comment. -/
theorem runs_skipQuoted (stands : cursor.StandsIn text) :
    Runs text skipQuoted cursor (Taken cursor) := by
  have comment : ∀ {mark others}, cursor.rest = '/' :: mark :: others →
      1 ≤ triviaLength .between ('/' :: mark :: others) →
        Moves 1 cursor cursor.tokenStart := by
    intro mark others standing counted
    refine Cursor.moves_advance cursor ?_ (by simp [standing])
    rw [Cursor.triviaCount, standing]
    exact counted
  refine runs_get ?_
  split
  · next others standing =>
      have counted : 1 ≤ triviaLength .lineComment others + 2 := by omega
      exact runs_skipTrivia (runs_pure (comment standing counted))
  · next others standing =>
      have counted : 1 ≤ triviaLength .blockComment others + 2 := by omega
      exact runs_skipTrivia (runs_pure (comment standing counted))
  · next quote rest _ _ standing =>
      refine runs_ite (fun _ => ?_) fun _ => runs_pure rfl
      split
      · exact (reads_skip_of_cons _ standing).bind fun _ _ read => runs_pure read
      · exact runs_failAt nofun (stands.fitsIn cursor.moves_end)
  · exact runs_pure rfl

theorem reads_skipBalanced {opening closing : Char}
    (stands : cursor.StandsIn text) :
    Reads text 1 (skipBalanced opening closing) cursor := by
  refine runs_skipTrivia (runs_get ?_)
  have reached := cursor.moves_tokenStart
  have standsStart := stands.after reached
  refine (runs_eatCharacter opening).branch (fun inside moved => ?_)
    (runs_fail nofun standsStart)
  have opened := standsStart.opened.after moved
  refine (reads_repeating 0 (standsStart.after moved)
    fun depth here standsHere passed => ?_).since (reached.trans moved)
  refine runs_ite (fun _ => runs_pure (.refl here)) fun _ => ?_
  refine (runs_skipQuoted standsHere).branch
    (fun _ read => runs_pure ⟨read.reaches, read.length_le⟩) (runs_get ?_)
  split
  · exact runs_failFrom nofun (opened.after passed)
  · next character rest ahead =>
      refine runs_ite (fun _ => ?_) fun _ => ?_
      · exact (reads_skip_of_cons 1 ahead).bind fun _ _ read =>
          runs_pure ⟨read.reaches, read.length_le⟩
      · refine (reads_skip_of_cons 0 ahead).bind fun _ next read => ?_
        have proceeds : Moves 0 here next ∧
            next.rest.length < here.rest.length :=
          ⟨read.reaches, read.length_le⟩
        exact runs_ite (fun _ => runs_pure proceeds) fun _ =>
          runs_ite (fun _ => runs_pure proceeds) fun _ => runs_pure proceeds

theorem reads_skipType {ending : TypeEnd} (stands : cursor.StandsIn text) :
    Reads text 0 (skipType ending) cursor := by
  -- The first round starts in front of the first token of the type, which is
  -- where its errors start.
  refine runs_tokenOffset (runs_repeating
    (fun _ here => Moves 0 cursor here ∧
      Moves 0 cursor.tokenStart here.tokenStart)
    ⟨.refl cursor, .refl _⟩ fun state here invariant => ?_)
  obtain ⟨depth, complete⟩ := state
  obtain ⟨passed, passedToken⟩ := invariant
  refine runs_get (runs_ite (fun _ => runs_pure passed) fun _ => ?_)
  refine runs_skipTrivia ?_
  have reached := here.moves_tokenStart
  have standsToken := stands.after (passed.trans reached)
  have opened : here.tokenStart.OpenedAt text cursor.tokenStart.offset :=
    (stands.after cursor.moves_tokenStart).opened.after passedToken
  let after : Round (Nat × Bool) Unit → Cursor → Prop :=
    Round.Proceeds (fun _ here => Moves 0 cursor here ∧
      Moves 0 cursor.tokenStart here.tokenStart)
      (fun _ next => Moves 0 cursor next) here
  have again : ∀ state next, Moves 1 here.tokenStart next →
      after (.again state) next := by
    intro state next read
    have whole := (passed.trans reached).trans read
    have length := (reached.trans read).length_le
    refine ⟨⟨whole.reaches, ?_⟩, by omega⟩
    exact (passedToken.trans read).onTo next.moves_tokenStart
  have ended : Runs text (pure (.finished ())) here.tokenStart after :=
    runs_pure (passed.further reached)
  refine (runs_skipQuoted standsToken).branch
    (fun next read => runs_pure (again _ next read)) (runs_get ?_)
  split
  · exact runs_ite (fun _ => ended) fun _ => runs_failFrom nofun opened
  · next ahead =>
      exact (reads_skip_of_cons 1 ahead).bind fun _ next read =>
        runs_pure (again _ next read)
  · next character rest _ ahead =>
      have skipped : ∀ state, Runs text (do skip 1; return .again state)
          here.tokenStart after := by
        intro state
        exact (reads_skip_of_cons 0 ahead).bind fun _ next read =>
          runs_pure (again state next read)
      refine runs_ite (fun _ => skipped _) fun _ => ?_
      refine runs_ite (fun _ => runs_ite (fun _ => ended) fun _ => skipped _)
        fun _ => ?_
      refine runs_ite (fun _ => runs_ite (fun _ => ended) fun _ => skipped _)
        fun _ => ?_
      exact runs_ite (fun _ => ended) fun _ => skipped _

theorem reads_skipRegularExpression {others : List Char}
    (stands : cursor.StandsIn text) (standing : cursor.rest = '/' :: others) :
    Reads text 1 skipRegularExpression cursor := by
  refine runs_get ?_
  refine (reads_skip_of_cons 0 standing).bind fun _ inside moved => runs_get ?_
  cases regularExpressionLength false inside.rest with
  | mk length closed =>
      refine (reads_skip length).bind fun _ here passed => ?_
      have whole := moved.trans passed
      refine runs_ite (fun _ => ?_)
        fun _ => runs_failFrom nofun (stands.opened.after whole)
      exact ((reads_takeRun Char.isAlpha).discard).since whole

theorem reads_skipHeadToken (stands : cursor.StandsIn text) :
    Reads text 1 skipHeadToken cursor := by
  refine runs_get (runs_ite (fun _ => reads_skipBalanced stands) fun _ => ?_)
  dsimp only
  split
  · next found =>
      obtain ⟨front, nonempty⟩ := wordAtFront?_isPrefix found
      exact Cursor.moves_token front nonempty
  · next found =>
      exact Cursor.moves_token (Punctuator.atFront?_isPrefix found)
        (Punctuator.characters_ne_nil _)
  · exact runs_fail nofun stands

theorem reads_skipToBody (stands : cursor.StandsIn text) :
    Reads text 1 skipToBody cursor := by
  refine Runs.bind (reads_repeating 0 stands fun _ here standsHere passed => ?_)
    fun _ body passed =>
      (reads_skipBalanced (stands.after passed)).behind passed
  refine runs_get (runs_ite (fun _ => runs_pure (.refl here)) fun _ => ?_)
  refine runs_ite (fun _ => runs_fail nofun standsHere) fun _ => ?_
  exact (reads_skipHeadToken standsHere).bind fun _ _ read =>
    runs_pure ⟨read.reaches, read.length_le⟩

theorem reads_skipTypeParameters (stands : cursor.StandsIn text) :
    Reads text 0 skipTypeParameters cursor := by
  refine runs_get (runs_ite (fun _ => ?_) fun _ => runs_pure (.refl cursor))
  exact (reads_skipBalanced stands).mono fun _ _ moved => moved.reaches

/-- Skips an interface or a type alias. -/
theorem reads_skipTypeDeclaration (stands : cursor.StandsIn text) :
    Reads text 1 skipTypeDeclaration cursor := by
  refine (runs_eatWord "interface").branch (fun announced moved => ?_) ?_
  · refine (reads_identifier (stands.after moved)).discard.bind
      fun _ named second => ?_
    have before := moved.trans second
    refine (reads_skipTypeParameters (stands.after before)).bind
      fun _ headed third => ?_
    have whole := before.trans third
    exact (reads_skipToBody (stands.after whole)).behind whole
  · refine (reads_expectWord "type" stands).bind fun _ announced moved => ?_
    refine (reads_identifier (stands.after moved)).discard.bind
      fun _ named second => ?_
    have before := moved.trans second
    refine (reads_skipTypeParameters (stands.after before)).bind
      fun _ headed third => ?_
    have headedMoves := before.trans third
    refine (reads_expect .assign (stands.after headedMoves)).bind
      fun _ assigned fourth => ?_
    have assignedMoves := headedMoves.trans fourth
    refine (reads_skipType (stands.after assignedMoves)).bind
      fun _ typed fifth => ?_
    have whole := assignedMoves.trans fifth
    exact (reads_semicolon (stands.after whole)).sinceAny whole (by omega)

theorem reads_skipClass (stands : cursor.StandsIn text) :
    Reads text 1 skipClass cursor :=
  (reads_expectWord "class" stands).bind fun _ _ moved =>
    (reads_skipToBody (stands.after moved)).since moved

/-- Skips what follows `export` when names are exported. -/
theorem reads_skipExportClause (stands : cursor.StandsIn text) :
    Reads text 1 skipExportClause cursor := by
  refine (runs_eat .times).branch (fun starred moved => ?_)
    (reads_skipBalanced stands)
  refine (runs_eatWord "as").branch (fun named second => ?_) (runs_pure moved)
  have before := moved.trans second
  exact ((reads_word (stands.after before)).discard).behind before

end Parser

end VelocityScript.Script
