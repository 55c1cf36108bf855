import VelocityScript.Proofs.Script.SafeFunctions
import VelocityScript.Script.Grammar.Expression

/-!
# Expressions are read safely
-/

namespace VelocityScript.Script

open Cursor (Moves)
open VelocityScript.Script.Parser

namespace Grammar

variable {text : List Char} {budget : Nat} {nested : Nested} {cursor : Cursor}

/-! ## Operands -/

/-- The parts of a template literal.  Every interpolation reads an
expression. -/
theorem reads_templateParts (safe : nested.Safe text budget)
    (stands : cursor.StandsIn text) (short : cursor.rest.length ≤ budget) :
    Reads text 1 (templateParts nested) cursor := by
  refine runs_get ?_
  refine (runs_eatCharacter _).branch (fun inside opened => ?_)
    (runs_fail nofun stands)
  have openedAt := stands.opened.after opened
  refine (reads_templateText (stands.after opened) openedAt).bind
    fun head here headed => ?_
  obtain ⟨head, stop⟩ := head
  have entered := opened.trans headed
  refine Runs.bind (reads_repeating 0 (stands.after entered)
    fun state between standsBetween reached => ?_) fun parts next closed =>
      runs_pure (entered.further closed)
  obtain ⟨parts, stop⟩ := state
  cases stop with
  | closed => exact runs_pure (.refl between)
  | interpolation =>
      have shorter := (entered.trans reached).within short
      refine (reads_expression safe standsBetween (by omega)).bind
        fun interpolated read first => ?_
      refine (reads_expect .closeBrace (standsBetween.after first)).bind
        fun _ braced second => ?_
      have passed := first.trans second
      refine (reads_templateText (standsBetween.after passed)
        ((openedAt.after (headed.trans reached)).after passed)).bind
          fun following next third => runs_pure ?_
      have whole := passed.trans third
      exact ⟨whole.reaches, by have := whole.length_le; omega⟩

theorem reads_spreadable (safe : nested.Safe text budget)
    (stands : cursor.StandsIn text) (short : cursor.rest.length < budget) :
    Reads text 1 (spreadable nested) cursor := by
  refine runs_tokenOffset ?_
  refine (runs_eat .ellipsis).branch (fun next moved => ?_)
    (safe.assignment cursor stands short)
  have shorter := moved.length_le
  exact (safe.assignment next (stands.after moved) (by omega)).discard.bind
    fun _ _ read => (reads_otherExpression _ _).sinceAny (moved.trans read) (by omega)

theorem reads_arguments (safe : nested.Safe text budget)
    (stands : cursor.StandsIn text) (short : cursor.rest.length ≤ budget) :
    Reads text 1 (arguments nested) cursor := by
  refine (reads_expect .openParen stands).bind fun _ inside opened => ?_
  refine (reads_commaSeparated (stands.after opened)
    fun here standsHere reached => reads_spreadable safe standsHere ?_).since
      opened
  have shorter := (opened.trans reached).within short
  omega

theorem reads_arrayElements (safe : nested.Safe text budget)
    (stands : cursor.StandsIn text) (short : cursor.rest.length ≤ budget) :
    Reads text 1 (arrayElements nested) cursor := by
  refine (reads_expect .openBracket stands).bind fun _ inside opened => ?_
  refine (reads_commaSeparatedOrHoles (stands.after opened)
    (fun _ _ => reads_otherExpression _ _) fun here standsHere reached =>
      reads_spreadable safe standsHere ?_).since opened
  have shorter := (opened.trans reached).within short
  omega

theorem reads_otherMember (kind : OtherMember) (start : Nat) :
    Reads text 0 (otherMember kind start) cursor :=
  runs_spanFrom (runs_pure (.refl cursor))

/-- A method, from its name on. -/
theorem runs_method {start : Nat} {kind : OtherMember}
    (safe : nested.Safe text budget) (stands : cursor.StandsIn text)
    (short : cursor.rest.length ≤ budget) :
    Reads text 1 (do
      discard (propertyName nested)
      skipMethod nested
      otherMember kind start) cursor := by
  refine (reads_propertyName safe stands short).discard.bind
    fun _ named first => ?_
  have shorter := first.within short
  refine (reads_skipMethod safe (stands.after first) (by omega)).bind
    fun _ next second => ?_
  exact (reads_otherMember _ _).sinceAny (first.trans second) (by omega)

theorem reads_namedMember (safe : nested.Safe text budget)
    (stands : cursor.StandsIn text) (short : cursor.rest.length < budget)
    (start : Nat) : Reads text 1 (namedMember nested start) cursor := by
  refine (runs_propertyName safe stands (Nat.le_of_lt short)).bind
    fun name here read => ?_
  obtain ⟨named, fits⟩ := read
  have length := named.length_le
  have standsHere := stands.after named
  refine (runs_eat .colon).branch (fun next moved => ?_) ?_
  · have shorter := (named.trans moved).length_le
    refine (safe.assignment next (standsHere.after moved) (by omega)).bind
      fun value final passed => runs_spanFrom (runs_pure ?_)
    exact (named.trans moved).onTo passed
  refine runs_get (runs_ite (fun _ => ?_) fun _ => ?_)
  · exact (reads_skipMethod safe standsHere (by omega)).bind
      fun _ next second => (reads_otherMember _ _).sinceAny (named.trans second) (by omega)
  split
  · refine (runs_eat .assign).branch (fun next moved => ?_) (runs_pure named)
    have shorter := (named.trans moved).length_le
    exact (safe.assignment next (standsHere.after moved) (by omega)).discard.bind
      fun _ final passed => (reads_otherMember _ _).sinceAny
        ((named.trans moved).trans passed) (by omega)
  · exact runs_failAt nofun fits

theorem reads_objectMember (safe : nested.Safe text budget)
    (stands : cursor.StandsIn text) (short : cursor.rest.length < budget) :
    Reads text 1 (objectMember nested) cursor := by
  refine runs_tokenOffset ?_
  refine (runs_eat .ellipsis).branch (fun next moved => ?_) (runs_get ?_)
  · have shorter := moved.length_le
    exact (safe.assignment next (stands.after moved) (by omega)).discard.bind
      fun _ final passed => (reads_otherMember _ _).sinceAny (moved.trans passed) (by omega)
  split
  · refine (reads_word stands).discard.bind fun _ announced first => ?_
    refine (reads_eat .times).discard.bind fun _ starred second => ?_
    have before := first.trans second
    have shorter := before.length_le
    exact (runs_method safe (stands.after before) (by omega)).since before
  · refine (runs_eat .times).branch (fun starred moved => ?_)
      (reads_namedMember safe stands short _)
    have shorter := moved.length_le
    exact (runs_method safe (stands.after moved) (by omega)).since moved

theorem reads_objectMembers (safe : nested.Safe text budget)
    (stands : cursor.StandsIn text) (short : cursor.rest.length ≤ budget) :
    Reads text 1 (objectMembers nested) cursor := by
  refine (reads_expect .openBrace stands).bind fun _ inside opened => ?_
  refine (reads_commaSeparated (stands.after opened)
    fun here standsHere reached => reads_objectMember safe standsHere ?_).since
      opened
  have shorter := (opened.trans reached).within short
  omega

/-- A word as an expression, at a cursor that is not at the end. -/
theorem reads_wordExpression {first : Char} {others : List Char}
    (safe : nested.Safe text budget) (stands : cursor.StandsIn text)
    (short : cursor.rest.length ≤ budget)
    (standing : cursor.rest = first :: others) (word : String) (start : Nat) :
    Reads text 1 (wordExpression nested word start) cursor := by
  have literal : ∀ (build : Span → Expression) (count : Nat),
      Reads text 1 (do skip (count + 1); return build (← spanFrom start))
        cursor := by
    intro build count
    exact (reads_skip_of_cons count standing).bind fun _ _ moved =>
      runs_spanFrom (runs_pure moved)
  unfold wordExpression
  refine runs_ite (fun _ => literal _ 3) fun _ => ?_
  refine runs_ite (fun _ => literal _ 3) fun _ => ?_
  refine runs_ite (fun _ => literal _ 4) fun _ => ?_
  refine runs_ite (fun _ => literal _ 3) fun _ => ?_
  refine runs_ite (fun _ => literal _ 4) fun _ => ?_
  refine runs_ite (fun _ => ?_) fun _ => ?_
  · exact (reads_function safe stands short [] start).discard.bind
      fun _ _ moved => (reads_otherExpression _ _).since moved
  refine runs_ite (fun _ => ?_) fun _ => ?_
  · exact (reads_skipClass stands).bind
      fun _ _ moved => (reads_otherExpression _ _).since moved
  · exact (reads_identifier stands).bind fun _ _ moved => runs_pure moved

theorem startsNumber_cons {first : Char} {others : List Char}
    (starts : startsNumber (first :: others) = true) :
    first.isDigit = true ∨ first = '.' := by
  unfold startsNumber at starts
  split at starts
  · next same => exact Or.inr (List.cons.inj same).1
  · next same =>
      rw [(List.cons.inj same).1]
      exact Or.inl starts
  · next same => cases same

theorem reads_primary (safe : nested.Safe text budget)
    (stands : cursor.StandsIn text) (short : cursor.rest.length ≤ budget) :
    Reads text 1 (primary nested) cursor := by
  refine runs_skipTrivia (runs_get ?_)
  have reached := cursor.moves_tokenStart
  have standsStart := stands.after reached
  have shortStart : cursor.tokenStart.rest.length ≤ budget := reached.within short
  suffices read : Reads text 1 _ cursor.tokenStart from read.behind reached
  dsimp only
  split
  · exact runs_fail nofun standsStart
  next character others standing =>
  refine runs_ite (fun starts => ?_) fun _ => ?_
  · rw [standing] at starts
    refine (reads_number standsStart standing (startsNumber_cons starts)).bind
      fun token next read => ?_
    exact runs_ite (fun _ => (reads_otherExpression _ _).since read)
      fun _ => runs_spanFrom (runs_pure read)
  refine runs_ite (fun _ => ?_) fun _ => ?_
  · exact (reads_stringLiteral standsStart).bind fun _ _ read =>
      runs_spanFrom (runs_pure read)
  refine runs_ite (fun _ => ?_) fun _ => ?_
  · exact (reads_templateParts safe standsStart shortStart).bind
      fun _ _ read => runs_spanFrom (runs_pure read)
  refine runs_ite (fun _ => ?_) fun _ => ?_
  · refine (reads_skip_of_cons 0 standing).bind fun _ inside opened => ?_
    have shorter := opened.within shortStart
    refine (reads_expression safe (standsStart.after opened) shorter).bind
      fun inner here first => ?_
    have passed := opened.trans first
    exact (reads_expect .closeParen (standsStart.after passed)).bind
      fun _ _ closed => runs_spanFrom (runs_pure (passed.onTo closed))
  refine runs_ite (fun _ => ?_) fun _ => ?_
  · exact (reads_arrayElements safe standsStart shortStart).bind
      fun _ _ read => runs_spanFrom (runs_pure read)
  refine runs_ite (fun _ => ?_) fun _ => ?_
  · exact (reads_objectMembers safe standsStart shortStart).bind
      fun _ _ read => runs_spanFrom (runs_pure read)
  refine runs_ite (fun slash => ?_) fun _ => ?_
  · subst slash
    exact (reads_skipRegularExpression standsStart standing).bind
      fun _ _ read => (reads_otherExpression _ _).since read
  split
  · exact reads_wordExpression safe standsStart shortStart standing _ _
  · exact runs_fail nofun standsStart

/-! ## Access chains -/

theorem runs_eatOptionalDot :
    Runs text eatOptionalDot cursor (Taken cursor) := by
  refine runs_get (runs_ite (fun seen => ?_) fun _ => runs_pure rfl)
  refine runs_ite (fun _ => ?_) fun _ => runs_pure rfl
  have front := Punctuator.atFront?_isPrefix (eq_of_beq seen)
  exact Cursor.moves_token front (Punctuator.characters_ne_nil .optionalDot)

theorem runs_eatMemberDot : Runs text eatMemberDot cursor (Taken cursor) :=
  (runs_eat .dot).branch (fun _ moved => runs_pure moved) runs_eatOptionalDot

theorem reads_eatIndexOpening : Reads text 0 eatIndexOpening cursor :=
  (runs_eat .optionalDot).branch (fun _ moved => runs_pure moved.reaches)
    (runs_get (runs_pure (.refl cursor)))

theorem reads_newObject (safe : nested.Safe text budget)
    (stands : cursor.StandsIn text) (short : cursor.rest.length ≤ budget)
    (start : Nat) : Reads text 1 (newObject nested start) cursor := by
  refine (runs_eat .dot).branch (fun next moved => ?_) ?_
  · exact (reads_word (stands.after moved)).discard.bind fun _ _ read =>
      (reads_otherExpression _ _).sinceAny (moved.trans read) (by omega)
  refine (reads_primary safe stands short).discard.bind fun _ based first => ?_
  refine Runs.bind (reads_repeating 0 (stands.after first)
    fun _ here standsHere reached => ?_) fun _ named second => runs_get ?_
  · refine (runs_eat .dot).branch (fun next moved => ?_)
      (runs_pure (.refl here))
    refine (reads_word (standsHere.after moved)).discard.bind
      fun _ final read => runs_pure ?_
    have whole := moved.trans read
    exact ⟨whole.reaches, by have := whole.length_le; omega⟩
  have before := first.trans second
  have shorter := before.within short
  refine runs_when (fun _ => ?_) fun next third =>
    (reads_otherExpression _ _).since (before.trans third)
  exact (reads_arguments safe (stands.after before) (by omega)).discard.mono
    fun _ _ moved => moved.reaches

/-- A step of an access chain passes a character, or it is the last one. -/
theorem runs_accessStep (safe : nested.Safe text budget)
    (stands : cursor.StandsIn text) (short : cursor.rest.length ≤ budget)
    (start : Nat) (base : Expression) :
    Runs text (accessStep nested start base) cursor
      (Round.Passes 0 cursor) := by
  let after : Round Expression Expression → Cursor → Prop :=
    Round.Passes 0 cursor
  have again : ∀ (result : Expression) (next : Cursor), Moves 1 cursor next →
      after (.again result) next :=
    fun _ next moved => ⟨moved.reaches, moved.length_le⟩
  have called : ∀ here, Moves 0 cursor here → Runs text (do
      let arguments ← arguments nested
      return .again (Expression.call base arguments .unknown
        (← spanFrom start))) here after := by
    intro here reached
    have shorter := reached.within short
    exact (reads_arguments safe (stands.after reached) (by omega)).bind
      fun _ next read => runs_spanFrom
        (runs_pure (again _ next (reached.onTo read)))
  refine runs_eatMemberDot.branch (fun dotted moved => ?_) ?_
  · refine (reads_eat .hash).bind fun isPrivate hashed second => ?_
    have before := moved.trans second
    exact (reads_word (stands.after before)).bind fun _ next read =>
      runs_spanFrom (runs_pure (again _ next (before.further read)))
  refine reads_eatIndexOpening.bind fun indexed here reached => ?_
  have standsHere := stands.after reached
  have shorter := reached.within short
  refine runs_ite (fun _ => runs_get (runs_ite (fun _ => called here reached)
    fun _ => ?_)) fun _ => runs_get ?_
  · refine (reads_expect .openBracket standsHere).bind
      fun _ inside opened => ?_
    have length := opened.length_le
    refine (reads_expression safe (standsHere.after opened) (by omega)).bind
      fun subscript read second => ?_
    have before := opened.trans second
    exact (reads_expect .closeBracket (standsHere.after before)).bind
      fun _ next closed => runs_spanFrom (runs_pure
        (again _ next ((reached.trans (before.trans closed)).weaken (by omega))))
  refine runs_ite (fun _ => called here reached) fun _ => ?_
  refine runs_ite (fun _ => ?_) fun _ => ?_
  · exact (reads_expect .not standsHere).bind fun _ next read =>
      runs_pure (again _ next (reached.onTo read))
  refine runs_ite (fun _ => ?_) fun _ => runs_pure reached
  have token := reached.trans here.moves_tokenStart
  have tokenShort := token.within short
  refine runs_skipTrivia ((reads_templateParts safe (stands.after token)
    (by omega)).discard.bind fun _ next read => runs_spanFrom (runs_pure ?_))
  exact again _ next (token.onTo read)

theorem reads_leftHandSide (safe : nested.Safe text budget)
    (stands : cursor.StandsIn text) (short : cursor.rest.length ≤ budget) :
    Reads text 1 (leftHandSide nested) cursor := by
  have chain : ∀ (base : Expression) (here : Cursor), Moves 1 cursor here →
      Runs text
        (repeating base (accessStep nested cursor.tokenStart.offset)) here
        fun _ next => Moves 1 cursor next := by
    intro base here passed
    refine (reads_repeating 0 (stands.after passed)
      fun base between standsBetween reached => ?_).since passed
    have shorter := (passed.trans reached).within short
    exact runs_accessStep safe standsBetween (by omega) _ base
  refine runs_tokenOffset ?_
  refine (runs_eatWord "new").branch (fun next moved => ?_) ?_
  · have shorter := moved.within short
    exact (reads_newObject safe (stands.after moved) (by omega) _).bind
      fun base here read => chain base here (moved.further read)
  · exact (reads_primary safe stands short).bind chain

theorem reads_postfixExpression (safe : nested.Safe text budget)
    (stands : cursor.StandsIn text) (short : cursor.rest.length ≤ budget) :
    Reads text 1 (postfixExpression nested) cursor := by
  refine runs_tokenOffset ?_
  refine (reads_leftHandSide safe stands short).bind
    fun operand here moved => runs_get ?_
  refine runs_ite (fun _ => runs_set ?_) fun _ => runs_pure moved
  have token := moved.trans here.moves_tokenStart
  have passed : Moves 0 here.tokenStart (here.tokenStart.advance 2) :=
    Cursor.moves_advance _ (Nat.zero_le _) (Nat.zero_le _)
  exact (reads_otherExpression _ _).since (token.trans passed)

/-! ## Operators -/

theorem moves_unaryOperator {after : Cursor} {operator : UnaryOperator}
    (found : unaryOperator? cursor = some (operator, after)) :
    Moves 1 cursor after := by
  have word : ∀ word : String, cursor.seesWord word = true →
      Moves 1 cursor (cursor.tokenStart.advance word.length) := by
    intro word seen
    obtain ⟨characters, front, rfl⟩ :=
      Option.map_eq_some_iff.mp (eq_of_beq seen)
    obtain ⟨isPrefix, nonempty⟩ := wordAtFront?_isPrefix front
    rw [String.length_ofList]
    exact Cursor.moves_token isPrefix nonempty
  simp only [unaryOperator?] at found
  split at found
  · next punctuator front =>
      obtain ⟨unary, known, same⟩ := Option.map_eq_some_iff.mp found
      cases same
      exact Cursor.moves_token (Punctuator.atFront?_isPrefix front)
        punctuator.characters_ne_nil
  · split at found
    · next seen =>
        cases found
        exact word "typeof" seen
    split at found
    · next seen =>
        cases found
        exact word "void" seen
    split at found
    · next seen =>
        cases found
        exact word "delete" seen
    · cases found

theorem reads_unary (safe : nested.Safe text budget)
    (stands : cursor.StandsIn text) (short : cursor.rest.length ≤ budget) :
    Reads text 1 (unary nested) cursor := by
  refine runs_get ?_
  dsimp only
  split
  · next operator after found =>
      have moved := moves_unaryOperator found
      exact runs_set ((safe.unary after (stands.after moved)
        (moved.within short)).bind fun _ _ read =>
          runs_spanFrom (runs_pure (moved.further read)))
  have prefixed : ∀ (kind : OtherExpression) (here : Cursor),
      Moves 1 cursor here → Runs text (do
        discard nested.unary
        otherExpression kind cursor.tokenStart.offset) here
        fun _ next => Moves 1 cursor next := by
    intro kind here moved
    exact (safe.unary here (stands.after moved) (moved.within short)).discard.bind
      fun _ _ read => (reads_otherExpression _ _).sinceAny (moved.trans read) (by omega)
  refine runs_ite (fun _ => ?_) fun _ => runs_ite (fun _ => ?_) fun _ =>
    reads_postfixExpression safe stands short
  · exact (reads_word stands).discard.bind fun _ here => prefixed _ here
  · exact (reads_skipBalanced stands).bind fun _ here => prefixed _ here

/-- A step of a chain of operators passes a character, or it is the last
one. -/
theorem runs_binaryStep (safe : nested.Safe text budget)
    (stands : cursor.StandsIn text) (short : cursor.rest.length ≤ budget)
    (least start : Nat) (left : Expression) :
    Runs text (binaryStep nested least start left) cursor
      (Round.Passes 0 cursor) := by
  refine runs_get (runs_ite (fun _ => ?_) fun _ => ?_)
  · refine (reads_word stands).discard.bind fun _ announced first => ?_
    refine (reads_skipType (stands.after first)).bind fun _ next second =>
      runs_spanFrom (runs_pure ?_)
    have whole := first.trans second
    exact ⟨whole.reaches, whole.length_le⟩
  split
  · next operator after found =>
      have moved := Cursor.moves_binaryOperator found
      refine runs_ite (fun _ => runs_set ?_)
        fun _ => runs_pure (.refl cursor)
      refine (safe.binary _ after (stands.after moved)
        (moved.within short)).bind fun right next read =>
          runs_spanFrom (runs_pure ?_)
      have whole := moved.trans read
      exact ⟨whole.reaches, by have := whole.length_le; omega⟩
  · exact runs_pure (.refl cursor)

theorem reads_binary (safe : nested.Safe text budget)
    (stands : cursor.StandsIn text) (short : cursor.rest.length ≤ budget)
    (least : Nat) : Reads text 1 (binary nested least) cursor := by
  refine runs_tokenOffset ?_
  refine (reads_unary safe stands short).bind fun left here moved => ?_
  refine (reads_repeating 0 (stands.after moved)
    fun left between standsBetween reached => ?_).since moved
  have shorter := (moved.trans reached).within short
  exact runs_binaryStep safe standsBetween (by omega) least _ left

theorem reads_conditional (safe : nested.Safe text budget)
    (stands : cursor.StandsIn text) (short : cursor.rest.length ≤ budget) :
    Reads text 1 (conditional nested) cursor := by
  refine runs_tokenOffset ?_
  refine (reads_binary safe stands short 1).bind fun condition here first => ?_
  refine (runs_eat .question).branch (fun asked second => ?_) (runs_pure first)
  have before := first.trans second
  have shorter := before.within short
  refine (safe.assignment asked (stands.after before) (by omega)).discard.bind
    fun _ chosen third => ?_
  have chosenMoves := before.trans third
  refine (reads_expect .colon (stands.after chosenMoves)).bind
    fun _ other fourth => ?_
  have otherMoves := chosenMoves.trans fourth
  have shortest := otherMoves.within short
  exact (safe.assignment other (stands.after otherMoves)
    (by omega)).discard.bind fun _ _ last =>
      (reads_otherExpression _ _).sinceAny (otherMoves.trans last) (by omega)

/-! ## Arrow functions and assignments -/

/-- The head of an arrow function is read without nested constructs. -/
theorem reads_arrowHead (stands : cursor.StandsIn text) :
    Reads text 2 arrowHead cursor := by
  have ending : ∀ here, Moves 1 cursor here →
      Runs text (do
        if ← eat .colon then
          skipType .token
        expect .arrow) here fun _ next => Moves 2 cursor next := by
    intro here passed
    refine (runs_eat .colon).optional
      (fun next moved => reads_skipType ((stands.after passed).after moved))
      fun typed second => ?_
    have before := passed.trans second
    exact (reads_expect .arrow (stands.after before)).sinceAny before (by omega)
  refine runs_get ?_
  refine runs_when (fun _ => ?_) fun here reached => runs_get ?_
  · exact (reads_word stands).discard.mono fun _ _ moved => moved.reaches
  have standsHere := stands.after reached
  refine runs_ite (fun _ => ?_) fun _ => ?_
  · exact (reads_identifier standsHere).discard.bind fun _ next read =>
      ending next (reached.onTo read)
  · exact (reads_skipBalanced standsHere).bind fun _ next read =>
      ending next (reached.onTo read)

/-- The head of an arrow function is read as a whole or not at all. -/
theorem runs_attempt_arrowHead (stands : cursor.StandsIn text) :
    Runs text (attempt arrowHead) cursor fun found next =>
      match found with
      | none => next = cursor
      | some () => Moves 2 cursor next := by
  have read := reads_arrowHead stands
  unfold Reads Runs at read
  unfold Runs attempt
  cases ran : arrowHead cursor with
  | error error => rfl
  | ok outcome =>
      rw [ran] at read
      exact read

/-- An arrow function is read as a whole or not at all. -/
theorem runs_arrowFunction (safe : nested.Safe text budget)
    (stands : cursor.StandsIn text) (short : cursor.rest.length ≤ budget) :
    Runs text (arrowFunction nested) cursor (Taken cursor) := by
  refine (runs_attempt_arrowHead stands).bind fun found here outcome => ?_
  cases found with
  | none => exact runs_pure outcome
  | some nothing =>
      have moved : Moves 2 cursor here := outcome
      have shorter := moved.within short
      have read : ∀ next, Moves 1 here next → Taken cursor true next :=
        fun next passed => moved.onTo passed
      refine runs_get (runs_ite (fun _ => ?_) fun _ => ?_)
      · exact (reads_block safe (stands.after moved) (by omega)).discard.bind
          fun _ next passed => runs_pure (read next passed)
      · exact (safe.assignment here (stands.after moved)
          (by omega)).discard.bind fun _ next passed =>
            runs_pure (read next passed)

theorem reads_assignment (safe : nested.Safe text budget)
    (stands : cursor.StandsIn text) (short : cursor.rest.length ≤ budget) :
    Reads text 1 (assignment nested) cursor := by
  refine runs_tokenOffset ?_
  refine (runs_arrowFunction safe stands short).branch
    (fun _ moved => (reads_otherExpression _ _).since moved) ?_
  refine (reads_conditional safe stands short).bind
    fun place here first => runs_get ?_
  split
  · next punctuator front =>
      split
      · have second := Cursor.moves_token (Punctuator.atFront?_isPrefix front)
          punctuator.characters_ne_nil
        have before := first.trans second
        have shorter := before.within short
        exact runs_set ((safe.assignment _ (stands.after before)
          (by omega)).bind fun _ _ read =>
            runs_spanFrom (runs_pure (before.onTo read)))
      · exact runs_pure first
  · exact runs_pure first

end Grammar

end VelocityScript.Script
