import VelocityScript.Proofs.Script.ShiftedFunctions
import VelocityScript.Script.Grammar.Expression

/-!
# Expressions at shifted cursors
-/

namespace VelocityScript.Script

open Cursor (Aligned)
open VelocityScript.Script.Parser

namespace Grammar

variable {distance : Nat} {nested twin : Nested} {cursor shifted : Cursor}

/-! ## Operands -/

theorem repeats_templateParts (echoes : nested.Echoes distance twin) :
    Repeats distance
      (fun found => (found.1,
        found.2.map (TemplatePart.relocate (Span.shift distance))))
      (templateParts nested) (templateParts twin) cursor
      (cursor.shift distance) := by
  refine echoes_get ((decides_eatCharacter '\x60').branch (fun inside => ?_)
    (echoes_fail (cursor.aligned_shift distance) _))
  refine (repeats_templateText cursor.offset).follow fun headed here => ?_
  obtain ⟨head, stop⟩ := headed
  refine Echoes.follow (repeats_repeating
    (fun state : List TemplatePart × TemplateStop =>
      (state.1.map (TemplatePart.relocate (Span.shift distance)), state.2))
    (List.map (TemplatePart.relocate (Span.shift distance)))
    fun state between => ?_) fun _ _ => repeats_pure rfl
  obtain ⟨parts, stop⟩ := state
  cases stop with
  | closed => exact repeats_pure rfl
  | interpolation =>
      refine (repeats_expression echoes (between.aligned_shift distance)).follow
        fun interpolated read => ?_
      refine (repeats_expect (read.aligned_shift distance) .closeBrace).follow
        fun _ closed => ?_
      refine (repeats_templateText cursor.offset).follow
        fun following next => repeats_pure ?_
      rw [Round.map, List.map_append]
      rfl

theorem repeats_spreadable (echoes : nested.Echoes distance twin)
    (aligned : Aligned distance cursor shifted) :
    RepeatsExpression distance (spreadable nested) (spreadable twin) cursor
      shifted := by
  refine echoes_tokenOffset aligned ?_
  refine (decides_eat aligned .ellipsis).branch (fun next => ?_)
    (echoes.assignment _ _ aligned)
  exact (repeats_assigned echoes).passing.follow
    fun _ _ => repeats_otherExpression _ _

theorem repeats_arguments (echoes : nested.Echoes distance twin)
    (aligned : Aligned distance cursor shifted) :
    Repeats distance (List.map (Expression.relocate (Span.shift distance)))
      (arguments nested) (arguments twin) cursor shifted :=
  (repeats_expect aligned .openParen).follow fun _ _ =>
    repeats_commaSeparated fun here =>
      repeats_spreadable echoes (here.aligned_shift distance)

theorem repeats_arrayElements (echoes : nested.Echoes distance twin)
    (aligned : Aligned distance cursor shifted) :
    Repeats distance (List.map (Expression.relocate (Span.shift distance)))
      (arrayElements nested) (arrayElements twin) cursor shifted :=
  (repeats_expect aligned .openBracket).follow fun _ _ =>
    repeats_commaSeparatedOrHoles
      (fun start _ => repeats_otherExpression .omitted start)
      fun here => repeats_spreadable echoes (here.aligned_shift distance)

/-! ## Members of objects -/

theorem repeats_otherMember (kind : OtherMember) (start : Nat) :
    Repeats distance (ObjectMember.relocate (Span.shift distance))
      (otherMember kind start) (otherMember kind (start + distance)) cursor
      (cursor.shift distance) :=
  echoes_spanFrom (repeats_pure rfl)

theorem repeats_methodMember (echoes : nested.Echoes distance twin)
    (kind : OtherMember) (start : Nat) :
    Repeats distance (ObjectMember.relocate (Span.shift distance))
      (methodMember nested kind start) (methodMember twin kind (start + distance))
      cursor (cursor.shift distance) := by
  refine (repeats_propertyName echoes
    (cursor.aligned_shift distance)).passing.follow fun _ named => ?_
  exact (repeats_skipMethod echoes).follow fun _ _ => repeats_otherMember _ _

theorem repeats_namedMember (echoes : nested.Echoes distance twin)
    (aligned : Aligned distance cursor shifted) (start : Nat) :
    Repeats distance (ObjectMember.relocate (Span.shift distance))
      (namedMember nested start) (namedMember twin (start + distance)) cursor
      shifted := by
  refine (repeats_propertyName echoes aligned).follow fun name here => ?_
  have alignedHere := here.aligned_shift distance
  refine (decides_eat alignedHere .colon).branch (fun next => ?_)
    (echoes_get ?_)
  · exact (repeats_assigned echoes).follow fun _ _ =>
      echoes_spanFrom (repeats_pure rfl)
  rw [alignedHere.sees, alignedHere.sees]
  refine echoes_ite (fun _ => ?_) fun _ => ?_
  · exact (repeats_skipMethod echoes).follow fun _ _ => repeats_otherMember _ _
  cases name with
  | identifier name =>
      refine (decides_eat alignedHere .assign).branch (fun next => ?_)
        (repeats_pure rfl)
      exact (repeats_assigned echoes).passing.follow
        fun _ _ => repeats_otherMember _ _
  | _ => exact echoes_failAt _ _

theorem memberModifier_shift (aligned : Aligned distance cursor shifted) :
    memberModifier? shifted = memberModifier? cursor := by
  simp only [memberModifier?, aligned.punctuatorAfterWord?, aligned.seesWord]

theorem repeats_objectMember (echoes : nested.Echoes distance twin)
    (aligned : Aligned distance cursor shifted) :
    Repeats distance (ObjectMember.relocate (Span.shift distance))
      (objectMember nested) (objectMember twin) cursor shifted := by
  refine echoes_tokenOffset aligned ?_
  refine (decides_eat aligned .ellipsis).branch (fun next => ?_) (echoes_get ?_)
  · exact (repeats_assigned echoes).passing.follow
      fun _ _ => repeats_otherMember _ _
  rw [memberModifier_shift aligned]
  cases memberModifier? cursor with
  | some kind =>
      refine (repeats_word aligned).passing.follow fun _ announced => ?_
      exact (repeats_eat .times).passing.follow
        fun _ starred => repeats_methodMember echoes kind _
  | none =>
      exact (decides_eat aligned .times).branch
        (fun _ => repeats_methodMember echoes _ _) (repeats_namedMember echoes aligned _)

theorem repeats_objectMembers (echoes : nested.Echoes distance twin)
    (aligned : Aligned distance cursor shifted) :
    Repeats distance (List.map (ObjectMember.relocate (Span.shift distance)))
      (objectMembers nested) (objectMembers twin) cursor shifted :=
  (repeats_expect aligned .openBrace).follow fun _ _ =>
    repeats_commaSeparated fun here =>
      repeats_objectMember echoes (here.aligned_shift distance)

/-! ## Primary expressions -/

theorem repeats_wordExpression (echoes : nested.Echoes distance twin)
    (word : String) (start : Nat) :
    RepeatsExpression distance (wordExpression nested word start)
      (wordExpression twin word (start + distance)) cursor
      (cursor.shift distance) := by
  have aligned := cursor.aligned_shift distance
  have other : ∀ (kind : OtherExpression) (count : Nat),
      RepeatsExpression distance (do skip count; otherExpression kind start)
        (do skip count; otherExpression kind (start + distance)) cursor
        (cursor.shift distance) :=
    fun _ _ => echoes_skip _ (repeats_otherExpression _ _)
  unfold wordExpression
  refine echoes_ite (fun _ => echoes_skip _ (echoes_spanFrom (repeats_pure rfl)))
    fun _ => ?_
  refine echoes_ite (fun _ => echoes_skip _ (echoes_spanFrom (repeats_pure rfl)))
    fun _ => ?_
  refine echoes_ite (fun _ => echoes_skip _ (echoes_spanFrom (repeats_pure rfl)))
    fun _ => ?_
  refine echoes_ite (fun _ => other _ _) fun _ => ?_
  refine echoes_ite (fun _ => other _ _) fun _ => ?_
  refine echoes_ite (fun _ => ?_) fun _ => echoes_ite (fun _ => ?_) fun _ => ?_
  · exact (repeats_function echoes aligned [] start).passing.follow
      fun _ _ => repeats_otherExpression _ _
  · exact (repeats_skipClass aligned).follow
      fun _ _ => repeats_otherExpression _ _
  · exact (repeats_identifier aligned).follow fun _ _ => repeats_pure rfl

theorem repeats_primary (echoes : nested.Echoes distance twin)
    (aligned : Aligned distance cursor shifted) :
    RepeatsExpression distance (primary nested) (primary twin) cursor shifted := by
  refine echoes_skipTrivia aligned fun token _ => echoes_get ?_
  have alignedToken := token.aligned_shift distance
  dsimp only
  rw [token.rest_shift, alignedToken.word?]
  cases token.rest with
  | nil => exact echoes_fail alignedToken _
  | cons character others =>
  refine echoes_ite (fun _ => ?_) fun _ => ?_
  · refine repeats_number.follow fun read _ => ?_
    exact echoes_ite (fun _ => repeats_otherExpression _ _)
      fun _ => echoes_spanFrom (repeats_pure rfl)
  refine echoes_ite (fun _ => ?_) fun _ => ?_
  · exact (repeats_stringLiteral alignedToken).follow fun _ _ =>
      echoes_spanFrom (repeats_pure rfl)
  refine echoes_ite (fun _ => ?_) fun _ => ?_
  · refine (repeats_templateParts echoes).follow fun found _ =>
      echoes_spanFrom (repeats_pure ?_)
    rw [← relocateParts_eq_map]
    rfl
  refine echoes_ite (fun _ => ?_) fun _ => ?_
  · refine echoes_skip 1 ((repeats_expression echoes
      (Cursor.aligned_shift _ distance)).follow fun inner here => ?_)
    exact (repeats_expect (here.aligned_shift distance) .closeParen).follow
      fun _ _ => echoes_spanFrom (repeats_pure rfl)
  refine echoes_ite (fun _ => ?_) fun _ => ?_
  · refine (repeats_arrayElements echoes alignedToken).follow fun _ _ =>
      echoes_spanFrom (repeats_pure ?_)
    rw [← relocateExpressions_eq_map]
    rfl
  refine echoes_ite (fun _ => ?_) fun _ => ?_
  · refine (repeats_objectMembers echoes alignedToken).follow fun _ _ =>
      echoes_spanFrom (repeats_pure ?_)
    rw [← relocateMembers_eq_map]
    rfl
  refine echoes_ite (fun _ => ?_) fun _ => ?_
  · exact repeats_skipRegularExpression.follow
      fun _ _ => repeats_otherExpression _ _
  cases token.word? with
  | some word => exact repeats_wordExpression echoes word _
  | none => exact echoes_fail alignedToken _

/-! ## Access chains -/

theorem decides_eatMemberDot :
    Echoes distance (Decided distance cursor (cursor.shift distance)) eatMemberDot
      eatMemberDot cursor (cursor.shift distance) := by
  have aligned := cursor.aligned_shift distance
  refine (decides_eat aligned .dot).branch (fun _ => echoes_pure ⟨rfl, rfl⟩)
    (echoes_get ?_)
  dsimp only
  have alignedAfter := (cursor.tokenStart.advance 2).aligned_shift distance
  rw [aligned.sees, aligned.advance, alignedAfter.word?,
    alignedAfter.tokenCharacter?]
  refine echoes_ite (fun _ => ?_) fun _ => echoes_pure ⟨rfl, rfl, rfl⟩
  refine echoes_ite (fun _ => ?_) fun _ => echoes_pure ⟨rfl, rfl, rfl⟩
  exact echoes_set (echoes_pure ⟨rfl, rfl⟩)

theorem repeats_eatIndexOpening :
    Repeats distance id eatIndexOpening eatIndexOpening cursor
      (cursor.shift distance) := by
  have aligned := cursor.aligned_shift distance
  refine (decides_eat aligned .optionalDot).branch (fun _ => repeats_pure rfl)
    (echoes_get (repeats_pure ?_))
  exact aligned.sees .openBracket

theorem repeats_newObject (echoes : nested.Echoes distance twin) (start : Nat) :
    RepeatsExpression distance (newObject nested start)
      (newObject twin (start + distance)) cursor (cursor.shift distance) := by
  have aligned := cursor.aligned_shift distance
  refine (decides_eat aligned .dot).branch (fun next => ?_) ?_
  · exact (repeats_word (next.aligned_shift distance)).passing.follow
      fun _ _ => repeats_otherExpression _ _
  refine (repeats_primary echoes aligned).passing.follow fun _ based => ?_
  refine Echoes.follow (repeats_repeating id id fun _ here => ?_)
    fun _ named => echoes_get ?_
  · refine (decides_eat (here.aligned_shift distance) .dot).branch
      (fun next => ?_) (repeats_pure rfl)
    exact (repeats_word (next.aligned_shift distance)).passing.follow
      fun _ _ => repeats_pure rfl
  have alignedName := named.aligned_shift distance
  rw [alignedName.sees]
  refine echoes_ite (fun _ => ?_) fun _ => repeats_otherExpression _ _
  exact (repeats_arguments echoes alignedName).passing.follow
    fun _ _ => repeats_otherExpression _ _

theorem repeats_callStep (echoes : nested.Echoes distance twin) (start : Nat)
    (base : Expression) :
    Repeats distance
      (Round.map (Expression.relocate (Span.shift distance))
        (Expression.relocate (Span.shift distance)))
      (callStep nested start base)
      (callStep twin (start + distance) (base.relocate (Span.shift distance)))
      cursor (cursor.shift distance) := by
  refine (repeats_arguments echoes (cursor.aligned_shift distance)).follow
    fun _ _ => echoes_spanFrom (repeats_pure ?_)
  rw [← relocateExpressions_eq_map]
  rfl

theorem repeats_accessStep (echoes : nested.Echoes distance twin) (start : Nat)
    (base : Expression) :
    Repeats distance
      (Round.map (Expression.relocate (Span.shift distance))
        (Expression.relocate (Span.shift distance)))
      (accessStep nested start base)
      (accessStep twin (start + distance)
        (base.relocate (Span.shift distance))) cursor
      (cursor.shift distance) := by
  refine decides_eatMemberDot.branch (fun dotted => ?_) ?_
  · refine (repeats_eat .hash).follow fun isPrivate hashed => ?_
    exact (repeats_word (hashed.aligned_shift distance)).follow
      fun _ _ => echoes_spanFrom (repeats_pure rfl)
  refine repeats_eatIndexOpening.follow fun indexed here => ?_
  have aligned := here.aligned_shift distance
  refine echoes_ite (fun _ => echoes_get ?_) fun _ => echoes_get ?_
  · rw [aligned.sees]
    refine echoes_ite (fun _ => repeats_callStep echoes start base) fun _ => ?_
    refine (repeats_expect aligned .openBracket).follow fun _ inside => ?_
    refine (repeats_expression echoes (inside.aligned_shift distance)).follow
      fun subscript read => ?_
    exact (repeats_expect (read.aligned_shift distance) .closeBracket).follow
      fun _ _ => echoes_spanFrom (repeats_pure rfl)
  rw [aligned.sees, aligned.sees, aligned.newlineBefore, aligned.tokenCharacter?]
  refine echoes_ite (fun _ => repeats_callStep echoes start base) fun _ => ?_
  refine echoes_ite (fun _ => ?_) fun _ => echoes_ite (fun _ => ?_) fun _ =>
    repeats_pure rfl
  · exact (repeats_expect aligned .not).follow fun _ _ => repeats_pure rfl
  · exact echoes_skipTrivia aligned fun token _ =>
      (repeats_templateParts echoes).passing.follow
        fun _ _ => echoes_spanFrom (repeats_pure rfl)

theorem repeats_leftHandSide (echoes : nested.Echoes distance twin)
    (aligned : Aligned distance cursor shifted) :
    RepeatsExpression distance (leftHandSide nested) (leftHandSide twin) cursor
      shifted := by
  have chain : ∀ (base : Expression) (here : Cursor), RepeatsExpression distance
      (repeating base (accessStep nested cursor.tokenStart.offset))
      (repeating (base.relocate (Span.shift distance))
        (accessStep twin (cursor.tokenStart.offset + distance))) here
      (here.shift distance) :=
    fun _ _ => repeats_repeating _ _ fun found _ =>
      repeats_accessStep echoes _ found
  refine echoes_tokenOffset aligned ?_
  refine (decides_eatWord aligned "new").branch (fun next => ?_) ?_
  · exact (repeats_newObject echoes _).follow chain
  · exact (repeats_primary echoes aligned).follow chain

theorem repeats_postfixExpression (echoes : nested.Echoes distance twin)
    (aligned : Aligned distance cursor shifted) :
    RepeatsExpression distance (postfixExpression nested) (postfixExpression twin)
      cursor shifted := by
  refine echoes_tokenOffset aligned ?_
  refine (repeats_leftHandSide echoes aligned).follow
    fun operand here => echoes_get ?_
  have alignedHere := here.aligned_shift distance
  rw [alignedHere.newlineBefore, alignedHere.sees, alignedHere.sees]
  refine echoes_ite (fun _ => ?_) fun _ => repeats_pure rfl
  exact echoes_setToken alignedHere 2 fun _ => repeats_otherExpression _ _

/-! ## Operators -/

theorem unaryOperator_shift (aligned : Aligned distance cursor shifted) :
    unaryOperator? shifted = (unaryOperator? cursor).map fun found =>
      (found.1, found.2.shift distance) := by
  simp only [unaryOperator?, aligned.rest, aligned.seesWord, aligned.advance]
  cases Punctuator.atFront? cursor.tokenStart.rest with
  | some punctuator =>
      rw [Option.map_map]
      rfl
  | none =>
      dsimp only
      by_cases typed : cursor.seesWord "typeof" = true
      · rw [if_pos typed, if_pos typed]
        rfl
      rw [if_neg typed, if_neg typed]
      by_cases empty : cursor.seesWord "void" = true
      · rw [if_pos empty, if_pos empty]
        rfl
      rw [if_neg empty, if_neg empty]
      by_cases deleted : cursor.seesWord "delete" = true
      · rw [if_pos deleted, if_pos deleted]
        rfl
      · rw [if_neg deleted, if_neg deleted]
        rfl

theorem seesAwait_shift (aligned : Aligned distance cursor shifted) :
    seesAwait shifted = seesAwait cursor := by
  rw [seesAwait, seesAwait, aligned.seesWord, aligned.afterWord?]
  cases cursor.afterWord? with
  | none => rfl
  | some after =>
      have alignedAfter := after.aligned_shift distance
      dsimp only [Option.map_some]
      rw [alignedAfter.atEnd, alignedAfter.punctuator?]

theorem repeats_unary (echoes : nested.Echoes distance twin)
    (aligned : Aligned distance cursor shifted) :
    RepeatsExpression distance (unary nested) (unary twin) cursor shifted := by
  have prefixed : ∀ (kind : OtherExpression) (start : Nat) (here : Cursor),
      RepeatsExpression distance
        (do discard nested.unary; otherExpression kind start)
        (do discard twin.unary; otherExpression kind (start + distance)) here
        (here.shift distance) :=
    fun _ _ here => (echoes.unary _ _ (here.aligned_shift distance)).passing.follow
      fun _ _ => repeats_otherExpression _ _
  refine echoes_get ?_
  dsimp only
  rw [aligned.offset, unaryOperator_shift aligned, seesAwait_shift aligned,
    aligned.sees]
  cases unaryOperator? cursor with
  | some found =>
      refine echoes_set ((echoes.unary _ _
        (found.2.aligned_shift distance)).follow fun _ _ => ?_)
      exact echoes_spanFrom (repeats_pure rfl)
  | none =>
      refine echoes_ite (fun _ => ?_) fun _ => echoes_ite (fun _ => ?_) fun _ =>
        repeats_postfixExpression echoes aligned
      · exact (repeats_word aligned).passing.follow
          fun _ here => prefixed _ _ here
      · exact (repeats_skipBalanced aligned).follow
          fun _ here => prefixed _ _ here

theorem repeats_binaryStep (echoes : nested.Echoes distance twin)
    (least start : Nat) (left : Expression) :
    Repeats distance
      (Round.map (Expression.relocate (Span.shift distance))
        (Expression.relocate (Span.shift distance)))
      (binaryStep nested least start left)
      (binaryStep twin least (start + distance)
        (left.relocate (Span.shift distance))) cursor
      (cursor.shift distance) := by
  have aligned := cursor.aligned_shift distance
  refine echoes_get ?_
  dsimp only
  rw [aligned.newlineBefore, aligned.seesWord, aligned.seesWord,
    aligned.binaryOperator?]
  refine echoes_ite (fun _ => ?_) fun _ => ?_
  · refine (repeats_word aligned).passing.follow fun _ announced => ?_
    exact (repeats_skipType .token).follow fun _ _ =>
      echoes_spanFrom (repeats_pure rfl)
  cases cursor.binaryOperator? with
  | none => exact repeats_pure rfl
  | some found =>
      obtain ⟨operator, after⟩ := found
      refine echoes_ite (fun _ => echoes_set ?_) fun _ => repeats_pure rfl
      exact (echoes.binary _ _ _ (after.aligned_shift distance)).follow
        fun _ _ => echoes_spanFrom (repeats_pure rfl)

theorem repeats_binary (echoes : nested.Echoes distance twin)
    (aligned : Aligned distance cursor shifted) (least : Nat) :
    RepeatsExpression distance (binary nested least) (binary twin least) cursor
      shifted := by
  refine echoes_tokenOffset aligned ?_
  refine (repeats_unary echoes aligned).follow fun left here => ?_
  exact repeats_repeating _ _ fun found _ => repeats_binaryStep echoes _ _ found

theorem repeats_conditional (echoes : nested.Echoes distance twin)
    (aligned : Aligned distance cursor shifted) :
    RepeatsExpression distance (conditional nested) (conditional twin) cursor
      shifted := by
  refine echoes_tokenOffset aligned ?_
  refine (repeats_binary echoes aligned 1).follow fun condition here => ?_
  refine (decides_eat (here.aligned_shift distance) .question).branch
    (fun asked => ?_) (repeats_pure rfl)
  refine (repeats_assigned echoes).passing.follow fun _ chosen => ?_
  refine (repeats_expect (chosen.aligned_shift distance) .colon).follow
    fun _ other => ?_
  exact (repeats_assigned echoes).passing.follow
    fun _ _ => repeats_otherExpression _ _

/-! ## Arrow functions and assignments -/

theorem repeats_arrowEnd :
    Repeats distance id arrowEnd arrowEnd cursor (cursor.shift distance) :=
  repeats_optionalType fun next => repeats_expect (next.aligned_shift distance) .arrow

theorem repeats_arrowParameters (aligned : Aligned distance cursor shifted) :
    Repeats distance id arrowParameters arrowParameters cursor shifted := by
  refine echoes_get ?_
  dsimp only
  rw [aligned.seesIdentifier, aligned.punctuatorAfterWord?]
  refine echoes_ite (fun _ => ?_) fun _ => ?_
  · exact (repeats_identifier aligned).passing.follow fun _ _ => repeats_arrowEnd
  · exact (repeats_skipBalanced aligned).follow fun _ _ => repeats_arrowEnd

theorem repeats_arrowHead (aligned : Aligned distance cursor shifted) :
    Repeats distance id arrowHead arrowHead cursor shifted := by
  refine echoes_get ?_
  dsimp only
  rw [aligned.seesWord, aligned.secondWord?, aligned.punctuatorAfterWord?]
  refine echoes_ite (fun _ => ?_) fun _ => repeats_arrowParameters aligned
  exact (repeats_word aligned).passing.follow
    fun _ next => repeats_arrowParameters (next.aligned_shift distance)

/-- Whether an arrow function comes next is decided without the bounds of nested
constructs. -/
theorem decides_arrowHead (aligned : Aligned distance cursor shifted) :
    Echoes distance (fun result next found final => found = result ∧
        match result with
        | none => next = cursor ∧ final = shifted
        | some () => final = next.shift distance)
      (attempt arrowHead) (attempt arrowHead) cursor shifted := by
  have repeats := repeats_arrowHead aligned
  have bounded := reads_arrowHead cursor.standsIn_padding
  unfold Repeats Echoes at repeats
  unfold Echoes
  unfold Reads Runs at bounded
  unfold attempt
  cases ran : arrowHead cursor with
  | error error =>
      rw [ran] at repeats bounded
      have failed := repeats.resolve_left bounded.bounded
      rw [failed]
      exact ⟨none, shifted, rfl, rfl, rfl, rfl⟩
  | ok outcome =>
      rw [ran] at repeats
      obtain ⟨found, final, ranTwin, settled⟩ := repeats
      rw [ranTwin]
      exact ⟨some (), final, rfl, rfl, settled.2⟩

theorem decides_arrowFunction (echoes : nested.Echoes distance twin)
    (aligned : Aligned distance cursor shifted) :
    Echoes distance (Decided distance cursor shifted) (arrowFunction nested)
      (arrowFunction twin) cursor shifted := by
  refine (decides_arrowHead aligned).bind fun found here same there outcome => ?_
  obtain ⟨rfl, moved⟩ := outcome
  cases same with
  | none => exact echoes_pure ⟨rfl, moved⟩
  | some nothing =>
      have further : there = here.shift distance := moved
      have alignedHere := here.aligned_shift distance
      rw [further]
      refine echoes_get ?_
      dsimp only
      rw [alignedHere.sees]
      refine echoes_ite (fun _ => ?_) fun _ => ?_
      · exact (repeats_block echoes alignedHere).passing.follow
          fun _ _ => echoes_pure ⟨rfl, rfl⟩
      · exact (repeats_assigned echoes).passing.follow
          fun _ _ => echoes_pure ⟨rfl, rfl⟩

theorem repeats_assignment (echoes : nested.Echoes distance twin)
    (aligned : Aligned distance cursor shifted) :
    RepeatsExpression distance (assignment nested) (assignment twin) cursor
      shifted := by
  refine echoes_tokenOffset aligned ?_
  refine (decides_arrowFunction echoes aligned).branch
    (fun _ => repeats_otherExpression _ _) ?_
  refine (repeats_conditional echoes aligned).follow
    fun place here => echoes_get ?_
  have alignedHere := here.aligned_shift distance
  rw [alignedHere.punctuator?]
  cases here.punctuator? with
  | none => exact repeats_pure rfl
  | some punctuator =>
      dsimp only
      cases punctuator.assignment? with
      | none => exact repeats_pure rfl
      | some operator =>
          refine echoes_setToken alignedHere _ fun next => ?_
          exact (repeats_assigned echoes).follow fun _ _ =>
            echoes_spanFrom (repeats_pure rfl)

end Grammar

end VelocityScript.Script
