import VelocityScript.Proofs.Script.Continuations
import VelocityScript.Proofs.Script.Shifting

/-!
# Literals and skipped texts at shifted cursors

What is read character by character is read after a token has been found, so
the two cursors differ in their offsets only.
-/

namespace VelocityScript.Script

open Cursor (Aligned)

@[simp]
theorem Cursor.rest_shift (distance : Nat) (cursor : Cursor) :
    (cursor.shift distance).rest = cursor.rest :=
  rfl

@[simp]
theorem Cursor.offset_shift (distance : Nat) (cursor : Cursor) :
    (cursor.shift distance).offset = cursor.offset + distance :=
  rfl

theorem Cursor.endOffset_shift (distance : Nat) (cursor : Cursor) :
    (cursor.shift distance).endOffset = cursor.endOffset + distance :=
  Nat.add_right_comm _ _ _

namespace Parser

variable {distance : Nat} {cursor shifted : Cursor}

/-! ## Characters -/

theorem repeats_takeRun (condition : Char → Bool) :
    Repeats distance id (takeRun condition) (takeRun condition) cursor
      (cursor.shift distance) := by
  refine echoes_get ?_
  dsimp only
  rw [cursor.rest_shift, cursor.advance_shift]
  exact echoes_set (repeats_pure rfl)

theorem decides_eatCharacter (character : Char) :
    Echoes distance (Decided distance cursor (cursor.shift distance))
      (eatCharacter character) (eatCharacter character) cursor
      (cursor.shift distance) := by
  refine echoes_get ?_
  rw [cursor.rest_shift]
  refine echoes_ite (fun _ => ?_) fun _ => echoes_pure ⟨rfl, rfl, rfl⟩
  exact echoes_skip 1 (echoes_pure ⟨rfl, rfl⟩)

theorem repeats_eatCharacter (character : Char) :
    Repeats distance id (eatCharacter character) (eatCharacter character) cursor
      (cursor.shift distance) :=
  (decides_eatCharacter character).mono fun _ _ _ _ decided => decided.settles

/-- Failing with a span that ends at the cursor. -/
theorem echoes_failFrom {Result : Type}
    {after : Result → Cursor → Result → Cursor → Prop} (problem : SyntaxProblem)
    (start : Nat) :
    Echoes distance after (do failAt problem (← spanFrom start))
      (do failAt problem (← spanFrom (start + distance))) cursor
      (cursor.shift distance) :=
  echoes_spanFrom (echoes_failAt problem _)

/-! ## Numbers -/

theorem repeats_fractionDigits :
    Repeats distance id fractionDigits fractionDigits cursor
      (cursor.shift distance) :=
  (decides_eatCharacter '.').branch
    (fun _ => (repeats_takeRun _).follow fun _ _ => repeats_pure rfl)
    (repeats_pure rfl)

theorem repeats_exponentDigits (start : Nat) :
    Repeats distance id (exponentDigits start) (exponentDigits (start + distance))
      cursor (cursor.shift distance) := by
  refine echoes_get ?_
  rw [cursor.rest_shift]
  cases cursor.rest with
  | nil => exact repeats_pure rfl
  | cons mark rest =>
      refine echoes_ite (fun _ => ?_) fun _ => repeats_pure rfl
      refine echoes_skip 1 (echoes_skip _ ?_)
      refine (repeats_takeRun _).follow fun digits next => ?_
      exact echoes_ite (fun _ => echoes_failFrom _ start) fun _ => repeats_pure rfl

theorem repeats_numberEnd (start : Nat) (digits : List Char) :
    Repeats distance id (numberEnd start digits)
      (numberEnd (start + distance) digits) cursor (cursor.shift distance) := by
  refine (decides_eatCharacter 'n').branch (fun _ => repeats_pure rfl)
    (echoes_get ?_)
  rw [cursor.rest_shift]
  cases cursor.rest with
  | nil => exact repeats_pure rfl
  | cons next others =>
      refine echoes_ite (fun _ => ?_) fun _ => repeats_pure rfl
      rw [cursor.offset_shift, Nat.add_right_comm]
      exact echoes_failAt _ ⟨_, _⟩

theorem repeats_number :
    Repeats distance id number number cursor (cursor.shift distance) := by
  refine echoes_get ?_
  dsimp only
  rw [cursor.rest_shift]
  refine echoes_ite (fun _ => ?_) fun _ => ?_
  · exact echoes_skip 2 ((repeats_takeRun _).follow fun _ _ =>
      repeats_numberEnd _ _)
  · refine (repeats_takeRun _).follow fun whole here => ?_
    refine repeats_fractionDigits.follow fun fraction between => ?_
    exact (repeats_exponentDigits cursor.offset).follow fun exponent next =>
      repeats_numberEnd _ _

/-! ## Strings -/

theorem repeats_hexDigits (count start : Nat) :
    Repeats distance id (hexDigits count start) (hexDigits count (start + distance))
      cursor (cursor.shift distance) := by
  refine echoes_get (echoes_skip _ ?_)
  exact echoes_ite (fun _ => echoes_failFrom _ start) fun _ => repeats_pure rfl

theorem repeats_codePoint (code start : Nat) :
    Repeats distance id (codePoint code start) (codePoint code (start + distance))
      cursor (cursor.shift distance) :=
  echoes_ite (fun _ => repeats_pure rfl) fun _ => echoes_failFrom _ start

theorem repeats_bracedHexDigits (start : Nat) :
    Repeats distance id (bracedHexDigits start)
      (bracedHexDigits (start + distance)) cursor (cursor.shift distance) := by
  refine (repeats_takeRun _).follow fun digits here => ?_
  refine echoes_ite (fun _ => echoes_failFrom _ start) fun _ => ?_
  refine (decides_eatCharacter '\x7d').branch (fun next => ?_)
    (echoes_failFrom _ start)
  exact echoes_ite (fun _ => repeats_pure rfl) fun _ => echoes_failFrom _ start

/-- An escape looks one byte back, at the backslash before it. -/
theorem repeats_escape (behind : 0 < cursor.offset) :
    Repeats distance id escape escape cursor (cursor.shift distance) := by
  have start : (cursor.shift distance).offset - 1 = cursor.offset - 1 + distance := by
    rw [cursor.offset_shift]
    omega
  refine echoes_get ?_
  dsimp only
  rw [start, cursor.rest_shift]
  split
  · exact echoes_fail (cursor.aligned_shift distance) _
  · exact echoes_skip 1 (echoes_ite (fun _ => repeats_pure rfl)
      fun _ => repeats_pure rfl)
  · exact echoes_skip 1 ((repeats_eatCharacter _).passing.follow
      fun _ _ => repeats_pure rfl)
  · exact echoes_skip 1 (repeats_pure rfl)
  · exact echoes_skip 1 ((repeats_hexDigits 2 _).follow
      fun code _ => repeats_codePoint code _)
  · refine echoes_skip 1 ((decides_eatCharacter '\x7b').branch (fun _ => ?_) ?_)
    · exact (repeats_bracedHexDigits _).follow
        fun code _ => repeats_codePoint code _
    · exact (repeats_hexDigits 4 _).follow
        fun code _ => repeats_codePoint code _
  · exact echoes_skip 1 (repeats_pure rfl)

/-- An escape that is read after its backslash. -/
theorem echoes_backslash {State Result : Type} {others : List Char}
    {after : Round State Result → Cursor → Round State Result → Cursor → Prop}
    {continued further : List Char → Parser (Round State Result)}
    (standing : cursor.rest = '\\' :: others)
    (continues : ∀ characters next, Echoes distance after (continued characters)
      (further characters) next (next.shift distance)) :
    Echoes distance after (skip 1 >>= fun _ => escape >>= continued)
      (skip 1 >>= fun _ => escape >>= further) cursor (cursor.shift distance) := by
  have behind : 0 < (cursor.advance 1).offset := by
    have passed := cursor.moves_advance (Nat.le_refl 1) (by rw [standing]; simp)
    have moved := passed.offset_lt
    omega
  exact echoes_skip 1 ((repeats_escape behind).follow continues)

theorem repeats_stringLiteral (aligned : Aligned distance cursor shifted) :
    Repeats distance id stringLiteral stringLiteral cursor shifted := by
  refine echoes_skipTrivia aligned fun token _ => echoes_get (echoes_get ?_)
  rw [token.rest_shift]
  cases token.rest with
  | nil => exact echoes_fail (token.aligned_shift distance) _
  | cons quote others =>
      refine echoes_ite (fun _ => echoes_skip 1 ?_)
        fun _ => echoes_fail (token.aligned_shift distance) _
      refine repeats_repeating id id fun reversed here => echoes_get ?_
      rw [here.rest_shift]
      split
      · exact echoes_failFrom _ _
      · exact echoes_failFrom _ _
      · exact echoes_failFrom _ _
      · next standing =>
          exact echoes_backslash standing fun _ _ => repeats_pure rfl
      · exact echoes_skip 1 (echoes_ite (fun _ => repeats_pure rfl)
          fun _ => repeats_pure rfl)

theorem repeats_templateText (start : Nat) :
    Repeats distance id (templateText start) (templateText (start + distance))
      cursor (cursor.shift distance) := by
  refine repeats_repeating id id fun reversed here => echoes_get ?_
  rw [here.rest_shift]
  split
  · exact echoes_failFrom _ start
  · exact echoes_skip 1 (repeats_pure rfl)
  · next standing =>
      exact echoes_backslash standing fun _ _ => repeats_pure rfl
  · exact echoes_skip 2 (repeats_pure rfl)
  · exact echoes_skip 2 (repeats_pure rfl)
  · exact echoes_skip 1 (repeats_pure rfl)

/-! ## Skipping -/

theorem repeats_skipQuoted :
    Repeats distance id skipQuoted skipQuoted cursor (cursor.shift distance) := by
  have commented : Repeats distance id (do skipTrivia; return true)
      (do skipTrivia; return true) cursor (cursor.shift distance) :=
    echoes_skipTrivia (cursor.aligned_shift distance) fun _ _ => repeats_pure rfl
  refine echoes_get ?_
  rw [cursor.rest_shift]
  split
  · exact commented
  · exact commented
  · next quote others _ _ _ =>
      refine echoes_ite (fun _ => ?_) fun _ => repeats_pure rfl
      cases quotedLength? quote others with
      | some length => exact echoes_skip _ (repeats_pure rfl)
      | none =>
          rw [cursor.endOffset_shift]
          exact echoes_failAt _ ⟨_, _⟩
  · exact repeats_pure rfl

theorem repeats_skipBalanced {opening closing : Char}
    (aligned : Aligned distance cursor shifted) :
    Repeats distance id (skipBalanced opening closing)
      (skipBalanced opening closing) cursor shifted := by
  refine echoes_skipTrivia aligned fun token _ => echoes_get ?_
  refine (decides_eatCharacter opening).branch (fun inside => ?_)
    (echoes_fail (token.aligned_shift distance) _)
  refine repeats_repeating id id fun depth here => ?_
  refine echoes_ite (fun _ => repeats_pure rfl) fun _ => ?_
  refine repeats_skipQuoted.follow fun quoted next => ?_
  refine echoes_ite (fun _ => repeats_pure rfl) fun _ => echoes_get ?_
  rw [next.rest_shift]
  cases next.rest with
  | nil => exact echoes_failFrom _ _
  | cons character rest =>
      refine echoes_ite (fun _ => echoes_skip 2 (repeats_pure rfl))
        fun _ => echoes_skip 1 ?_
      refine echoes_ite (fun _ => repeats_pure rfl) fun _ => ?_
      exact echoes_ite (fun _ => repeats_pure rfl) fun _ => repeats_pure rfl

theorem repeats_skipType (ending : TypeEnd) :
    Repeats distance id (skipType ending) (skipType ending) cursor
      (cursor.shift distance) := by
  refine echoes_tokenOffset (cursor.aligned_shift distance) ?_
  refine repeats_repeating id id fun state here => ?_
  obtain ⟨depth, complete⟩ := state
  have aligned := here.aligned_shift distance
  refine echoes_get ?_
  dsimp only [id]
  rw [aligned.newlineBefore, aligned.sees, aligned.sees, aligned.sees]
  refine echoes_ite (fun _ => repeats_pure rfl) fun _ => ?_
  refine echoes_skipTrivia aligned fun token _ => ?_
  refine repeats_skipQuoted.follow fun quoted next => ?_
  refine echoes_ite (fun _ => repeats_pure rfl) fun _ => echoes_get ?_
  rw [next.rest_shift]
  split
  · exact echoes_ite (fun _ => repeats_pure rfl) fun _ => echoes_failFrom _ _
  · exact echoes_skip 2 (repeats_pure rfl)
  have moved : ∀ (depth : Nat) (complete : Bool), Repeats distance
      (Round.map id id)
      (do skip 1; return (.again (depth, complete) : Round (Nat × Bool) Unit))
      (do skip 1; return .again (depth, complete)) next
      (next.shift distance) :=
    fun _ _ => echoes_skip 1 (repeats_pure rfl)
  refine echoes_ite (fun _ => moved _ _) fun _ => ?_
  refine echoes_ite (fun _ => echoes_ite (fun _ => repeats_pure rfl)
    fun _ => moved _ _) fun _ => ?_
  refine echoes_ite (fun _ => echoes_ite (fun _ => repeats_pure rfl)
    fun _ => moved _ _) fun _ => ?_
  exact echoes_ite (fun _ => repeats_pure rfl) fun _ => moved _ _

theorem repeats_skipRegularExpression :
    Repeats distance id skipRegularExpression skipRegularExpression cursor
      (cursor.shift distance) := by
  refine echoes_get (echoes_skip 1 (echoes_get ?_))
  dsimp only
  rw [Cursor.rest_shift]
  refine echoes_skip _ (echoes_ite (fun _ => ?_) fun _ => echoes_failFrom _ _)
  exact (repeats_takeRun _).passing

theorem repeats_skipHeadToken (aligned : Aligned distance cursor shifted) :
    Repeats distance id skipHeadToken skipHeadToken cursor shifted := by
  refine echoes_get ?_
  dsimp only
  rw [aligned.sees, aligned.rest]
  refine echoes_ite (fun _ => repeats_skipBalanced aligned) fun _ => ?_
  cases wordAtFront? cursor.tokenStart.rest with
  | some word => exact echoes_setToken aligned _ fun _ => repeats_pure rfl
  | none =>
      cases Punctuator.atFront? cursor.tokenStart.rest with
      | some punctuator => exact echoes_setToken aligned _ fun _ => repeats_pure rfl
      | none => exact echoes_fail aligned _

theorem repeats_skipToBody (aligned : Aligned distance cursor shifted) :
    Repeats distance id skipToBody skipToBody cursor shifted := by
  refine Echoes.bind (aligned_repeating aligned fun _ here there alignedHere =>
    echoes_get ?_) fun _ next _ final outcome => repeats_skipBalanced outcome.2
  rw [alignedHere.sees, alignedHere.atEnd]
  refine echoes_ite (fun _ => echoes_pure ⟨rfl, alignedHere⟩) fun _ => ?_
  refine echoes_ite (fun _ => echoes_fail alignedHere _) fun _ => ?_
  exact (repeats_skipHeadToken alignedHere).follow fun _ next =>
    echoes_pure ⟨rfl, next.aligned_shift distance⟩

theorem repeats_skipTypeParameters :
    Repeats distance id skipTypeParameters skipTypeParameters cursor
      (cursor.shift distance) := by
  have aligned := cursor.aligned_shift distance
  refine echoes_get ?_
  rw [aligned.sees]
  exact echoes_ite (fun _ => repeats_skipBalanced aligned) fun _ => repeats_pure rfl

theorem repeats_skipClass (aligned : Aligned distance cursor shifted) :
    Repeats distance id skipClass skipClass cursor shifted :=
  (repeats_expectWord aligned "class").follow fun _ next =>
    repeats_skipToBody (next.aligned_shift distance)

theorem repeats_skipTypeDeclaration (aligned : Aligned distance cursor shifted) :
    Repeats distance id skipTypeDeclaration skipTypeDeclaration cursor shifted := by
  refine (decides_eatWord aligned "interface").branch (fun announced => ?_) ?_
  · refine (repeats_identifier (announced.aligned_shift distance)).passing.follow
      fun _ named => repeats_skipTypeParameters.follow fun _ headed => ?_
    exact repeats_skipToBody (headed.aligned_shift distance)
  · refine (repeats_expectWord aligned "type").follow fun _ announced => ?_
    refine (repeats_identifier (announced.aligned_shift distance)).passing.follow
      fun _ named => repeats_skipTypeParameters.follow fun _ headed => ?_
    refine (repeats_expect (headed.aligned_shift distance) .assign).follow
      fun _ assigned => ?_
    exact (repeats_skipType .newline).follow fun _ _ => repeats_semicolon

theorem repeats_skipExportClause :
    Repeats distance id skipExportClause skipExportClause cursor
      (cursor.shift distance) := by
  have aligned := cursor.aligned_shift distance
  refine (decides_eat aligned .times).branch (fun starred => ?_)
    (repeats_skipBalanced aligned)
  refine (decides_eatWord (starred.aligned_shift distance) "as").branch
    (fun named => ?_) (repeats_pure rfl)
  exact (repeats_word (named.aligned_shift distance)).passing

end Parser

end VelocityScript.Script
