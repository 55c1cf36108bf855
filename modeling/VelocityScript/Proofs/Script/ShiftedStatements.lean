import VelocityScript.Proofs.Script.ShiftedExpressions
import VelocityScript.Proofs.Script.Safety

/-!
# Statements and scripts at shifted cursors

A text with white space and comments before it, but no line break, is read like
the text itself, only further on.
-/

namespace VelocityScript.Script

open Cursor (Aligned)
open VelocityScript.Script.Parser

variable {distance : Nat} {nested twin : Nested} {cursor shifted : Cursor}

/-- Two forms of a statement that give the same for a placement and the shifted
one. -/
def SameForm (distance : Nat) (form other : Placement → Statement) : Prop :=
  ∀ placement, other (placement.relocate (Span.shift distance)) =
    (form placement).relocate (Span.shift distance)

/-- Reading a statement at both cursors gives the same form. -/
abbrev RepeatsForm (distance : Nat)
    (parser echo : Parser (Placement → Statement)) (cursor shifted : Cursor) :
    Prop :=
  Echoes distance (fun form next other final =>
    SameForm distance form other ∧ final = next.shift distance) parser echo cursor
      shifted

theorem repeats_form {form other : Placement → Statement}
    (same : SameForm distance form other) :
    RepeatsForm distance (pure form) (pure other) cursor (cursor.shift distance) :=
  echoes_pure ⟨same, rfl⟩

namespace Grammar

/-! ## Declarations -/

theorem repeats_declaration (echoes : nested.Echoes distance twin)
    (aligned : Aligned distance cursor shifted) :
    Repeats distance (Declaration.relocate (Span.shift distance))
      (declaration nested) (declaration twin) cursor shifted := by
  refine echoes_tokenOffset aligned ?_
  refine (repeats_bindingName echoes aligned).follow fun name named => ?_
  refine (repeats_eat .not).passing.follow fun _ marked => ?_
  refine repeats_optionalType fun typed => ?_
  refine (decides_eat (typed.aligned_shift distance) .assign).branch
    (fun next => ?_) (echoes_pure_bind (echoes_spanFrom (repeats_pure rfl)))
  exact (repeats_assigned echoes).follow fun _ _ =>
    echoes_pure_bind (echoes_spanFrom (repeats_pure rfl))

theorem repeats_declarations (echoes : nested.Echoes distance twin)
    (aligned : Aligned distance cursor shifted) (keyword : DeclarationKeyword) :
    RepeatsForm distance (declarations nested keyword) (declarations twin keyword)
      cursor shifted := by
  refine (repeats_word aligned).passing.follow fun _ announced => ?_
  refine (repeats_declaration echoes (announced.aligned_shift distance)).follow
    fun first here => ?_
  refine Echoes.follow (repeats_repeating
    (List.map (Declaration.relocate (Span.shift distance)))
    (List.map (Declaration.relocate (Span.shift distance)))
    fun declared between => ?_) fun declared next =>
      repeats_semicolon.follow fun _ _ => repeats_form fun _ => rfl
  refine (decides_eat (between.aligned_shift distance) .comma).branch
    (fun separated => ?_) (repeats_pure rfl)
  refine (repeats_declaration echoes (separated.aligned_shift distance)).follow
    fun following _ => repeats_pure ?_
  rw [Round.map, List.map_append]
  rfl

/-! ## Branches and loops -/

theorem repeats_stated (echoes : nested.Echoes distance twin) :
    Repeats distance (Statement.relocate (Span.shift distance)) nested.statement
      twin.statement cursor (cursor.shift distance) :=
  echoes.statement _ _ (cursor.aligned_shift distance)

theorem repeats_branch (echoes : nested.Echoes distance twin)
    (aligned : Aligned distance cursor shifted) :
    RepeatsForm distance (branch nested) (branch twin) cursor shifted := by
  refine (repeats_expectWord aligned "if").follow fun _ announced => ?_
  refine (repeats_parenthesized echoes (announced.aligned_shift distance)).follow
    fun condition tested => (repeats_stated echoes).follow
      fun consequent chosen => ?_
  refine (decides_eatWord (chosen.aligned_shift distance) "else").branch
    (fun other => ?_) (echoes_pure_bind (repeats_form fun _ => rfl))
  exact (repeats_stated echoes).follow fun _ _ =>
    echoes_pure_bind (repeats_form fun _ => rfl)

theorem repeats_loopHeader (echoes : nested.Echoes distance twin) :
    Repeats distance (Option.map (LoopHeader.relocate (Span.shift distance)))
      (loopHeader? nested) (loopHeader? twin) cursor (cursor.shift distance) := by
  have aligned := cursor.aligned_shift distance
  refine echoes_get ?_
  rw [aligned.seesWord, aligned.seesWord, aligned.seesWord, aligned.sees]
  refine echoes_ite (fun _ => ?_) fun _ => echoes_ite (fun _ => repeats_pure rfl)
    fun _ => ?_
  · refine (repeats_word aligned).passing.follow fun _ announced => ?_
    have alignedName := announced.aligned_shift distance
    refine echoes_tokenOffset alignedName ?_
    refine (repeats_bindingName echoes alignedName).follow fun name named => ?_
    exact repeats_optionalType fun typed => echoes_spanFrom (repeats_pure rfl)
  · exact (repeats_leftHandSide echoes aligned).follow
      fun _ _ => repeats_pure rfl

/-- A loop that is read again from its header on. -/
theorem repeats_otherLoop {header : Cursor} (echoes : nested.Echoes distance twin)
    (kind : OtherStatement) :
    RepeatsForm distance (otherLoop nested kind header)
      (otherLoop twin kind (header.shift distance)) cursor shifted := by
  refine echoes_set ((repeats_skipBalanced
    (header.aligned_shift distance)).follow fun _ headed => ?_)
  exact (repeats_stated echoes).passing.follow
    fun _ _ => repeats_form fun _ => rfl

theorem repeats_loop (echoes : nested.Echoes distance twin)
    (aligned : Aligned distance cursor shifted) :
    RepeatsForm distance (loop nested) (loop twin) cursor shifted := by
  refine (repeats_expectWord aligned "for").follow fun _ announced => ?_
  have alignedHeader := announced.aligned_shift distance
  refine (decides_eatWord alignedHeader "await").branch
    (fun awaited => echoes_get (repeats_otherLoop echoes _)) (echoes_get ?_)
  refine (repeats_expect alignedHeader .openParen).follow fun _ inside => ?_
  refine (repeats_loopHeader echoes).follow fun header headed => ?_
  cases header with
  | none => exact repeats_otherLoop echoes _
  | some header =>
      have alignedHead := headed.aligned_shift distance
      refine (decides_eatWord alignedHead "of").branch (fun named => ?_)
        (echoes_get ?_)
      · refine (repeats_assigned echoes).follow fun iterable read => ?_
        refine (repeats_expect (read.aligned_shift distance) .closeParen).follow
          fun _ closed => ?_
        exact (repeats_stated echoes).follow fun _ _ => repeats_form fun _ => rfl
      · rw [alignedHead.seesWord]
        exact echoes_ite (fun _ => repeats_otherLoop echoes _)
          fun _ => repeats_otherLoop echoes _

/-! ## Other statements -/

theorem repeats_result (echoes : nested.Echoes distance twin)
    (aligned : Aligned distance cursor shifted) :
    RepeatsForm distance (result nested) (result twin) cursor shifted := by
  refine (repeats_word aligned).passing.follow fun _ announced => echoes_get ?_
  have alignedHere := announced.aligned_shift distance
  rw [alignedHere.sees, alignedHere.sees, alignedHere.atEnd,
    alignedHere.newlineBefore]
  refine echoes_ite (fun _ => echoes_pure_bind ?_) fun _ => ?_
  · exact repeats_semicolon.follow fun _ _ => repeats_form fun _ => rfl
  · exact (repeats_expression echoes alignedHere).follow fun _ _ =>
      echoes_pure_bind (repeats_semicolon.follow fun _ _ =>
        repeats_form fun _ => rfl)

theorem repeats_whileLoop (echoes : nested.Echoes distance twin)
    (aligned : Aligned distance cursor shifted) :
    RepeatsForm distance (whileLoop nested) (whileLoop twin) cursor shifted := by
  refine (repeats_word aligned).passing.follow fun _ announced => ?_
  refine (repeats_parenthesized echoes
    (announced.aligned_shift distance)).passing.follow fun _ tested => ?_
  exact (repeats_stated echoes).passing.follow
    fun _ _ => repeats_form fun _ => rfl

theorem repeats_doLoop (echoes : nested.Echoes distance twin)
    (aligned : Aligned distance cursor shifted) :
    RepeatsForm distance (doLoop nested) (doLoop twin) cursor shifted := by
  refine (repeats_word aligned).passing.follow fun _ announced => ?_
  refine (repeats_stated echoes).passing.follow fun _ bodied => ?_
  refine (repeats_expectWord (bodied.aligned_shift distance) "while").follow
    fun _ named => ?_
  refine (repeats_parenthesized echoes
    (named.aligned_shift distance)).passing.follow fun _ tested => ?_
  exact (repeats_eat .semicolon).passing.follow
    fun _ _ => repeats_form fun _ => rfl

theorem repeats_throwing (echoes : nested.Echoes distance twin)
    (aligned : Aligned distance cursor shifted) :
    RepeatsForm distance (throwing nested) (throwing twin) cursor shifted := by
  refine (repeats_word aligned).passing.follow fun _ announced => ?_
  refine (repeats_expression echoes
    (announced.aligned_shift distance)).passing.follow fun _ thrown => ?_
  exact repeats_semicolon.follow fun _ _ => repeats_form fun _ => rfl

theorem repeats_jump (aligned : Aligned distance cursor shifted)
    (kind : OtherStatement) :
    RepeatsForm distance (jump kind) (jump kind) cursor shifted := by
  refine (repeats_word aligned).passing.follow fun _ announced => echoes_get ?_
  have alignedHere := announced.aligned_shift distance
  dsimp only
  rw [alignedHere.newlineBefore, alignedHere.seesIdentifier]
  refine echoes_ite (fun _ => ?_) fun _ =>
    repeats_semicolon.follow fun _ _ => repeats_form fun _ => rfl
  exact (repeats_identifier alignedHere).passing.follow fun _ _ =>
    repeats_semicolon.follow fun _ _ => repeats_form fun _ => rfl

theorem repeats_switch (echoes : nested.Echoes distance twin)
    (aligned : Aligned distance cursor shifted) :
    RepeatsForm distance (switch nested) (switch twin) cursor shifted := by
  refine (repeats_word aligned).passing.follow fun _ announced => ?_
  refine (repeats_parenthesized echoes
    (announced.aligned_shift distance)).passing.follow fun _ tested => ?_
  exact (repeats_skipBalanced (tested.aligned_shift distance)).follow
    fun _ _ => repeats_form fun _ => rfl

theorem repeats_skippedBlock (echoes : nested.Echoes distance twin) :
    Repeats distance id (discard (block nested)) (discard (block twin)) cursor
      (cursor.shift distance) :=
  (repeats_block echoes (cursor.aligned_shift distance)).passing

theorem repeats_finallyEnd (echoes : nested.Echoes distance twin) :
    RepeatsForm distance (finallyEnd nested) (finallyEnd twin) cursor
      (cursor.shift distance) :=
  (decides_eatWord (cursor.aligned_shift distance) "finally").branch
    (fun _ => (repeats_skippedBlock echoes).follow
      fun _ _ => repeats_form fun _ => rfl)
    (repeats_form fun _ => rfl)

theorem repeats_trying (echoes : nested.Echoes distance twin)
    (aligned : Aligned distance cursor shifted) :
    RepeatsForm distance (trying nested) (trying twin) cursor shifted := by
  refine (repeats_word aligned).passing.follow fun _ announced => ?_
  refine (repeats_skippedBlock echoes).follow fun _ tried => ?_
  refine (decides_eatWord (tried.aligned_shift distance) "catch").branch
    (fun caught => echoes_get ?_) (repeats_finallyEnd echoes)
  have alignedCatch := caught.aligned_shift distance
  rw [alignedCatch.sees]
  refine echoes_ite (fun _ => ?_) fun _ =>
    (repeats_skippedBlock echoes).follow fun _ _ => repeats_finallyEnd echoes
  exact (repeats_skipBalanced alignedCatch).follow fun _ _ =>
    (repeats_skippedBlock echoes).follow fun _ _ => repeats_finallyEnd echoes

theorem repeats_enumeration (aligned : Aligned distance cursor shifted) :
    RepeatsForm distance enumeration enumeration cursor shifted := by
  have marking : Echoes distance (fun _ next _ final => Aligned distance next final)
      (discard (eatWord "const")) (discard (eatWord "const")) cursor shifted :=
    Echoes.discard ((decides_eatWord aligned "const").mono
      fun _ _ _ _ decided => decided.aligned aligned)
  refine marking.bind fun _ marked _ there alignedHere => ?_
  refine (repeats_expectWord alignedHere "enum").follow fun _ announced => ?_
  refine (repeats_identifier
    (announced.aligned_shift distance)).passing.follow fun _ named => ?_
  exact (repeats_skipBalanced (named.aligned_shift distance)).follow
    fun _ _ => repeats_form fun _ => rfl

theorem repeats_labeled (echoes : nested.Echoes distance twin)
    (aligned : Aligned distance cursor shifted) :
    RepeatsForm distance (labeled nested) (labeled twin) cursor shifted := by
  refine (repeats_identifier aligned).passing.follow fun _ named => ?_
  refine (repeats_expect (named.aligned_shift distance) .colon).follow
    fun _ marked => ?_
  exact (repeats_stated echoes).passing.follow
    fun _ _ => repeats_form fun _ => rfl

theorem repeats_evaluation (echoes : nested.Echoes distance twin)
    (aligned : Aligned distance cursor shifted) :
    RepeatsForm distance (evaluation nested) (evaluation twin) cursor shifted :=
  (repeats_expression echoes aligned).follow fun _ _ =>
    repeats_semicolon.follow fun _ _ => repeats_form fun _ => rfl

/-- A statement that starts with a word. -/
theorem repeats_wordStatement (echoes : nested.Echoes distance twin)
    (aligned : Aligned distance cursor shifted) (word : String) :
    RepeatsForm distance (wordStatement nested word cursor)
      (wordStatement twin word shifted) cursor shifted := by
  have skipped : ∀ {parser parserTwin : Parser Unit} (kind : OtherStatement),
      Repeats distance id parser parserTwin cursor shifted →
        RepeatsForm distance
          (do parser; return (Statement.other kind : Placement → Statement))
          (do parserTwin; return (Statement.other kind : Placement → Statement))
          cursor shifted :=
    fun _ repeats => repeats.follow fun _ _ => repeats_form fun _ => rfl
  unfold wordStatement
  dsimp only
  rw [aligned.secondWord?, aligned.punctuatorAfterWord?,
    functionFollows_shift aligned, aligned.offset]
  refine echoes_ite (fun _ => repeats_declarations echoes aligned _) fun _ => ?_
  refine echoes_ite (fun _ => repeats_declarations echoes aligned _) fun _ => ?_
  refine echoes_ite (fun _ => repeats_declarations echoes aligned _) fun _ => ?_
  refine echoes_ite (fun _ => repeats_branch echoes aligned) fun _ => ?_
  refine echoes_ite (fun _ => repeats_loop echoes aligned) fun _ => ?_
  refine echoes_ite (fun _ => repeats_result echoes aligned) fun _ => ?_
  refine echoes_ite (fun _ => repeats_whileLoop echoes aligned) fun _ => ?_
  refine echoes_ite (fun _ => repeats_doLoop echoes aligned) fun _ => ?_
  refine echoes_ite (fun _ => repeats_throwing echoes aligned) fun _ => ?_
  refine echoes_ite (fun _ => repeats_jump aligned _) fun _ => ?_
  refine echoes_ite (fun _ => repeats_jump aligned _) fun _ => ?_
  refine echoes_ite (fun _ => repeats_switch echoes aligned) fun _ => ?_
  refine echoes_ite (fun _ => repeats_trying echoes aligned) fun _ => ?_
  refine echoes_ite (fun _ => ?_) fun _ => ?_
  · exact (repeats_word aligned).passing.follow fun _ _ =>
      repeats_semicolon.follow fun _ _ => repeats_form fun _ => rfl
  refine echoes_ite (fun _ =>
    skipped _ (repeats_function echoes aligned _ _).passing) fun _ => ?_
  refine echoes_ite (fun _ => skipped _ (repeats_skipClass aligned)) fun _ => ?_
  refine echoes_ite (fun _ => skipped _ (repeats_skipTypeDeclaration aligned))
    fun _ => ?_
  refine echoes_ite (fun _ => skipped _ (repeats_skipTypeDeclaration aligned))
    fun _ => ?_
  refine echoes_ite (fun _ => repeats_enumeration aligned) fun _ => ?_
  refine echoes_ite (fun _ => skipped _ (repeats_skipToBody aligned)) fun _ => ?_
  refine echoes_get ?_
  rw [aligned.seesIdentifier, aligned.punctuatorAfterWord?]
  exact echoes_ite (fun _ => repeats_labeled echoes aligned)
    fun _ => repeats_evaluation echoes aligned

theorem repeats_statementForm (echoes : nested.Echoes distance twin)
    (aligned : Aligned distance cursor shifted) :
    RepeatsForm distance (statementForm nested) (statementForm twin) cursor
      shifted := by
  refine echoes_get ?_
  rw [aligned.sees, aligned.word?]
  refine echoes_ite (fun _ => ?_) fun _ => ?_
  · exact (repeats_block echoes aligned).follow
      fun _ _ => repeats_form fun _ => rfl
  refine (decides_eat aligned .semicolon).branch
    (fun _ => repeats_form fun _ => rfl) ?_
  cases cursor.word? with
  | some word => exact repeats_wordStatement echoes aligned word
  | none => exact repeats_evaluation echoes aligned

theorem repeats_statement (echoes : nested.Echoes distance twin)
    (aligned : Aligned distance cursor shifted) :
    Repeats distance (Statement.relocate (Span.shift distance)) (statement nested)
      (statement twin) cursor shifted := by
  refine echoes_get ((repeats_statementForm echoes aligned).bind
    fun form next other final outcome => ?_)
  obtain ⟨same, rfl⟩ := outcome
  rw [aligned.offset, aligned.newlines]
  exact echoes_spanFrom (repeats_pure (same
    ⟨⟨cursor.tokenStart.offset, next.offset⟩, cursor.leadingNewlines⟩))

/-! ## Items -/

theorem repeats_importEnd (specifiers : List ImportSpecifier) (start : Nat) :
    Repeats distance (ImportDeclaration.relocate (Span.shift distance))
      (importEnd specifiers start) (importEnd specifiers (start + distance)) cursor
      (cursor.shift distance) := by
  refine (repeats_expectWord (cursor.aligned_shift distance) "from").follow
    fun _ announced => ?_
  refine (repeats_stringLiteral (announced.aligned_shift distance)).follow
    fun moduleName named => ?_
  exact repeats_semicolon.follow fun _ _ => echoes_spanFrom (repeats_pure rfl)

theorem seesTypeMark_shift (aligned : Aligned distance cursor shifted) :
    seesTypeMark shifted = seesTypeMark cursor := by
  rw [seesTypeMark, seesTypeMark, aligned.seesWord, aligned.punctuatorAfterWord?,
    aligned.secondWord?]

theorem repeats_importSpecifier :
    Repeats distance id importSpecifier importSpecifier cursor
      (cursor.shift distance) := by
  have naming : ∀ here : Cursor, Repeats distance id
      (do
        let imported ← word
        if ← eatWord "as" then
          let bound ← identifier
          return ImportSpecifier.named imported.name bound.name
        else
          return .named imported.name imported.name)
      (do
        let imported ← word
        if ← eatWord "as" then
          let bound ← identifier
          return .named imported.name bound.name
        else
          return .named imported.name imported.name) here
      (here.shift distance) := by
    intro here
    refine (repeats_word (here.aligned_shift distance)).follow
      fun imported named => ?_
    refine (decides_eatWord (named.aligned_shift distance) "as").branch
      (fun next => ?_) (repeats_pure rfl)
    exact (repeats_identifier (next.aligned_shift distance)).follow
      fun _ _ => repeats_pure rfl
  have aligned := cursor.aligned_shift distance
  refine echoes_get ?_
  rw [seesTypeMark_shift aligned]
  refine echoes_ite (fun _ => ?_) fun _ => naming cursor
  exact (repeats_word aligned).passing.follow fun _ => naming

theorem repeats_importedNames :
    Repeats distance id importedNames importedNames cursor
      (cursor.shift distance) := by
  have aligned := cursor.aligned_shift distance
  refine (decides_eat aligned .times).branch (fun starred => ?_) ?_
  · refine (repeats_expectWord (starred.aligned_shift distance) "as").follow
      fun _ announced => ?_
    exact (repeats_identifier (announced.aligned_shift distance)).follow
      fun _ _ => repeats_pure rfl
  · refine (decides_eat aligned .openBrace).branch (fun inside => ?_)
      (repeats_pure rfl)
    refine (repeats_commaSeparated fun _ => repeats_importSpecifier).mono
      fun names next found final settled => ?_
    exact ⟨settled.1.trans (List.map_id names), settled.2⟩

theorem repeats_namedImport (start : Nat) :
    Repeats distance (ImportDeclaration.relocate (Span.shift distance))
      (namedImport start) (namedImport (start + distance)) cursor
      (cursor.shift distance) := by
  have aligned := cursor.aligned_shift distance
  refine echoes_get ?_
  rw [aligned.seesIdentifier]
  refine echoes_ite (fun _ => ?_) fun _ => ?_
  · refine (repeats_identifier aligned).follow fun bound read => ?_
    refine (decides_eat (read.aligned_shift distance) .comma).branch
      (fun next => ?_) (repeats_importEnd _ _)
    exact repeats_importedNames.follow fun _ _ => repeats_importEnd _ _
  · exact repeats_importedNames.follow fun _ _ => repeats_importEnd _ _

theorem repeats_importDeclaration (aligned : Aligned distance cursor shifted) :
    Repeats distance (ImportDeclaration.relocate (Span.shift distance))
      importDeclaration importDeclaration cursor shifted := by
  refine echoes_tokenOffset aligned ((repeats_expectWord aligned "import").follow
    fun _ announced => echoes_get ?_)
  have alignedHere := announced.aligned_shift distance
  dsimp only
  rw [alignedHere.tokenCharacter?, alignedHere.seesWord, alignedHere.secondWord?]
  refine echoes_ite (fun _ => ?_) fun _ => ?_
  · refine (repeats_stringLiteral alignedHere).follow fun moduleName read => ?_
    exact repeats_semicolon.follow fun _ _ => echoes_spanFrom (repeats_pure rfl)
  · refine echoes_ite (fun _ => ?_) fun _ => repeats_namedImport _
    exact (repeats_word alignedHere).passing.follow
      fun _ _ => repeats_namedImport _

theorem repeats_typeItem (aligned : Aligned distance cursor shifted)
    (start : Nat) :
    Repeats distance (Item.relocate (Span.shift distance)) (typeItem start)
      (typeItem (start + distance)) cursor shifted :=
  (repeats_skipTypeDeclaration aligned).follow fun _ _ =>
    echoes_spanFrom (repeats_pure rfl)

theorem repeats_exportedStatement {form other : Placement → Statement}
    (same : SameForm distance form other) (start leadingNewlines : Nat) :
    Repeats distance (Item.relocate (Span.shift distance))
      (exportedStatement form start leadingNewlines)
      (exportedStatement other (start + distance) leadingNewlines) cursor
      (cursor.shift distance) :=
  echoes_spanFrom (repeats_pure (congrArg Item.statement
    (same ⟨⟨start, cursor.offset⟩, leadingNewlines⟩)))

theorem repeats_exportedItem (echoes : nested.Echoes distance twin)
    (start leadingNewlines : Nat) :
    Repeats distance (Item.relocate (Span.shift distance))
      (exportedItem nested start leadingNewlines)
      (exportedItem twin (start + distance) leadingNewlines) cursor
      (cursor.shift distance) := by
  have other : ∀ (kind : OtherStatement) (here : Cursor), Repeats distance
      (Item.relocate (Span.shift distance))
      (do semicolon; exportedStatement (.other kind) start leadingNewlines)
      (do
        semicolon
        exportedStatement (.other kind) (start + distance) leadingNewlines) here
      (here.shift distance) :=
    fun _ _ => repeats_semicolon.follow fun _ _ =>
      repeats_exportedStatement (fun _ => rfl) _ _
  have defaulted : Repeats distance id (eatWord "default") (eatWord "default")
      cursor (cursor.shift distance) :=
    (decides_eatWord (cursor.aligned_shift distance) "default").mono
      fun _ _ _ _ decided => decided.settles
  refine defaulted.follow fun isDefault here => echoes_get ?_
  have aligned := here.aligned_shift distance
  dsimp only [id]
  rw [functionFollows_shift aligned, aligned.seesWord, aligned.seesWord,
    aligned.sees, aligned.sees]
  refine echoes_ite (fun _ => ?_) fun _ => ?_
  · exact (repeats_function echoes aligned _ _).follow
      fun _ _ => repeats_pure rfl
  refine echoes_ite (fun _ => repeats_typeItem aligned _) fun _ => ?_
  refine echoes_ite (fun _ => ?_) fun _ => echoes_ite (fun _ => ?_) fun _ => ?_
  · refine repeats_skipExportClause.follow fun _ clause => ?_
    refine (decides_eatWord (clause.aligned_shift distance) "from").branch
      (fun sourced => ?_) (other _ clause)
    exact (repeats_stringLiteral
      (sourced.aligned_shift distance)).passing.follow fun _ => other _
  · exact (repeats_assigned echoes).passing.follow fun _ => other _
  · refine (repeats_statementForm echoes aligned).bind
      fun form next found final outcome => ?_
    obtain ⟨same, rfl⟩ := outcome
    exact repeats_exportedStatement same _ _

theorem repeats_item (echoes : nested.Echoes distance twin)
    (aligned : Aligned distance cursor shifted) :
    Repeats distance (Item.relocate (Span.shift distance)) (item nested)
      (item twin) cursor shifted := by
  refine echoes_get ?_
  dsimp only
  rw [aligned.seesWord, aligned.punctuatorAfterWord?, aligned.offset,
    aligned.newlines, functionFollows_shift aligned, aligned.seesWord,
    aligned.seesWord, aligned.secondWord?]
  refine echoes_ite (fun _ => ?_) fun _ => ?_
  · exact (repeats_importDeclaration aligned).follow fun _ _ => repeats_pure rfl
  refine (decides_eatWord aligned "export").branch
    (fun _ => repeats_exportedItem echoes _ _) ?_
  refine echoes_ite (fun _ => ?_) fun _ => ?_
  · exact (repeats_function echoes aligned _ _).follow
      fun _ _ => repeats_pure rfl
  refine echoes_ite (fun _ => repeats_typeItem aligned _) fun _ => ?_
  exact (repeats_statement echoes aligned).follow fun _ _ => repeats_pure rfl

theorem echoes_items (echoes : nested.Echoes distance twin)
    (aligned : Aligned distance cursor shifted) :
    Echoes distance (fun found _ others _ =>
        others = found.map (Item.relocate (Span.shift distance)))
      (items nested) (items twin) cursor shifted := by
  refine echoes_repeating (fun found here others there =>
      others = found.map (Item.relocate (Span.shift distance)) ∧
        Aligned distance here there)
    aligned.length_le ⟨rfl, aligned⟩ ?_
  rintro found here _ there ⟨rfl, alignedHere⟩
  refine echoes_get ?_
  rw [alignedHere.atEnd]
  refine echoes_ite (fun _ => echoes_pure rfl) fun _ => ?_
  refine (repeats_item echoes alignedHere).follow fun source next =>
    echoes_pure ⟨?_, next.aligned_shift distance⟩
  rw [List.map_append]
  rfl

end Grammar

/-! ## Depths -/

theorem Nested.Echoes.deeper (echoes : nested.Echoes distance twin) :
    nested.deeper.Echoes distance twin.deeper where
  assignment _ _ aligned := Grammar.repeats_assignment echoes aligned
  binary least _ _ aligned := Grammar.repeats_binary echoes aligned least
  unary _ _ aligned := Grammar.repeats_unary echoes aligned
  bindingName _ _ aligned := Grammar.repeats_bindingName echoes aligned
  statement _ _ aligned := Grammar.repeats_statement echoes aligned

/-- A larger depth changes nothing, unless the smaller one is exhausted. -/
theorem Nested.ofDepth_echoes (distance depth : Nat) :
    ∀ more, (Nested.ofDepth depth).Echoes distance
      (Nested.ofDepth (depth + more)) := by
  induction depth with
  | zero =>
      intro more
      exact ⟨fun _ _ _ => echoes_exhausted, fun _ _ _ _ => echoes_exhausted,
        fun _ _ _ => echoes_exhausted, fun _ _ _ => echoes_exhausted,
        fun _ _ _ => echoes_exhausted⟩
  | succ depth inductionHypothesis =>
      intro more
      rw [Nat.add_right_comm]
      exact (inductionHypothesis more).deeper

end VelocityScript.Script
