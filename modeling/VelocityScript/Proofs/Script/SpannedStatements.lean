import VelocityScript.Proofs.Script.SpannedExpressions
import VelocityScript.Script.Grammar.Item

/-!
# The spans of statements and items

A rule for a statement gives the statement without its placement.  The nodes
below it are laid wherever the statement is said to start, as long as that is
no later than its first token: an exported statement starts with `export`.
-/

namespace VelocityScript.Script

open Cursor (Moves)
open VelocityScript.Script.Parser

variable {text : List Char} {nested : Nested} {cursor : Cursor}

/-- A statement has been read whose placement is still to be given. -/
structure Forms (text : List Char) (cursor : Cursor)
    (form : Placement → Statement) (next : Cursor) : Prop where
  passes : cursor.Passes next
  laid : ∀ (opening : Cursor) (placement : Placement),
    opening.StandsIn text → Moves 0 opening cursor.tokenStart →
      placement.span = ⟨opening.offset, next.offset⟩ →
        Laid text opening.offset next.offset (form placement).children
  placed : ∀ placement, (form placement).placement = placement

/-- A form with the same nodes below it for every placement. -/
theorem Forms.of {form : Placement → Statement} {nodes : List Node}
    {next : Cursor} (passes : cursor.Passes next)
    (below : ∀ placement, (form placement).children = nodes)
    (laid : Laid text cursor.tokenStart.offset next.offset nodes)
    (placed : ∀ placement, (form placement).placement = placement) :
    Forms text cursor form next := by
  refine ⟨passes, fun opening placement _ moved _ => ?_, placed⟩
  rw [below]
  exact laid.widen moved.offset_le (Nat.le_refl _)

/-- A statement that templates cannot express has no nodes below it. -/
theorem Forms.other {next : Cursor} (kind : OtherStatement)
    (passes : cursor.Passes next) : Forms text cursor (.other kind) next :=
  .of passes (fun _ => rfl) (.nil passes.offset_le) fun _ => rfl

/-- Reading a statement gives it a form. -/
abbrev LaysForm (text : List Char) (parser : Parser (Placement → Statement))
    (cursor : Cursor) : Prop :=
  Leads parser cursor (Forms text cursor)

namespace Grammar

/-! ## Declarations -/

theorem lays_declaration (spanned : nested.Spanned text)
    (stands : cursor.StandsIn text) :
    Leads (declaration nested) cursor
      (Lays text (fun found => [.declaration found]) cursor) := by
  refine leads_tokenOffset ?_
  refine (lays_bindingName spanned stands).bind fun name named lays => ?_
  have marking : Leads (discard (eat .not)) named fun _ next => Moves 0 named next :=
    Leads.discard ((leads_eat .not).mono fun _ _ outcome => outcome.reaches.moves)
  refine marking.bind fun _ marked second => ?_
  have laysMark := lays.further second
  refine moves_optionalType (stands.after laysMark.moves) fun typed third => ?_
  have laysType := laysMark.further third
  refine (leads_eat .assign).branch (fun next assigned => ?_) ?_
  · have laysAssign := laysType.further assigned.moves
    refine (spanned.assignment next (stands.after laysAssign.moves)).bind
      fun value final last => leads_pure_bind (leads_spanFrom (leads_pure ?_))
    exact .ofNode stands (laysAssign.passes.further last.moves) rfl rfl
      (last.behind laysAssign.laid) rfl
  · exact leads_pure_bind (leads_spanFrom (leads_pure
      (.ofNode stands laysType.passes rfl rfl laysType.laid rfl)))

theorem lays_declarations (spanned : nested.Spanned text)
    (stands : cursor.StandsIn text) (keyword : DeclarationKeyword) :
    LaysForm text (declarations nested keyword) cursor := by
  refine (leads_word stands).passing.bind fun _ announced first => ?_
  refine (lays_declaration spanned (stands.after first.moves)).bind
    fun declared here lays => ?_
  refine Leads.bind (leads_gathering (fun declared between =>
      cursor.Passes between ∧ Laid text cursor.tokenStart.offset between.offset
        (declared.map .declaration))
    ⟨first.further lays.moves, lays.laidFrom.widen first.offset_le (Nat.le_refl _)⟩
    fun declared between holds => ?_) fun declared next outcome => ?_
  · obtain ⟨passed, laid⟩ := holds
    refine (leads_eat .comma).branch (fun next separated => ?_)
      (leads_pure ⟨passed, laid⟩)
    have passedComma : cursor.Passes next := passed.further separated.moves
    refine (lays_declaration spanned (stands.after passedComma.moves)).bind
      fun _ final last => leads_pure ⟨passedComma.further last.moves, ?_⟩
    rw [List.map_append]
    exact last.behind (laid.until separated.moves)
  · obtain ⟨passed, laid⟩ := outcome
    exact leads_semicolon.bind fun _ final last => leads_pure
      (.of (passed.further last) (fun _ => rfl) (laid.until last) fun _ => rfl)

/-! ## Branches and loops -/

theorem lays_branch (spanned : nested.Spanned text)
    (stands : cursor.StandsIn text) :
    LaysForm text (branch nested) cursor := by
  refine (leads_expectWord "if").bind fun _ announced first => ?_
  refine (lays_parenthesized spanned (stands.after first.moves)).bind
    fun condition tested second => ?_
  have passedTest : cursor.Passes tested := first.further second.moves
  have laidTest := second.laidFrom.widen first.offset_le (Nat.le_refl _)
  refine (spanned.statement tested (stands.after passedTest.moves)).bind
    fun consequent chosen third => ?_
  have passedChoice : cursor.Passes chosen := passedTest.further third.moves
  have laidChoice := third.behind laidTest
  refine (leads_eatWord "else").branch (fun other fourth => ?_) ?_
  · have passedElse : cursor.Passes other := passedChoice.further fourth.moves
    refine (spanned.statement other (stands.after passedElse.moves)).bind
      fun alternative next last => leads_pure_bind (leads_pure ?_)
    have laid := last.behind (laidChoice.until fourth.moves)
    exact .of (passedElse.further last.moves) (fun _ => rfl) laid fun _ => rfl
  · exact leads_pure_bind (leads_pure
      (.of passedChoice (fun _ => rfl) laidChoice fun _ => rfl))

/-- The header of a loop, if it has a part before `of`. -/
theorem lays_loopHeader (spanned : nested.Spanned text)
    (stands : cursor.StandsIn text) :
    Leads (loopHeader? nested) cursor fun found next =>
      Moves 0 cursor next ∧ Laid text cursor.offset next.offset
        (found.toList.map Node.ofHeader) := by
  refine leads_get (leads_ite (fun _ => ?_) fun _ => leads_ite (fun _ => ?_)
    fun _ => ?_)
  · refine (leads_word stands).passing.bind fun _ announced first =>
      leads_tokenOffset ?_
    have standsName := stands.after first.moves
    refine (lays_bindingName spanned standsName).bind fun name named lays => ?_
    refine moves_optionalType (standsName.after lays.moves) fun typed third =>
      leads_spanFrom (leads_pure ?_)
    have laysType := lays.further third
    have declared : Lays text (fun found => [.declaration found]) announced
        ⟨name, none, ⟨announced.tokenStart.offset, typed.offset⟩⟩ typed :=
      .ofNode standsName laysType.passes rfl rfl laysType.laid rfl
    exact ⟨(first.moves.trans declared.moves).reaches,
      declared.laidFrom.widen first.moves.offset_le (Nat.le_refl _)⟩
  · exact leads_pure ⟨.refl cursor, .nil (Nat.le_refl _)⟩
  · exact (lays_leftHandSide spanned stands).bind fun _ next lays =>
      leads_pure ⟨lays.moves.reaches, lays.laidFrom⟩

/-- A loop that is read again from its header on. -/
theorem lays_otherLoop {header here : Cursor} (spanned : nested.Spanned text)
    (stands : cursor.StandsIn text) (passed : cursor.Passes header)
    (kind : OtherStatement) :
    Leads (otherLoop nested kind header) here (Forms text cursor) := by
  have standsHeader := stands.after passed.moves
  refine leads_set ((leads_skipBalanced standsHeader).bind
    fun _ headed first => ?_)
  have passedHead : cursor.Passes headed := passed.further first.moves
  exact (spanned.statement headed (stands.after passedHead.moves)).passing.bind
    fun _ next last => leads_pure (.other kind (passedHead.further last.moves))

theorem lays_loop (spanned : nested.Spanned text)
    (stands : cursor.StandsIn text) : LaysForm text (loop nested) cursor := by
  refine (leads_expectWord "for").bind fun _ announced first => ?_
  refine (leads_eatWord "await").branch (fun awaited second => leads_get
    (lays_otherLoop spanned stands (first.further second.moves) _)) (leads_get ?_)
  refine (leads_expect .openParen).bind fun _ inside second => ?_
  have opened : cursor.Passes inside := first.further second.moves
  refine (lays_loopHeader spanned (stands.after opened.moves)).bind
    fun header headed third => ?_
  obtain ⟨moved, laid⟩ := third
  have passedHeader : cursor.Passes headed := opened.further moved
  have laidHeader := laid.widen opened.offset_le (Nat.le_refl _)
  cases header with
  | none => exact lays_otherLoop spanned stands first _
  | some header =>
      refine (leads_eatWord "of").branch (fun named fourth => ?_)
        (leads_get (leads_ite (fun _ => lays_otherLoop spanned stands first _)
          fun _ => lays_otherLoop spanned stands first _))
      have passedOf : cursor.Passes named := passedHeader.further fourth.moves
      refine (spanned.assignment named (stands.after passedOf.moves)).bind
        fun iterable read fifth => ?_
      have laidIterable := fifth.behind (laidHeader.until fourth.moves)
      refine (leads_expect .closeParen).bind fun _ closed sixth => ?_
      have passedClose : cursor.Passes closed :=
        (passedOf.further fifth.moves).further sixth.moves
      refine (spanned.statement closed (stands.after passedClose.moves)).bind
        fun body next last => leads_pure ?_
      have laidBody := last.behind (laidIterable.until sixth.moves)
      exact .of (passedClose.further last.moves) (fun _ => rfl) laidBody
        fun _ => rfl

/-! ## Other statements -/

theorem lays_result (spanned : nested.Spanned text)
    (stands : cursor.StandsIn text) : LaysForm text (result nested) cursor := by
  have ending : ∀ (returned : Option Expression) (here : Cursor),
      cursor.Passes here → Laid text cursor.tokenStart.offset here.offset
        (returned.toList.map .expression) → Leads (do
          semicolon
          return (Statement.result returned : Placement → Statement)) here
          (Forms text cursor) := by
    intro returned here passed laid
    exact leads_semicolon.bind fun _ next last => leads_pure
      (.of (passed.further last) (fun _ => rfl) (laid.until last) fun _ => rfl)
  refine (leads_word stands).passing.bind fun _ announced first => leads_get ?_
  refine leads_ite (fun _ => ending none announced first (.nil first.offset_le))
    fun _ => ?_
  exact (lays_expression spanned (stands.after first.moves)).bind
    fun returned here lays => ending (some returned) here
      (first.further lays.moves)
      (lays.laidFrom.widen first.offset_le (Nat.le_refl _))

theorem lays_whileLoop (spanned : nested.Spanned text)
    (stands : cursor.StandsIn text) : LaysForm text (whileLoop nested) cursor := by
  refine (leads_word stands).passing.bind fun _ announced first => ?_
  refine (lays_parenthesized spanned (stands.after first.moves)).passing.bind
    fun _ tested second => ?_
  have passed : cursor.Passes tested := first.further second.moves
  exact (spanned.statement tested (stands.after passed.moves)).passing.bind
    fun _ next last => leads_pure (.other _ (passed.further last.moves))

theorem lays_doLoop (spanned : nested.Spanned text)
    (stands : cursor.StandsIn text) : LaysForm text (doLoop nested) cursor := by
  refine (leads_word stands).passing.bind fun _ announced first => ?_
  refine (spanned.statement announced (stands.after first.moves)).passing.bind
    fun _ bodied second => ?_
  refine (leads_expectWord "while").bind fun _ named third => ?_
  have passed : cursor.Passes named :=
    (first.further second.moves).further third.moves
  refine (lays_parenthesized spanned (stands.after passed.moves)).passing.bind
    fun _ tested fourth => ?_
  have ending : Leads (discard (eat .semicolon)) tested fun _ next =>
      Moves 0 tested next :=
    Leads.discard ((leads_eat .semicolon).mono
      fun _ _ outcome => outcome.reaches.moves)
  exact ending.bind fun _ next last => leads_pure
    (.other _ ((passed.further fourth.moves).further last))

theorem lays_throwing (spanned : nested.Spanned text)
    (stands : cursor.StandsIn text) : LaysForm text (throwing nested) cursor := by
  refine (leads_word stands).passing.bind fun _ announced first => ?_
  refine (lays_expression spanned (stands.after first.moves)).passing.bind
    fun _ thrown second => ?_
  exact leads_semicolon.bind fun _ next last => leads_pure
    (.other _ ((first.further second.moves).further last))

theorem lays_jump (stands : cursor.StandsIn text) (kind : OtherStatement) :
    LaysForm text (jump kind) cursor := by
  have ending : ∀ here, cursor.Passes here → Leads (do
      semicolon
      return (Statement.other kind : Placement → Statement)) here
      (Forms text cursor) := by
    intro here passed
    exact leads_semicolon.bind fun _ next last =>
      leads_pure (.other kind (passed.further last))
  refine (leads_word stands).passing.bind fun _ announced first => leads_get ?_
  refine leads_ite (fun _ => ?_) fun _ => ending announced first
  exact (leads_identifier (stands.after first.moves)).passing.bind
    fun _ here read => ending here (first.further read.moves)

theorem lays_switch (spanned : nested.Spanned text)
    (stands : cursor.StandsIn text) : LaysForm text (switch nested) cursor := by
  refine (leads_word stands).passing.bind fun _ announced first => ?_
  refine (lays_parenthesized spanned (stands.after first.moves)).passing.bind
    fun _ tested second => ?_
  have passed : cursor.Passes tested := first.further second.moves
  exact (leads_skipBalanced (stands.after passed.moves)).bind
    fun _ next last => leads_pure (.other _ (passed.further last.moves))

theorem passes_skippedBlock {here : Cursor} (spanned : nested.Spanned text)
    (stands : cursor.StandsIn text) (passed : cursor.Passes here) :
    Leads (discard (block nested)) here fun _ next => cursor.Passes next :=
  (lays_block spanned (stands.after passed.moves)).passing.mono
    fun _ _ read => passed.further read.moves

theorem lays_finallyEnd {here : Cursor} (spanned : nested.Spanned text)
    (stands : cursor.StandsIn text) (passed : cursor.Passes here) :
    Leads (finallyEnd nested) here (Forms text cursor) := by
  refine (leads_eatWord "finally").branch (fun next last => ?_)
    (leads_pure (.other _ passed))
  exact (passes_skippedBlock spanned stands (passed.further last.moves)).bind
    fun _ final whole => leads_pure (.other _ whole)

theorem lays_trying (spanned : nested.Spanned text)
    (stands : cursor.StandsIn text) : LaysForm text (trying nested) cursor := by
  refine (leads_word stands).passing.bind fun _ announced first => ?_
  refine (passes_skippedBlock spanned stands first).bind fun _ tried second => ?_
  refine (leads_eatWord "catch").branch (fun caught third => leads_get ?_)
    (lays_finallyEnd spanned stands second)
  have passedCatch : cursor.Passes caught := second.further third.moves
  refine leads_ite (fun _ => ?_) fun _ =>
    (passes_skippedBlock spanned stands passedCatch).bind
      fun _ _ => lays_finallyEnd spanned stands
  refine (leads_skipBalanced (stands.after passedCatch.moves)).bind
    fun _ bound fourth => ?_
  exact (passes_skippedBlock spanned stands
    (passedCatch.further fourth.moves)).bind
      fun _ _ => lays_finallyEnd spanned stands

theorem lays_enumeration (stands : cursor.StandsIn text) :
    LaysForm text enumeration cursor := by
  have marking : Leads (discard (eatWord "const")) cursor fun _ next =>
      cursor.Reaches next :=
    Leads.discard ((leads_eatWord "const").mono fun _ _ outcome => outcome.reaches)
  refine marking.bind fun _ marked first => ?_
  refine (leads_expectWord "enum").bind fun _ announced second => ?_
  have passed : cursor.Passes announced := first.passes second
  refine (leads_identifier (stands.after passed.moves)).passing.bind
    fun _ named third => ?_
  have passedName : cursor.Passes named := passed.further third.moves
  exact (leads_skipBalanced (stands.after passedName.moves)).bind
    fun _ next last => leads_pure (.other _ (passedName.further last.moves))

theorem lays_labeled (spanned : nested.Spanned text)
    (stands : cursor.StandsIn text) : LaysForm text (labeled nested) cursor := by
  refine (leads_identifier stands).passing.bind fun _ named first => ?_
  refine (leads_expect .colon).bind fun _ marked second => ?_
  have passed : cursor.Passes marked := first.further second.moves
  exact (spanned.statement marked (stands.after passed.moves)).passing.bind
    fun _ next last => leads_pure (.other _ (passed.further last.moves))

theorem lays_evaluation (spanned : nested.Spanned text)
    (stands : cursor.StandsIn text) : LaysForm text (evaluation nested) cursor := by
  refine (lays_expression spanned stands).bind fun evaluated here lays => ?_
  exact leads_semicolon.bind fun _ next last => leads_pure
    (.of (lays.passes.further last) (fun _ => rfl) (lays.laid.until last)
      fun _ => rfl)

/-! ## Skipped declarations -/

theorem passes_skipHeadToken (stands : cursor.StandsIn text) :
    Leads skipHeadToken cursor fun _ next => cursor.Passes next := by
  refine leads_get (leads_ite (fun _ => leads_skipBalanced stands) fun _ => ?_)
  dsimp only
  split
  · next found =>
      obtain ⟨front, nonempty⟩ := wordAtFront?_isPrefix found
      exact leads_set (leads_pure (Cursor.moves_of_isPrefix front nonempty))
  · next punctuator _ found =>
      have front := Punctuator.atFront?_isPrefix found
      exact leads_set (leads_pure
        (Cursor.moves_of_isPrefix front punctuator.characters_ne_nil))
  · exact leads_fail _

theorem passes_skipToBody (stands : cursor.StandsIn text) :
    Leads skipToBody cursor fun _ next => cursor.Passes next := by
  refine Leads.bind (leads_roaming cursor.Reaches (.refl cursor)
    fun _ here reached => leads_get (leads_ite (fun _ => leads_pure reached)
      fun _ => leads_ite (fun _ => leads_fail _) fun _ => ?_))
    fun _ opening reached => ?_
  · exact (passes_skipHeadToken (stands.after reached.moves)).bind
      fun _ next read => leads_pure (Or.inr (reached.passes read))
  · exact (leads_skipBalanced (stands.after reached.moves)).mono
      fun _ _ read => reached.passes read

theorem passes_skipClass (stands : cursor.StandsIn text) :
    Leads skipClass cursor fun _ next => cursor.Passes next := by
  refine (leads_expectWord "class").bind fun _ announced first => ?_
  exact (passes_skipToBody (stands.after first.moves)).mono
    fun _ _ read => first.further read.moves

theorem passes_skipTypeDeclaration (stands : cursor.StandsIn text) :
    Leads skipTypeDeclaration cursor fun _ next => cursor.Passes next := by
  refine (leads_eatWord "interface").branch (fun announced first => ?_) ?_
  · refine (leads_identifier (stands.after first.moves)).passing.bind
      fun _ named second => ?_
    have passedName : cursor.Passes named := first.further second.moves
    refine (moves_skipTypeParameters (stands.after passedName.moves)).bind
      fun _ headed third => ?_
    have passedHead : cursor.Passes headed := passedName.further third
    exact (passes_skipToBody (stands.after passedHead.moves)).mono
      fun _ _ read => passedHead.further read.moves
  · refine (leads_expectWord "type").bind fun _ announced first => ?_
    refine (leads_identifier (stands.after first.moves)).passing.bind
      fun _ named second => ?_
    have passedName : cursor.Passes named := first.further second.moves
    refine (moves_skipTypeParameters (stands.after passedName.moves)).bind
      fun _ headed third => ?_
    refine (leads_expect .assign).bind fun _ assigned fourth => ?_
    have passedMark : cursor.Passes assigned :=
      (passedName.further third).further fourth.moves
    refine (reads_skipType (stands.after passedMark.moves)).leads.bind
      fun _ typed fifth => ?_
    exact leads_semicolon.mono fun _ _ last =>
      (passedMark.further fifth).further last

theorem passes_skipExportClause (stands : cursor.StandsIn text) :
    Leads skipExportClause cursor fun _ next => cursor.Passes next := by
  refine (leads_eat .times).branch (fun starred first => ?_)
    (leads_skipBalanced stands)
  refine (leads_eatWord "as").branch (fun named second => ?_) (leads_pure first)
  have passed : cursor.Passes named := first.further second.moves
  exact (leads_word (stands.after passed.moves)).passing.mono
    fun _ _ read => passed.further read.moves

theorem passes_function (spanned : nested.Spanned text)
    (stands : cursor.StandsIn text) :
    Leads (discard (function nested [] cursor.tokenStart.offset)) cursor
      fun _ next => cursor.Passes next := by
  have declares := lays_function spanned stands stands.atToken
    (.refl cursor.tokenStart) []
  exact Leads.discard (declares.mono fun _ _ outcome => outcome.1)

/-- A statement that starts with a word. -/
theorem lays_wordStatement (spanned : nested.Spanned text)
    (stands : cursor.StandsIn text) (word : String) :
    LaysForm text (wordStatement nested word cursor) cursor := by
  have skipped : ∀ {parser : Parser Unit} (kind : OtherStatement),
      (Leads parser cursor fun _ next => cursor.Passes next) →
        LaysForm text (do
          parser
          return (Statement.other kind : Placement → Statement)) cursor :=
    fun kind passes => passes.bind fun _ _ passed => leads_pure (.other kind passed)
  unfold wordStatement
  dsimp only
  refine leads_ite (fun _ => lays_declarations spanned stands _) fun _ => ?_
  refine leads_ite (fun _ => lays_declarations spanned stands _) fun _ => ?_
  refine leads_ite (fun _ => lays_declarations spanned stands _) fun _ => ?_
  refine leads_ite (fun _ => lays_branch spanned stands) fun _ => ?_
  refine leads_ite (fun _ => lays_loop spanned stands) fun _ => ?_
  refine leads_ite (fun _ => lays_result spanned stands) fun _ => ?_
  refine leads_ite (fun _ => lays_whileLoop spanned stands) fun _ => ?_
  refine leads_ite (fun _ => lays_doLoop spanned stands) fun _ => ?_
  refine leads_ite (fun _ => lays_throwing spanned stands) fun _ => ?_
  refine leads_ite (fun _ => lays_jump stands _) fun _ => ?_
  refine leads_ite (fun _ => lays_jump stands _) fun _ => ?_
  refine leads_ite (fun _ => lays_switch spanned stands) fun _ => ?_
  refine leads_ite (fun _ => lays_trying spanned stands) fun _ => ?_
  refine leads_ite (fun _ => ?_) fun _ => ?_
  · exact (leads_word stands).passing.bind fun _ _ first =>
      leads_semicolon.bind fun _ _ last =>
        leads_pure (.other _ (first.further last))
  refine leads_ite (fun _ => skipped _ (passes_function spanned stands)) fun _ => ?_
  refine leads_ite (fun _ => skipped _ (passes_skipClass stands)) fun _ => ?_
  refine leads_ite (fun _ => skipped _ (passes_skipTypeDeclaration stands))
    fun _ => ?_
  refine leads_ite (fun _ => skipped _ (passes_skipTypeDeclaration stands))
    fun _ => ?_
  refine leads_ite (fun _ => lays_enumeration stands) fun _ => ?_
  refine leads_ite (fun _ => skipped _ (passes_skipToBody stands)) fun _ => ?_
  exact leads_get (leads_ite (fun _ => lays_labeled spanned stands)
    fun _ => lays_evaluation spanned stands)

/-- A block is laid as a block in the statement, from where that starts. -/
theorem lays_statementForm (spanned : nested.Spanned text)
    (stands : cursor.StandsIn text) :
    LaysForm text (statementForm nested) cursor := by
  refine leads_get (leads_ite (fun _ => ?_) fun _ => ?_)
  · refine (lays_block spanned stands).bind fun body next lays => leads_pure
      ⟨lays.passes, fun opening placement opened moved spanned => ?_, fun _ => rfl⟩
    have sound := lays.laid.isSound _ (List.mem_singleton_self _)
    have enclosed := lays.laid.encloses _ (List.mem_singleton_self _)
    refine Laid.ofNode opened (moved.onTo lays.passes) spanned ?_ rfl
    exact sound.laidBelow.widen (Nat.le_trans moved.offset_le enclosed.1) enclosed.2
  refine (leads_eat .semicolon).branch
    (fun _ passed => leads_pure (.other _ passed)) ?_
  split
  · exact lays_wordStatement spanned stands _
  · exact lays_evaluation spanned stands

theorem lays_statement (spanned : nested.Spanned text)
    (stands : cursor.StandsIn text) :
    Leads (statement nested) cursor
      (Lays text (fun found => [.statement found]) cursor) := by
  refine leads_get ((lays_statementForm spanned stands).bind
    fun form next forms => leads_spanFrom (leads_pure ?_))
  refine .ofNode stands forms.passes rfl ?_ ?_ rfl
  · rw [Node.span, Statement.span, forms.placed]
  · exact forms.laid cursor.tokenStart _ stands.atToken (.refl _) rfl

/-! ## Items -/

/-- An import spans what has been read from its first word on. -/
def Imports (cursor : Cursor) (declared : ImportDeclaration) (next : Cursor) :
    Prop :=
  cursor.Passes next ∧ declared.span = ⟨cursor.tokenStart.offset, next.offset⟩

theorem imports_importEnd {here : Cursor} (stands : cursor.StandsIn text)
    (passed : cursor.Passes here) (specifiers : List ImportSpecifier) :
    Leads (importEnd specifiers cursor.tokenStart.offset) here
      (Imports cursor) := by
  have standsHere := stands.after passed.moves
  refine (leads_expectWord "from").bind fun _ announced first => ?_
  refine (reads_stringLiteral (standsHere.after first.moves)).leads.bind
    fun moduleName named second => ?_
  exact leads_semicolon.bind fun _ next last => leads_spanFrom (leads_pure
    ⟨passed.further (first.moves.trans (second.trans last)), rfl⟩)

theorem imports_namedImport {here : Cursor} (stands : cursor.StandsIn text)
    (passed : cursor.Passes here) :
    Leads (namedImport cursor.tokenStart.offset) here (Imports cursor) := by
  have standsHere := stands.after passed.moves
  refine leads_get (leads_ite (fun _ => ?_) fun _ => ?_)
  · refine (leads_identifier standsHere).bind fun bound read lays => ?_
    have passedName : cursor.Passes read := passed.further lays.moves
    refine (leads_eat .comma).branch (fun next separated => ?_)
      (imports_importEnd stands passedName _)
    have passedComma : cursor.Passes next :=
      passedName.further separated.moves
    exact (reads_importedNames (stands.after passedComma.moves)).leads.bind
      fun _ _ moved => imports_importEnd stands (passedComma.further moved) _
  · exact (reads_importedNames standsHere).leads.bind
      fun _ _ moved => imports_importEnd stands (passed.further moved) _

theorem imports_importDeclaration (stands : cursor.StandsIn text) :
    Leads importDeclaration cursor (Imports cursor) := by
  refine leads_tokenOffset ((leads_expectWord "import").bind
    fun _ announced first => leads_get (leads_ite (fun _ => ?_) fun _ => ?_))
  · refine (reads_stringLiteral (stands.after first.moves)).leads.bind
      fun moduleName read second => ?_
    exact leads_semicolon.bind fun _ next last => leads_spanFrom (leads_pure
      ⟨first.further (second.trans last), rfl⟩)
  · refine leads_ite (fun _ => ?_) fun _ => imports_namedImport stands first
    exact (leads_word (stands.after first.moves)).passing.bind fun _ marked second =>
      imports_namedImport stands (first.further second.moves)

theorem lays_typeItem {here : Cursor} (stands : cursor.StandsIn text)
    (reached : cursor.Reaches here) :
    Leads (typeItem cursor.tokenStart.offset) here
      (Lays text (fun found => [.item found]) cursor) := by
  refine (passes_skipTypeDeclaration (stands.after reached.moves)).bind
    fun _ next read => leads_spanFrom (leads_pure ?_)
  have passed := reached.passes read
  exact .ofNode stands passed rfl rfl (.nil passed.offset_le) rfl

/-- An exported statement stands from the word before it on. -/
theorem lays_exportedStatement {here next : Cursor}
    {form : Placement → Statement} (stands : cursor.StandsIn text)
    (reached : Moves 0 cursor.tokenStart here.tokenStart)
    (forms : Forms text here form next) (leadingNewlines : Nat) :
    Leads (exportedStatement form cursor.tokenStart.offset leadingNewlines) next
      (Lays text (fun found => [.item found]) cursor) := by
  refine leads_spanFrom (leads_pure ?_)
  have passed : cursor.Passes next := reached.onTo forms.passes
  let placement : Placement :=
    ⟨⟨cursor.tokenStart.offset, next.offset⟩, leadingNewlines⟩
  have spanned : (form placement).span = placement.span := by
    rw [Statement.span, forms.placed]
  have laid := forms.laid cursor.tokenStart placement stands.atToken reached rfl
  have whole : Laid text cursor.tokenStart.offset next.offset
      [.statement (form placement)] :=
    Laid.ofNode stands.atToken passed spanned laid rfl
  exact ⟨passed, whole.around rfl rfl rfl⟩

theorem lays_exportedItem {here : Cursor} (spanned : nested.Spanned text)
    (stands : cursor.StandsIn text) (passed : cursor.Passes here)
    (leadingNewlines : Nat) :
    Leads (exportedItem nested cursor.tokenStart.offset leadingNewlines) here
      (Lays text (fun found => [.item found]) cursor) := by
  refine (leads_eatWord "default").bind fun isDefault after first => leads_get ?_
  have announced : cursor.Passes after := passed.further first.reaches.moves
  have standsAfter := stands.after announced.moves
  have token : Moves 0 cursor.tokenStart after.tokenStart :=
    (announced.further after.moves_tokenStart).reaches
  refine leads_ite (fun _ => ?_) fun _ => ?_
  · refine (lays_function spanned standsAfter stands.atToken token _).bind
      fun declared next outcome => leads_pure ?_
    obtain ⟨read, laid⟩ := outcome
    exact ⟨token.onTo read, laid.around rfl rfl rfl⟩
  refine leads_ite (fun _ => lays_typeItem stands (Or.inr announced)) fun _ => ?_
  refine leads_ite (fun _ => ?_) fun _ => ?_
  · have named : ∀ between, after.Passes between → Leads (do
        semicolon
        exportedStatement (.other .exportDeclaration)
          cursor.tokenStart.offset leadingNewlines) between
        (Lays text (fun found => [.item found]) cursor) := by
      intro between read
      exact leads_semicolon.bind fun _ next last => lays_exportedStatement
        stands token (.other _ (read.further last)) leadingNewlines
    refine (passes_skipExportClause standsAfter).bind fun _ clause second => ?_
    refine (leads_eatWord "from").branch (fun sourced third => ?_)
      (named clause second)
    have standsSource := (standsAfter.after second.moves).after third.moves
    exact (Leads.discard (reads_stringLiteral standsSource).leads).bind
      fun _ between fourth => named between
        (second.further (third.moves.trans fourth))
  refine leads_ite (fun _ => ?_) fun _ => ?_
  · refine (spanned.assignment after standsAfter).passing.bind
      fun _ valued second => ?_
    exact leads_semicolon.bind fun _ next last => lays_exportedStatement
      stands token (.other _ (second.further last)) leadingNewlines
  · exact (lays_statementForm spanned standsAfter).bind fun form next forms =>
      lays_exportedStatement stands token forms leadingNewlines

theorem lays_item (spanned : nested.Spanned text)
    (stands : cursor.StandsIn text) :
    Leads (item nested) cursor (Lays text (fun found => [.item found]) cursor) := by
  refine leads_get (leads_ite (fun _ => ?_) fun _ => ?_)
  · refine (imports_importDeclaration stands).bind
      fun declared next outcome => leads_pure ?_
    obtain ⟨passed, spans⟩ := outcome
    exact .ofNode stands passed rfl spans (.nil passed.offset_le) rfl
  refine (leads_eatWord "export").branch
    (fun exported first => lays_exportedItem spanned stands first _) ?_
  refine leads_ite (fun _ => ?_) fun _ => ?_
  · refine (lays_function spanned stands stands.atToken
      (.refl cursor.tokenStart) _).bind fun declared next outcome => leads_pure ?_
    obtain ⟨passed, laid⟩ := outcome
    exact ⟨passed, laid.around rfl rfl rfl⟩
  refine leads_ite (fun _ => lays_typeItem stands (.refl cursor)) fun _ => ?_
  exact (lays_statement spanned stands).bind fun content next lays =>
    leads_pure ⟨lays.passes, lays.laid.around rfl rfl rfl⟩

theorem laid_items (spanned : nested.Spanned text)
    (stands : cursor.StandsIn text) :
    Leads (items nested) cursor fun found next =>
      Moves 0 cursor next ∧
        Laid text cursor.offset next.offset (found.map .item) := by
  refine leads_gathering (fun (found : List Item) here => Moves 0 cursor here ∧
      Laid text cursor.offset here.offset (found.map .item))
    ⟨.refl cursor, .nil (Nat.le_refl _)⟩ fun found here holds =>
      leads_get (leads_ite (fun _ => leads_pure holds) fun _ => ?_)
  obtain ⟨reached, laid⟩ := holds
  refine (lays_item spanned (stands.after reached)).bind
    fun source next lays => leads_pure ⟨reached.further lays.moves, ?_⟩
  rw [List.map_append]
  exact lays.behind laid

end Grammar

/-! ## Scripts -/

theorem Nested.Spanned.deeper {text : List Char} {nested : Nested}
    (spanned : nested.Spanned text) : nested.deeper.Spanned text where
  assignment _ stands := Grammar.lays_assignment spanned stands
  binary least _ stands := Grammar.lays_binary spanned stands least
  unary _ stands := Grammar.lays_unary spanned stands
  bindingName _ stands := Grammar.lays_bindingName spanned stands
  statement _ stands := Grammar.lays_statement spanned stands

/-- At whatever depth a construct is nested, it is laid where it is read. -/
theorem Nested.ofDepth_spanned (text : List Char) (depth : Nat) :
    (Nested.ofDepth depth).Spanned text := by
  induction depth with
  | zero =>
      exact ⟨fun _ _ => leads_fail _, fun _ _ _ => leads_fail _,
        fun _ _ => leads_fail _, fun _ _ => leads_fail _,
        fun _ _ => leads_fail _⟩
  | succ depth inductionHypothesis => exact inductionHypothesis.deeper

/-- A text is parsed by reading items with parsers that are deep enough. -/
theorem parse_eq_map (text : String) :
    parse text =
      (Grammar.items (Nested.ofDepth (text.toList.length + 2))
        (Cursor.ofText text)).map fun outcome => ⟨outcome.1⟩ := by
  have depth : Nested.within (Cursor.ofText text) =
      Nested.ofDepth (text.toList.length + 2) := rfl
  unfold parse
  dsimp only
  rw [depth]
  cases Grammar.items (Nested.ofDepth (text.toList.length + 2))
      (Cursor.ofText text) with
  | ok outcome => rfl
  | error error => rfl

theorem items_of_parse {text : String} {script : Module}
    (parsed : parse text = .ok script) :
    ∃ next, Grammar.items (Nested.ofDepth (text.toList.length + 2))
      (Cursor.ofText text) = .ok (script.items, next) := by
  rw [parse_eq_map] at parsed
  cases ran : Grammar.items (Nested.ofDepth (text.toList.length + 2))
      (Cursor.ofText text) with
  | ok outcome =>
      rw [ran] at parsed
      cases parsed
      exact ⟨outcome.2, rfl⟩
  | error error =>
      rw [ran] at parsed
      cases parsed

/-- In a text that is parsed, the items stand one after the other, and every
node of the script is exact: its span is not empty and lies between characters
of the text, the spans of the nodes below it lie in it one after the other, and
the text under a name or a number is the word that the node keeps. -/
theorem parsed_nodes_are_exact (source : SourceText) (script : Module)
    (parsed : parse source.text = .ok script) :
    InSourceOrder (script.items.map .item) ∧
      ∀ node, script.Has node → node.IsExact source.characters := by
  have stands : (Cursor.ofText source.text).StandsIn source.characters := .refl _
  have items := Grammar.laid_items (Nested.ofDepth_spanned source.characters
    (source.text.toList.length + 2)) stands
  obtain ⟨next, ran⟩ := items_of_parse parsed
  have laid := (items script.items next ran).2
  refine ⟨laid.inSourceOrder, fun node has => ?_⟩
  refine (has.isSound fun item member => ?_).exact
  exact laid.isSound _ (List.mem_map_of_mem member)

/-- A declaration of two names, the second one of two bytes. -/
theorem parsed_nodes_are_exact_declaration :
    ∃ script, parse "let a = 12, ä;" = .ok script ∧
      script.items.length = 1 ∧
      ∀ node, script.Has node → node.IsExact "let a = 12, ä;".toList := by
  have counted : (match parse "let a = 12, ä;" with
      | .ok script => decide (script.items.length = 1)
      | .error _ => false) = true := by
    decide +kernel
  cases ran : parse "let a = 12, ä;" with
  | error error =>
      rw [ran] at counted
      cases counted
  | ok script =>
      rw [ran] at counted
      exact ⟨script, rfl, of_decide_eq_true counted,
        (parsed_nodes_are_exact ⟨"", "let a = 12, ä;"⟩ script ran).2⟩

end VelocityScript.Script
