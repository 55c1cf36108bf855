import VelocityScript.Proofs.Script.SafeExpressions
import VelocityScript.Script.Grammar.Item

/-!
# Statements and modules are read safely

A statement can start with an expression, so it is safe only where the nested
parsers are, with nothing to spare.  Behind its first token a nested statement
is safe as well.
-/

namespace VelocityScript.Script

open Cursor (Moves)
open VelocityScript.Script.Parser

namespace Grammar

variable {text : List Char} {budget : Nat} {nested : Nested} {cursor : Cursor}

/-- A nested statement behind a token of the statement around it. -/
theorem reads_innerStatement {count : Nat} {here : Cursor}
    (safe : nested.Safe text budget) (stands : cursor.StandsIn text)
    (short : cursor.rest.length < budget) (moved : Moves (count + 1) cursor here) :
    Reads text 1 nested.statement here := by
  have length := moved.length_le
  exact safe.statement here (stands.after moved) (by omega)

/-- A condition between parentheses. -/
theorem reads_innerParenthesized {count : Nat} {here : Cursor}
    (safe : nested.Safe text budget) (stands : cursor.StandsIn text)
    (short : cursor.rest.length < budget) (moved : Moves count cursor here) :
    Reads text 1 (parenthesized nested) here := by
  have length := moved.length_le
  exact reads_parenthesized safe (stands.after moved) (by omega)

theorem reads_innerBlock {count : Nat} {here : Cursor}
    (safe : nested.Safe text budget) (stands : cursor.StandsIn text)
    (short : cursor.rest.length < budget) (moved : Moves count cursor here) :
    Reads text 1 (block nested) here := by
  have length := moved.length_le
  exact reads_block safe (stands.after moved) (by omega)

theorem reads_declaration (safe : nested.Safe text budget)
    (stands : cursor.StandsIn text) (short : cursor.rest.length ≤ budget) :
    Reads text 1 (declaration nested) cursor := by
  refine runs_tokenOffset ?_
  refine (reads_bindingName safe stands short).bind fun name named first => ?_
  refine (reads_eat .not).discard.bind fun _ marked second => ?_
  have markedMoves := first.trans second
  have standsMarked := stands.after markedMoves
  refine (runs_eat .colon).optional
    (fun next moved => reads_skipType (standsMarked.after moved))
    fun typed third => ?_
  have before := markedMoves.trans third
  refine (runs_eat .assign).branch (fun next moved => ?_) ?_
  · have assigned := before.trans moved
    have shorter := assigned.within short
    exact (safe.assignment next (stands.after assigned) (by omega)).bind
      fun _ _ read => runs_pure_bind
        (runs_spanFrom (runs_pure ((assigned.trans read).weaken (by omega))))
  · exact runs_pure_bind (runs_spanFrom (runs_pure (before.weaken (by omega))))

theorem reads_declarations (safe : nested.Safe text budget)
    (stands : cursor.StandsIn text) (short : cursor.rest.length < budget)
    (keyword : DeclarationKeyword) :
    Reads text 1 (declarations nested keyword) cursor := by
  refine (reads_word stands).discard.bind fun _ announced moved => ?_
  have length := moved.length_le
  refine (reads_declaration safe (stands.after moved) (by omega)).bind
    fun declared here read => ?_
  have passed := moved.trans read
  refine Runs.bind (reads_repeating 0 (stands.after passed)
    fun declared between standsBetween reached => ?_) fun _ next last => ?_
  · refine (runs_eat .comma).branch (fun next second => ?_)
      (runs_pure (.refl between))
    have shorter := ((passed.trans reached).trans second).length_le
    refine (reads_declaration safe (standsBetween.after second)
      (by omega)).bind fun _ final third => runs_pure ?_
    have whole := second.trans third
    exact ⟨whole.weaken (by omega), by have := whole.length_le; omega⟩
  · have whole := passed.trans last
    exact (reads_semicolon (stands.after whole)).bind fun _ _ ended =>
      runs_pure ((whole.trans ended).weaken (by omega))

theorem reads_branch (safe : nested.Safe text budget)
    (stands : cursor.StandsIn text) (short : cursor.rest.length < budget) :
    Reads text 1 (branch nested) cursor := by
  refine (reads_expectWord "if" stands).bind fun _ announced first => ?_
  refine (reads_innerParenthesized safe stands short first).bind
    fun condition tested second => ?_
  have testedMoves := first.trans second
  refine (reads_innerStatement safe stands short testedMoves).bind
    fun consequent chosen third => ?_
  have before := testedMoves.trans third
  refine (runs_eatWord "else").branch (fun other fourth => ?_) ?_
  · have otherMoves := before.trans fourth
    exact (reads_innerStatement safe stands short otherMoves).bind
      fun _ _ last => runs_pure_bind (runs_pure ((otherMoves.trans last).weaken (by omega)))
  · exact runs_pure_bind (runs_pure (before.weaken (by omega)))

/-! ## Loops -/

theorem reads_loopHeader (safe : nested.Safe text budget)
    (stands : cursor.StandsIn text) (short : cursor.rest.length ≤ budget) :
    Reads text 0 (loopHeader? nested) cursor := by
  refine runs_get (runs_ite (fun _ => ?_) fun _ => ?_)
  · refine (reads_word stands).discard.bind fun _ announced first =>
      runs_tokenOffset ?_
    have length := first.length_le
    refine (reads_bindingName safe (stands.after first) (by omega)).bind
      fun name named second => ?_
    have passed := first.trans second
    refine (runs_eat .colon).optional
      (fun next moved => reads_skipType ((stands.after passed).after moved))
      fun typed third => runs_spanFrom (runs_pure ((passed.trans third).weaken (by omega)))
  · refine runs_ite (fun _ => runs_pure (.refl cursor)) fun _ => ?_
    exact (reads_leftHandSide safe stands short).bind fun _ _ read =>
      runs_pure (read.weaken (by omega))

/-- A loop that is read again from its header on. -/
theorem runs_otherLoop {header : Cursor} (safe : nested.Safe text budget)
    (stands : header.StandsIn text) (short : header.rest.length < budget)
    (kind : OtherStatement) :
    Runs text (otherLoop nested kind header) cursor fun _ next =>
      Moves 1 header next := by
  refine runs_set ((reads_skipBalanced stands).bind fun _ headed first => ?_)
  exact (reads_innerStatement safe stands short first).discard.bind
    fun _ _ last => runs_pure ((first.trans last).weaken (by omega))

theorem reads_loop (safe : nested.Safe text budget)
    (stands : cursor.StandsIn text) (short : cursor.rest.length < budget) :
    Reads text 1 (loop nested) cursor := by
  refine (reads_expectWord "for" stands).bind fun _ announced first => ?_
  have skipped : ∀ (kind : OtherStatement) (header here : Cursor),
      Moves 1 cursor header → Runs text (otherLoop nested kind header) here
        fun _ next => Moves 1 cursor next := by
    intro kind header here moved
    have length := moved.length_le
    exact (runs_otherLoop safe (stands.after moved) (by omega) kind).mono
      fun _ _ last => (moved.trans last).weaken (by omega)
  refine (runs_eatWord "await").branch
    (fun awaited second => runs_get (skipped _ _ _ ((first.trans second).weaken (by omega))))
    (runs_get ?_)
  refine (reads_expect .openParen (stands.after first)).bind
    fun _ inside second => ?_
  have opened := first.trans second
  have length := opened.length_le
  refine (reads_loopHeader safe (stands.after opened) (by omega)).bind
    fun header headed third => ?_
  have before := opened.trans third
  cases header with
  | none => exact skipped _ _ _ first
  | some header =>
      refine (runs_eatWord "of").branch (fun named fourth => ?_)
        (runs_get (runs_ite (fun _ => skipped _ _ _ first)
          fun _ => skipped _ _ _ first))
      have namedMoves := before.trans fourth
      have shorter := namedMoves.length_le
      refine (safe.assignment named (stands.after namedMoves) (by omega)).bind
        fun iterable read fifth => ?_
      have readMoves := namedMoves.trans fifth
      refine (reads_expect .closeParen (stands.after readMoves)).bind
        fun _ closed sixth => ?_
      have closedMoves := readMoves.trans sixth
      exact (reads_innerStatement safe stands short closedMoves).bind
        fun _ _ last => runs_pure ((closedMoves.trans last).weaken (by omega))

/-! ## Other statements -/

theorem reads_result (safe : nested.Safe text budget)
    (stands : cursor.StandsIn text) (short : cursor.rest.length < budget) :
    Reads text 1 (result nested) cursor := by
  refine (reads_word stands).discard.bind fun _ announced first => runs_get ?_
  have ending : ∀ (returned : Option Expression) (here : Cursor),
      Moves 1 cursor here → Runs text (do
        semicolon
        return (Statement.result returned : Placement → Statement)) here
        fun _ next => Moves 1 cursor next := by
    intro returned here passed
    exact (reads_semicolon (stands.after passed)).bind fun _ _ last =>
      runs_pure ((passed.trans last).weaken (by omega))
  refine runs_ite (fun _ => ending none announced first) fun _ => ?_
  have length := first.length_le
  exact (reads_expression safe (stands.after first) (by omega)).bind
    fun returned here read => ending (some returned) here
      ((first.trans read).weaken (by omega))

theorem reads_whileLoop (safe : nested.Safe text budget)
    (stands : cursor.StandsIn text) (short : cursor.rest.length < budget) :
    Reads text 1 (whileLoop nested) cursor := by
  refine (reads_word stands).discard.bind fun _ announced first => ?_
  refine (reads_innerParenthesized safe stands short first).discard.bind
    fun _ tested second => ?_
  have before := first.trans second
  exact (reads_innerStatement safe stands short before).discard.bind
    fun _ _ last => runs_pure ((before.trans last).weaken (by omega))

theorem reads_doLoop (safe : nested.Safe text budget)
    (stands : cursor.StandsIn text) (short : cursor.rest.length < budget) :
    Reads text 1 (doLoop nested) cursor := by
  refine (reads_word stands).discard.bind fun _ announced first => ?_
  refine (reads_innerStatement safe stands short first).discard.bind
    fun _ bodied second => ?_
  have bodiedMoves := first.trans second
  refine (reads_expectWord "while" (stands.after bodiedMoves)).bind
    fun _ named third => ?_
  have namedMoves := bodiedMoves.trans third
  refine (reads_innerParenthesized safe stands short namedMoves).discard.bind
    fun _ tested fourth => ?_
  have before := namedMoves.trans fourth
  exact (reads_eat .semicolon).discard.bind fun _ _ last =>
    runs_pure ((before.trans last).weaken (by omega))

theorem reads_throwing (safe : nested.Safe text budget)
    (stands : cursor.StandsIn text) (short : cursor.rest.length < budget) :
    Reads text 1 (throwing nested) cursor := by
  refine (reads_word stands).discard.bind fun _ announced first => ?_
  have length := first.length_le
  refine (reads_expression safe (stands.after first) (by omega)).discard.bind
    fun _ thrown second => ?_
  have before := first.trans second
  exact (reads_semicolon (stands.after before)).bind fun _ _ last =>
    runs_pure ((before.trans last).weaken (by omega))

theorem reads_jump (stands : cursor.StandsIn text) (kind : OtherStatement) :
    Reads text 1 (jump kind) cursor := by
  refine (reads_word stands).discard.bind fun _ announced first => runs_get ?_
  refine runs_when (fun _ => ?_) fun here second => ?_
  · exact (reads_identifier (stands.after first)).discard.mono
      fun _ _ moved => moved.weaken (by omega)
  · have before := first.trans second
    exact (reads_semicolon (stands.after before)).bind fun _ _ last =>
      runs_pure ((before.trans last).weaken (by omega))

theorem reads_switch (safe : nested.Safe text budget)
    (stands : cursor.StandsIn text) (short : cursor.rest.length < budget) :
    Reads text 1 (switch nested) cursor := by
  refine (reads_word stands).discard.bind fun _ announced first => ?_
  refine (reads_innerParenthesized safe stands short first).discard.bind
    fun _ tested second => ?_
  have before := first.trans second
  exact (reads_skipBalanced (stands.after before)).bind fun _ _ last =>
    runs_pure ((before.trans last).weaken (by omega))

theorem reads_trying (safe : nested.Safe text budget)
    (stands : cursor.StandsIn text) (short : cursor.rest.length < budget) :
    Reads text 1 (trying nested) cursor := by
  have ending : ∀ here, Moves 1 cursor here → Runs text (do
      if ← eatWord "finally" then
        discard (block nested)
      return (Statement.other .try : Placement → Statement)) here
      fun _ next => Moves 1 cursor next := by
    intro here passed
    refine (runs_eatWord "finally").optional (fun next moved => ?_)
      fun next last => runs_pure ((passed.trans last).weaken (by omega))
    exact (reads_innerBlock safe stands short (passed.trans moved)).discard.mono
      fun _ _ read => read.weaken (by omega)
  refine (reads_word stands).discard.bind fun _ announced first => ?_
  refine (reads_innerBlock safe stands short first).discard.bind
    fun _ tried second => ?_
  have triedMoves := first.trans second
  refine (runs_eatWord "catch").branch (fun caught third => runs_get ?_)
    (ending tried (triedMoves.weaken (by omega)))
  have caughtMoves := triedMoves.trans third
  refine runs_when (fun _ => ?_) fun bound fourth => ?_
  · exact (reads_skipBalanced (stands.after caughtMoves)).mono
      fun _ _ moved => moved.weaken (by omega)
  · have boundMoves := caughtMoves.trans fourth
    exact (reads_innerBlock safe stands short boundMoves).discard.bind
      fun _ next last => ending next ((boundMoves.trans last).weaken (by omega))

theorem reads_enumeration (stands : cursor.StandsIn text) :
    Reads text 1 enumeration cursor := by
  refine Runs.bind ((runs_eatWord "const").mono
    fun _ _ outcome => outcome.moves).discard fun _ marked first => ?_
  refine (reads_expectWord "enum" (stands.after first)).bind
    fun _ announced second => ?_
  have announcedMoves := first.trans second
  refine (reads_identifier (stands.after announcedMoves)).discard.bind
    fun _ named third => ?_
  have before := announcedMoves.trans third
  exact (reads_skipBalanced (stands.after before)).bind fun _ _ last =>
    runs_pure ((before.trans last).weaken (by omega))

theorem reads_labeled (safe : nested.Safe text budget)
    (stands : cursor.StandsIn text) (short : cursor.rest.length < budget) :
    Reads text 1 (labeled nested) cursor := by
  refine (reads_identifier stands).discard.bind fun _ named first => ?_
  refine (reads_expect .colon (stands.after first)).bind
    fun _ marked second => ?_
  have before := first.trans second
  exact (reads_innerStatement safe stands short before).discard.bind
    fun _ _ last => runs_pure ((before.trans last).weaken (by omega))

theorem reads_evaluation (safe : nested.Safe text budget)
    (stands : cursor.StandsIn text) (short : cursor.rest.length < budget) :
    Reads text 1 (evaluation nested) cursor :=
  (reads_expression safe stands short).bind fun _ _ first =>
    (reads_semicolon (stands.after first)).bind fun _ _ last =>
      runs_pure ((first.trans last).weaken (by omega))

/-- A statement that starts with a word. -/
theorem reads_wordStatement (safe : nested.Safe text budget)
    (stands : cursor.StandsIn text) (short : cursor.rest.length < budget)
    (word : String) (seen : Cursor) :
    Reads text 1 (wordStatement nested word seen) cursor := by
  have skipped : ∀ {parser : Parser Unit} (kind : OtherStatement),
      Reads text 1 parser cursor → Reads text 1 (do
        parser
        return (Statement.other kind : Placement → Statement)) cursor :=
    fun kind reads => reads.bind fun _ _ moved => runs_pure moved
  unfold wordStatement
  dsimp only
  refine runs_ite (fun _ => reads_declarations safe stands short _) fun _ => ?_
  refine runs_ite (fun _ => reads_declarations safe stands short _) fun _ => ?_
  refine runs_ite (fun _ => reads_declarations safe stands short _) fun _ => ?_
  refine runs_ite (fun _ => reads_branch safe stands short) fun _ => ?_
  refine runs_ite (fun _ => reads_loop safe stands short) fun _ => ?_
  refine runs_ite (fun _ => reads_result safe stands short) fun _ => ?_
  refine runs_ite (fun _ => reads_whileLoop safe stands short) fun _ => ?_
  refine runs_ite (fun _ => reads_doLoop safe stands short) fun _ => ?_
  refine runs_ite (fun _ => reads_throwing safe stands short) fun _ => ?_
  refine runs_ite (fun _ => reads_jump stands _) fun _ => ?_
  refine runs_ite (fun _ => reads_jump stands _) fun _ => ?_
  refine runs_ite (fun _ => reads_switch safe stands short) fun _ => ?_
  refine runs_ite (fun _ => reads_trying safe stands short) fun _ => ?_
  refine runs_ite (fun _ => ?_) fun _ => ?_
  · exact (reads_word stands).discard.bind fun _ _ first =>
      (reads_semicolon (stands.after first)).bind fun _ _ last =>
        runs_pure ((first.trans last).weaken (by omega))
  refine runs_ite (fun _ => skipped _ (reads_function safe stands
    (Nat.le_of_lt short) [] _).discard) fun _ => ?_
  refine runs_ite (fun _ => skipped _ (reads_skipClass stands)) fun _ => ?_
  refine runs_ite (fun _ => skipped _ (reads_skipTypeDeclaration stands))
    fun _ => ?_
  refine runs_ite (fun _ => skipped _ (reads_skipTypeDeclaration stands))
    fun _ => ?_
  refine runs_ite (fun _ => reads_enumeration stands) fun _ => ?_
  refine runs_ite (fun _ => skipped _ (reads_skipToBody stands)) fun _ => ?_
  exact runs_get (runs_ite (fun _ => reads_labeled safe stands short)
    fun _ => reads_evaluation safe stands short)

theorem reads_statementForm (safe : nested.Safe text budget)
    (stands : cursor.StandsIn text) (short : cursor.rest.length < budget) :
    Reads text 1 (statementForm nested) cursor := by
  refine runs_get (runs_ite (fun _ => ?_) fun _ => ?_)
  · exact (reads_block safe stands short).bind fun _ _ read => runs_pure read
  refine (runs_eat .semicolon).branch (fun _ moved => runs_pure moved) ?_
  split
  · exact reads_wordStatement safe stands short _ _
  · exact reads_evaluation safe stands short

theorem reads_statement (safe : nested.Safe text budget)
    (stands : cursor.StandsIn text) (short : cursor.rest.length < budget) :
    Reads text 1 (statement nested) cursor :=
  runs_get ((reads_statementForm safe stands short).bind fun _ _ read =>
    runs_spanFrom (runs_pure read))

/-! ## Modules -/

theorem reads_importEnd (stands : cursor.StandsIn text)
    (specifiers : List ImportSpecifier) (start : Nat) :
    Reads text 1 (importEnd specifiers start) cursor := by
  refine (reads_expectWord "from" stands).bind fun _ announced first => ?_
  refine (reads_stringLiteral (stands.after first)).bind
    fun moduleName named second => ?_
  have before := first.trans second
  exact (reads_semicolon (stands.after before)).bind fun _ _ last =>
    runs_spanFrom (runs_pure ((before.trans last).weaken (by omega)))

theorem reads_importSpecifier (stands : cursor.StandsIn text) :
    Reads text 1 importSpecifier cursor := by
  refine runs_get (runs_when (fun _ => ?_) fun marked first => ?_)
  · exact (reads_word stands).discard.mono fun _ _ moved => moved.weaken (by omega)
  refine (reads_word (stands.after first)).bind fun imported named second => ?_
  have before := first.trans second
  refine (runs_eatWord "as").branch (fun bound third => ?_)
    (runs_pure (before.weaken (by omega)))
  have boundMoves := before.trans third
  exact (reads_identifier (stands.after boundMoves)).bind fun _ _ last =>
    runs_pure ((boundMoves.trans last).weaken (by omega))

theorem reads_importedNames (stands : cursor.StandsIn text) :
    Reads text 0 importedNames cursor := by
  refine (runs_eat .times).branch (fun starred first => ?_) ?_
  · refine (reads_expectWord "as" (stands.after first)).bind
      fun _ announced second => ?_
    have before := first.trans second
    exact (reads_identifier (stands.after before)).bind fun _ _ last =>
      runs_pure ((before.trans last).weaken (by omega))
  · refine (runs_eat .openBrace).branch (fun inside opened => ?_)
      (runs_pure (.refl cursor))
    exact (reads_commaSeparated (stands.after opened)
      fun here standsHere _ => reads_importSpecifier standsHere).sinceAny opened (by omega)

theorem reads_importDeclaration (stands : cursor.StandsIn text) :
    Reads text 1 importDeclaration cursor := by
  refine runs_tokenOffset ?_
  refine (reads_expectWord "import" stands).bind fun _ announced first =>
    runs_get (runs_ite (fun _ => ?_) fun _ => ?_)
  · refine (reads_stringLiteral (stands.after first)).bind
      fun moduleName named second => ?_
    have before := first.trans second
    exact (reads_semicolon (stands.after before)).bind fun _ _ last =>
      runs_spanFrom (runs_pure ((before.trans last).weaken (by omega)))
  refine runs_when (fun _ => ?_) fun marked second => runs_get ?_
  · exact (reads_word (stands.after first)).discard.mono
      fun _ _ moved => moved.weaken (by omega)
  have markedMoves := first.trans second
  refine runs_ite (fun _ => ?_) fun _ => ?_
  · refine (reads_identifier (stands.after markedMoves)).bind
      fun bound named third => ?_
    have namedMoves := markedMoves.trans third
    refine (runs_eat .comma).branch (fun separated fourth => ?_) ?_
    · have before := namedMoves.trans fourth
      refine (reads_importedNames (stands.after before)).bind
        fun others here last => ?_
      have whole := before.trans last
      exact (reads_importEnd (stands.after whole) _ _).sinceAny whole (by omega)
    · exact (reads_importEnd (stands.after namedMoves) _ _).sinceAny namedMoves (by omega)
  · refine (reads_importedNames (stands.after markedMoves)).bind
      fun names here last => ?_
    have whole := markedMoves.trans last
    exact (reads_importEnd (stands.after whole) _ _).since whole

theorem reads_typeItem (stands : cursor.StandsIn text) (start : Nat) :
    Reads text 1 (typeItem start) cursor :=
  (reads_skipTypeDeclaration stands).bind fun _ _ read =>
    runs_spanFrom (runs_pure read)

theorem reads_exportedStatement (form : Placement → Statement)
    (start leadingNewlines : Nat) :
    Reads text 0 (exportedStatement form start leadingNewlines) cursor :=
  runs_spanFrom (runs_pure (.refl cursor))

theorem reads_exportedItem (safe : nested.Safe text budget)
    (stands : cursor.StandsIn text) (short : cursor.rest.length < budget)
    (start leadingNewlines : Nat) :
    Reads text 0 (exportedItem nested start leadingNewlines) cursor := by
  refine Runs.bind ((runs_eatWord "default").mono
    fun _ _ outcome => outcome.moves) fun isDefault here first => runs_get ?_
  have standsHere := stands.after first
  have length := first.length_le
  have shorter : here.rest.length < budget := by omega
  refine runs_ite (fun _ => ?_) fun _ => ?_
  · exact (reads_function safe standsHere (Nat.le_of_lt shorter) _ start).bind
      fun _ _ read => runs_pure ((first.trans read).weaken (by omega))
  refine runs_ite (fun _ => ?_) fun _ => ?_
  · exact (reads_typeItem standsHere start).since first
  refine runs_ite (fun _ => ?_) fun _ => ?_
  · refine (reads_skipExportClause standsHere).bind fun _ named second => ?_
    have namedMoves := first.trans second
    refine (runs_eatWord "from").optional (fun next moved => ?_)
      fun sourced third => ?_
    · exact (reads_stringLiteral
        ((stands.after namedMoves).after moved)).discard.mono
          fun _ _ read => read.weaken (by omega)
    · have before := namedMoves.trans third
      exact (reads_semicolon (stands.after before)).bind fun _ _ last =>
        (reads_exportedStatement _ _ _).sinceAny (before.trans last) (by omega)
  refine runs_ite (fun _ => ?_) fun _ => ?_
  · refine (safe.assignment here standsHere shorter).discard.bind
      fun _ valued second => ?_
    have before := first.trans second
    exact (reads_semicolon (stands.after before)).bind fun _ _ last =>
      (reads_exportedStatement _ _ _).sinceAny (before.trans last) (by omega)
  · exact (reads_statementForm safe standsHere shorter).bind
      fun _ _ read => (reads_exportedStatement _ _ _).sinceAny (first.trans read) (by omega)

theorem reads_item (safe : nested.Safe text budget)
    (stands : cursor.StandsIn text) (short : cursor.rest.length < budget) :
    Reads text 1 (item nested) cursor := by
  refine runs_get (runs_ite (fun _ => ?_) fun _ => ?_)
  · exact (reads_importDeclaration stands).bind fun _ _ read => runs_pure read
  refine (runs_eatWord "export").branch (fun exported first => ?_) ?_
  · have length := first.length_le
    exact (reads_exportedItem safe (stands.after first) (by omega) _ _).since
      first
  refine runs_ite (fun _ => ?_) fun _ => ?_
  · exact (reads_function safe stands (Nat.le_of_lt short) [] _).bind
      fun _ _ read => runs_pure read
  refine runs_ite (fun _ => reads_typeItem stands _) fun _ => ?_
  exact (reads_statement safe stands short).bind fun _ _ read => runs_pure read

theorem reads_items (safe : nested.Safe text budget)
    (stands : cursor.StandsIn text) (short : cursor.rest.length < budget) :
    Reads text 0 (items nested) cursor := by
  refine reads_repeating 0 stands fun read here standsHere reached =>
    runs_get (runs_ite (fun _ => runs_pure (.refl here)) fun _ => ?_)
  have length := reached.length_le
  exact (reads_item safe standsHere (by omega)).bind fun _ _ moved =>
    runs_pure ⟨moved.weaken (by omega), moved.length_le⟩

end Grammar

/-! ## Depths -/

theorem Nested.Safe.deeper {text : List Char} {budget : Nat} {nested : Nested}
    (safe : nested.Safe text budget) : nested.deeper.Safe text (budget + 1) where
  assignment _ stands short :=
    Grammar.reads_assignment safe stands (Nat.le_of_lt_succ short)
  binary least _ stands short :=
    Grammar.reads_binary safe stands (Nat.le_of_lt_succ short) least
  unary _ stands short :=
    Grammar.reads_unary safe stands (Nat.le_of_lt_succ short)
  bindingName _ stands short :=
    Grammar.reads_bindingName safe stands (Nat.le_of_lt_succ short)
  statement _ stands short :=
    Grammar.reads_statement safe stands (Nat.lt_of_succ_lt_succ short)

/-- Nested parsers are safe where fewer characters are left than their depth
counts. -/
theorem Nested.ofDepth_safe (text : List Char) (depth : Nat) :
    (Nested.ofDepth depth).Safe text depth := by
  induction depth with
  | zero =>
      exact ⟨fun _ _ short => (Nat.not_lt_zero _ short).elim,
        fun _ _ _ short => (Nat.not_lt_zero _ short).elim,
        fun _ _ short => (Nat.not_lt_zero _ short).elim,
        fun _ _ short => (Nat.not_lt_zero _ short).elim,
        fun _ _ short => (Nat.not_lt_zero _ short).elim⟩
  | succ depth inductionHypothesis => exact inductionHypothesis.deeper

end VelocityScript.Script
