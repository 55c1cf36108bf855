import VelocityScript.Proofs.Script.SpannedFunctions
import VelocityScript.Script.Grammar.Expression

/-!
# The spans of expressions
-/

namespace VelocityScript.Script

open Cursor (Moves)
open VelocityScript.Script.Parser

/-! ## Numbers -/

/-- The second cursor is reached over the given characters. -/
structure Cursor.Over (word : List Char) (cursor next : Cursor) : Prop where
  split : cursor.rest = word ++ next.rest
  counted : next.offset = cursor.offset + byteLength word

namespace Cursor.Over

variable {word others : List Char} {cursor here next : Cursor}

theorem refl (cursor : Cursor) : cursor.Over [] cursor :=
  ⟨rfl, rfl⟩

theorem trans (first : Over word cursor here) (second : Over others here next) :
    Over (word ++ others) cursor next := by
  refine ⟨?_, ?_⟩
  · rw [List.append_assoc, ← second.split]
    exact first.split
  · rw [second.counted, first.counted, byteLength_append, Nat.add_assoc]

theorem advance (front : word <+: cursor.rest) :
    Over word cursor (cursor.advance word.length) := by
  refine ⟨(List.prefix_iff_eq_append.mp front).symm, ?_⟩
  rw [Cursor.advance, ← List.prefix_iff_eq_take.mp front]

end Cursor.Over

namespace Parser

variable {text : List Char} {cursor : Cursor}

theorem leads_takeRun (condition : Char → Bool) :
    Leads (takeRun condition) cursor fun run next => cursor.Over run next :=
  leads_get (leads_set (leads_pure (.advance (List.takeWhile_prefix condition))))

theorem leads_eatCharacter (character : Char) :
    Leads (eatCharacter character) cursor fun taken next =>
      cursor.Over (if taken = true then [character] else []) next := by
  refine leads_get (leads_ite (fun seen => ?_) fun _ => leads_pure (.refl cursor))
  cases standing : cursor.rest with
  | nil =>
      rw [standing] at seen
      cases seen
  | cons first others =>
      rw [standing] at seen
      have same : first = character := Option.some.inj seen
      have front : [character] <+: cursor.rest := by
        rw [standing, same]
        exact ⟨others, rfl⟩
      intro taken next ran
      cases ran
      exact .advance front

theorem leads_fractionDigits :
    Leads fractionDigits cursor fun digits next => cursor.Over digits next := by
  refine (leads_eatCharacter '.').bind fun taken here point => ?_
  cases taken with
  | true => exact (leads_takeRun _).bind fun run next more =>
      leads_pure (point.trans more)
  | false => exact leads_pure point

theorem take_one_filter_isPrefix (condition : Char → Bool) (rest : List Char) :
    (rest.take 1).filter condition <+: rest := by
  cases rest with
  | nil => exact List.nil_prefix
  | cons first others =>
      have one : (first :: others).take 1 = [first] := rfl
      rw [one]
      by_cases holds : condition first = true
      · rw [List.filter_cons_of_pos holds]
        exact ⟨others, rfl⟩
      · rw [List.filter_cons_of_neg holds]
        exact List.nil_prefix

theorem leads_exponentDigits (start : Nat) :
    Leads (exponentDigits start) cursor fun digits next =>
      cursor.Over digits next := by
  refine leads_get ?_
  split
  · next mark rest standing =>
      refine leads_ite (fun _ => ?_) fun _ => leads_pure (.refl cursor)
      have front : [mark] <+: cursor.rest := by
        rw [standing]
        exact ⟨rest, rfl⟩
      have marked : cursor.Over [mark] (cursor.advance 1) := .advance front
      have behind : (cursor.advance 1).rest = rest := by
        rw [Cursor.advance, standing, List.drop_one, List.tail_cons]
      refine leads_skip (leads_skip ?_)
      refine (leads_takeRun isDigitOrSeparator).bind fun run final more => ?_
      refine leads_ite (fun _ => leads_spanFrom (leads_failAt _ _))
        fun _ => leads_pure ?_
      refine marked.trans (Cursor.Over.trans (.advance ?_) more)
      rw [behind]
      exact take_one_filter_isPrefix _ rest
  · exact leads_pure (.refl cursor)

theorem leads_numberEnd {digits : List Char} {here : Cursor} (start : Nat)
    (covered : cursor.Over digits here) :
    Leads (numberEnd start digits) here
      fun token next => cursor.Over token.text.toList next := by
  have plain : cursor.Over (String.ofList digits).toList here := by
    rw [String.toList_ofList]
    exact covered
  refine (leads_eatCharacter 'n').bind fun taken next mark => ?_
  cases taken with
  | true =>
      refine leads_pure ?_
      rw [String.toList_ofList]
      exact covered.trans mark
  | false =>
      have same : cursor.Over (String.ofList digits).toList next := by
        have whole := plain.trans mark
        rw [if_neg Bool.false_ne_true, List.append_nil] at whole
        exact whole
      refine leads_get ?_
      split
      · exact leads_ite (fun _ => leads_failAt _ _) fun _ => leads_pure same
      · exact leads_pure same

/-- A number keeps the text that is passed. -/
theorem leads_number :
    Leads number cursor fun token next => cursor.Over token.text.toList next := by
  refine leads_get (leads_ite (fun radix => ?_) fun _ => ?_)
  · refine leads_skip ((leads_takeRun _).bind fun run final more => ?_)
    have marked : cursor.Over (cursor.rest.take 2) (cursor.advance 2) :=
      ⟨(List.take_append_drop 2 cursor.rest).symm, rfl⟩
    exact leads_numberEnd _ (marked.trans more)
  · refine (leads_takeRun _).bind fun whole here first => ?_
    refine leads_fractionDigits.bind fun fraction between second => ?_
    refine (leads_exponentDigits _).bind fun exponent next third => ?_
    exact leads_numberEnd _ ((first.trans second).trans third)

end Parser

namespace Grammar

variable {text : List Char} {nested : Nested} {cursor : Cursor}

/-! ## Operands -/

/-- Expressions between the pieces of a template literal. -/
theorem lays_templateParts (spanned : nested.Spanned text)
    (stands : cursor.StandsIn text) :
    Leads (templateParts nested) cursor fun found next =>
      Moves 1 cursor next ∧
        Laid text cursor.offset next.offset (Node.ofParts found.2) := by
  refine leads_get ?_
  have eats : Runs text (eatCharacter '\x60') cursor (Taken cursor) :=
    runs_eatCharacter '\x60'
  have opening : Leads (eatCharacter '\x60') cursor (Taken cursor) := eats.leads
  refine opening.bind fun taken inside outcome => ?_
  cases taken with
  | false => exact leads_fail _
  | true =>
  have opened : Moves 1 cursor inside := outcome
  have openedAt := stands.opened.after opened
  refine (reads_templateText (stands.after opened) openedAt).leads.bind
    fun headed here read => ?_
  obtain ⟨head, stop⟩ := headed
  have entered := opened.further read
  let holds (parts : List TemplatePart) (next : Cursor) : Prop :=
    Moves 1 cursor next ∧ Laid text cursor.offset next.offset (Node.ofParts parts)
  refine Leads.bind (show Leads _ here holds from
    leads_repeating (fun state between => holds state.1 between)
      ⟨entered, .nil entered.offset_le⟩ fun state between held => ?_)
    fun parts next held => leads_pure held
  obtain ⟨parts, stop⟩ := state
  obtain ⟨moved, laid⟩ := held
  cases stop with
  | closed => exact leads_pure ⟨moved, laid⟩
  | interpolation =>
      refine (lays_expression spanned (stands.after moved)).bind
        fun interpolated read lays => ?_
      have movedRead := moved.further lays.moves
      refine (leads_expect .closeBrace).bind fun _ braced closed => ?_
      have movedBraced := movedRead.further closed.moves
      refine (reads_templateText (stands.after movedBraced)
        (stands.opened.after movedBraced)).leads.bind
          fun following next last => leads_pure ?_
      refine ⟨movedBraced.further last, ?_⟩
      have longer := ((lays.behind laid).until closed.moves).until last
      rw [Node.ofParts, List.map_append]
      exact longer

theorem lays_spreadable (spanned : nested.Spanned text)
    (stands : cursor.StandsIn text) :
    LaysExpression text (spreadable nested) cursor := by
  refine leads_tokenOffset ?_
  refine (leads_eat .ellipsis).branch (fun next passed => ?_)
    (spanned.assignment cursor stands)
  refine (spanned.assignment next (stands.after passed.moves)).passing.bind
    fun _ final read => ?_
  exact leads_otherExpression stands (passed.further read.moves)

theorem lays_arguments (spanned : nested.Spanned text)
    (stands : cursor.StandsIn text) :
    Leads (arguments nested) cursor
      (Lays text (fun found => found.map .expression) cursor) :=
  leads_enclosed stands fun _ standsHere => lays_spreadable spanned standsHere

/-- A missing element is laid under the comma after it. -/
theorem lays_arrayElements (spanned : nested.Spanned text)
    (stands : cursor.StandsIn text) :
    Leads (arrayElements nested) cursor
      (Lays text (fun found => found.map .expression) cursor) := by
  have hole : ∀ here next : Cursor, here.StandsIn text → here.Passes next →
      Leads (otherExpression .omitted here.tokenStart.offset) next
        fun result final => Moves 0 next final ∧
          Laid text here.tokenStart.offset final.offset [.expression result] := by
    intro here next standsHere passed
    exact leads_spanFrom (leads_pure ⟨.refl next,
      .ofNode standsHere.atToken passed rfl (.nil passed.offset_le) rfl⟩)
  refine (leads_expect .openBracket).bind fun _ inside opened => ?_
  refine (leads_commaSeparatedOrHoles (stands.after opened.moves) hole
    fun here standsHere => lays_spreadable spanned standsHere).mono
      fun found next outcome => ?_
  obtain ⟨closed, laid⟩ := outcome
  rw [← List.map_eq_flatMap] at laid
  exact ⟨opened.further closed, laid.widen opened.offset_le (Nat.le_refl _)⟩

/-! ## Members of objects -/

theorem lays_otherMember {next : Cursor} (kind : OtherMember)
    (stands : cursor.StandsIn text) (passes : cursor.Passes next) :
    Leads (otherMember kind cursor.tokenStart.offset) next
      (Lays text (fun found => [.member found]) cursor) :=
  leads_spanFrom (leads_pure
    (.ofNode stands passes rfl rfl (.nil passes.offset_le) rfl))

theorem lays_methodMember {here : Cursor} (spanned : nested.Spanned text)
    (kind : OtherMember) (stands : cursor.StandsIn text)
    (reached : cursor.Reaches here) :
    Leads (methodMember nested kind cursor.tokenStart.offset) here
      (Lays text (fun found => [.member found]) cursor) := by
  have standsHere := stands.after reached.moves
  refine (lays_propertyName spanned standsHere).passing.bind
    fun _ named first => ?_
  refine (passes_skipMethod spanned (standsHere.after first.moves)).bind
    fun _ next second => ?_
  exact lays_otherMember kind stands ((reached.passes first).further second)

theorem lays_namedMember (spanned : nested.Spanned text)
    (stands : cursor.StandsIn text) :
    Leads (namedMember nested cursor.tokenStart.offset) cursor
      (Lays text (fun found => [.member found]) cursor) := by
  refine (lays_propertyName spanned stands).bind fun name here lays => ?_
  have standsHere := stands.after lays.moves
  refine (leads_eat .colon).branch (fun next passed => ?_) ?_
  · have moved := lays.passes.further passed.moves
    refine (spanned.assignment next (standsHere.after passed.moves)).bind
      fun value final last => leads_spanFrom (leads_pure ?_)
    exact .ofNode stands (moved.further last.moves) rfl rfl
      (last.behind (lays.laid.until passed.moves)) rfl
  refine leads_get (leads_ite (fun _ => ?_) fun _ => ?_)
  · exact (passes_skipMethod spanned standsHere).bind fun _ next second =>
      lays_otherMember .method stands (lays.passes.further second)
  split
  · refine (leads_eat .assign).branch (fun next passed => ?_) (leads_pure ?_)
    · have moved := lays.passes.further passed.moves
      exact (spanned.assignment next (standsHere.after passed.moves)).passing.bind
        fun _ final read => lays_otherMember _ stands (moved.further read.moves)
    · exact ⟨lays.passes, (lays_keyName lays).laid.around rfl rfl rfl⟩
  · exact leads_failAt _ _

theorem lays_objectMember (spanned : nested.Spanned text)
    (stands : cursor.StandsIn text) :
    Leads (objectMember nested) cursor
      (Lays text (fun found => [.member found]) cursor) := by
  refine leads_tokenOffset ?_
  refine (leads_eat .ellipsis).branch (fun next passed => ?_) (leads_get ?_)
  · exact (spanned.assignment next (stands.after passed.moves)).passing.bind
      fun _ final read => lays_otherMember _ stands (passed.further read.moves)
  split
  · refine (leads_word stands).passing.bind fun _ announced first => ?_
    have starring : Leads (discard (eat .times)) announced fun _ next =>
        announced.Reaches next :=
      Leads.discard ((leads_eat .times).mono fun _ _ outcome => outcome.reaches)
    refine starring.bind fun _ starred second => ?_
    exact lays_methodMember spanned _ stands (Or.inr (first.further second.moves))
  · exact (leads_eat .times).branch
      (fun starred passed => lays_methodMember spanned _ stands (Or.inr passed))
      (lays_namedMember spanned stands)

theorem lays_objectMembers (spanned : nested.Spanned text)
    (stands : cursor.StandsIn text) :
    Leads (objectMembers nested) cursor
      (Lays text (fun found => found.map .member) cursor) :=
  leads_enclosed stands fun _ standsHere => lays_objectMember spanned standsHere

/-! ## Primary expressions -/

/-- A word as an expression, at the start of its token. -/
theorem lays_wordExpression {first : Char} {others : List Char}
    (spanned : nested.Spanned text) (stands : cursor.StandsIn text)
    (standing : cursor.tokenStart.rest = first :: others) (word : String) :
    Leads (wordExpression nested word cursor.tokenStart.offset)
      cursor.tokenStart
      (Lays text (fun found => [.expression found]) cursor) := by
  have standsToken := stands.atToken
  have literal : ∀ (build : Span → Expression) (count : Nat),
      (∀ span, (build span).span = span) →
      (∀ span, (build span).children = []) →
      (∀ span, (Node.expression (build span)).word? = none) →
      Leads (do skip (count + 1); return build (← spanFrom cursor.tokenStart.offset))
        cursor.tokenStart
        (Lays text (fun found => [.expression found]) cursor) := by
    intro build count spanned childless wordless
    refine (leads_skip_of_cons count standing).bind fun _ next passed =>
      leads_spanFrom (leads_pure ?_)
    refine .ofNode stands passed rfl (spanned _) ?_ (wordless _)
    rw [Node.children, childless]
    exact .nil passed.offset_le
  have same : ∀ span : Span, span = span := fun _ => rfl
  unfold wordExpression
  refine leads_ite (fun _ => literal _ 3 same (fun _ => rfl) fun _ => rfl) fun _ => ?_
  refine leads_ite (fun _ => literal _ 3 same (fun _ => rfl) fun _ => rfl) fun _ => ?_
  refine leads_ite (fun _ => literal _ 4 same (fun _ => rfl) fun _ => rfl) fun _ => ?_
  refine leads_ite (fun _ => literal _ 3 same (fun _ => rfl) fun _ => rfl) fun _ => ?_
  refine leads_ite (fun _ => literal _ 4 same (fun _ => rfl) fun _ => rfl) fun _ => ?_
  refine leads_ite (fun _ => ?_) fun _ => leads_ite (fun _ => ?_) fun _ => ?_
  · have declares := lays_function spanned standsToken standsToken
      cursor.tokenStart.moves_tokenStart []
    have passing : Leads (discard (function nested [] cursor.tokenStart.offset))
        cursor.tokenStart fun _ next => cursor.tokenStart.Passes next :=
      Leads.discard (declares.mono fun _ _ outcome => outcome.1)
    exact passing.bind fun _ next passed =>
      leads_otherExpression stands passed.moves
  · exact (reads_skipClass standsToken).leads.bind fun _ next passed =>
      leads_otherExpression stands passed
  · refine (leads_identifier standsToken).bind fun named next lays => leads_pure ?_
    exact ⟨lays.moves, lays.laidFrom.around rfl rfl rfl⟩

theorem lays_primary (spanned : nested.Spanned text)
    (stands : cursor.StandsIn text) : LaysExpression text (primary nested) cursor := by
  refine leads_skipTrivia (leads_get ?_)
  have standsToken := stands.atToken
  dsimp only
  split
  · exact leads_fail _
  next character others standing =>
  refine leads_ite (fun starts => ?_) fun _ => ?_
  · rw [standing] at starts
    have read := reads_number standsToken standing (startsNumber_cons starts)
    refine (read.leads.and leads_number).bind fun token next outcome => ?_
    obtain ⟨passed, covered⟩ := outcome
    refine leads_ite (fun _ => leads_otherExpression stands passed)
      fun _ => leads_spanFrom (leads_pure ⟨passed, ?_⟩)
    refine .single (Nat.le_refl _) ?_ (Nat.le_refl _)
    refine Node.isSound_of_laid standsToken passed rfl (.nil passed.offset_le)
      fun kept same => ?_
    have digits : token.text = kept := Option.some.inj same
    rw [← digits]
    exact standsToken.excerpt covered.split covered.counted
  refine leads_ite (fun _ => ?_) fun _ => ?_
  · exact (reads_stringLiteral standsToken).leads.bind fun _ next passed =>
      leads_spanFrom (leads_pure
        (.ofNode stands passed rfl rfl (.nil passed.offset_le) rfl))
  refine leads_ite (fun _ => ?_) fun _ => ?_
  · refine (lays_templateParts spanned standsToken).bind
      fun found next outcome => leads_spanFrom (leads_pure ?_)
    obtain ⟨passed, laid⟩ := outcome
    exact .ofNode stands passed rfl rfl laid rfl
  refine leads_ite (fun _ => ?_) fun _ => ?_
  · refine (leads_skip_of_cons 0 standing).bind fun _ inside opened => ?_
    refine (lays_expression spanned (standsToken.after opened)).bind
      fun inner here lays => ?_
    refine (leads_expect .closeParen).bind fun _ next closed =>
      leads_spanFrom (leads_pure ?_)
    have passed := (opened.further lays.moves).further closed.moves
    exact .ofNode stands passed rfl rfl
      (lays.laidFrom.widen opened.offset_le closed.moves.offset_le) rfl
  refine leads_ite (fun _ => ?_) fun _ => ?_
  · exact (lays_arrayElements spanned standsToken).bind fun _ next lays =>
      leads_spanFrom (leads_pure
        (.ofNode stands lays.moves rfl rfl lays.laidFrom rfl))
  refine leads_ite (fun _ => ?_) fun _ => ?_
  · exact (lays_objectMembers spanned standsToken).bind fun _ next lays =>
      leads_spanFrom (leads_pure
        (.ofNode stands lays.moves rfl rfl lays.laidFrom rfl))
  refine leads_ite (fun slash => ?_) fun _ => ?_
  · subst slash
    exact (reads_skipRegularExpression standsToken standing).leads.bind
      fun _ next passed => leads_otherExpression stands passed
  split
  · exact lays_wordExpression spanned stands standing _
  · exact leads_fail _

/-! ## Access chains -/

theorem leads_eatOptionalDot :
    Leads eatOptionalDot cursor (Decides cursor) := by
  refine leads_get (leads_ite (fun seen => ?_) fun _ => leads_pure rfl)
  refine leads_ite (fun _ => ?_) fun _ => leads_pure rfl
  have front := Punctuator.atFront?_isPrefix (eq_of_beq seen)
  exact leads_set (leads_pure
    (Cursor.moves_of_isPrefix front (Punctuator.characters_ne_nil .optionalDot)))

theorem leads_eatMemberDot : Leads eatMemberDot cursor (Decides cursor) :=
  (leads_eat .dot).branch (fun _ passed => leads_pure passed) leads_eatOptionalDot

theorem leads_eatIndexOpening :
    Leads eatIndexOpening cursor fun _ next => Moves 0 cursor next :=
  (leads_eat .optionalDot).branch (fun _ passed => leads_pure passed.moves.reaches)
    (leads_get (leads_pure (.refl cursor)))

/-- What is created is not kept. -/
theorem lays_newObject {here : Cursor} (spanned : nested.Spanned text)
    (stands : cursor.StandsIn text) (announced : cursor.Passes here) :
    Leads (newObject nested cursor.tokenStart.offset) here
      (Lays text (fun found => [.expression found]) cursor) := by
  have standsHere := stands.after announced.moves
  refine (leads_eat .dot).branch (fun next passed => ?_) ?_
  · exact (leads_word (standsHere.after passed.moves)).passing.bind
      fun _ final read => leads_otherExpression stands
        (announced.further (passed.moves.trans read.moves))
  refine (lays_primary spanned standsHere).passing.bind fun _ based first => ?_
  have passedBase := announced.further first.moves
  refine Leads.bind (leads_roaming cursor.Passes passedBase
    fun _ between passed => ?_) fun _ named passed => leads_get ?_
  · refine (leads_eat .dot).branch (fun next dotted => ?_) (leads_pure passed)
    have passedDot : cursor.Passes next := passed.further dotted.moves
    exact (leads_word (stands.after passedDot.moves)).passing.bind
      fun _ final read => leads_pure (passedDot.further read.moves)
  refine leads_ite (fun _ => ?_) fun _ => leads_otherExpression stands passed
  exact (lays_arguments spanned (stands.after passed.moves)).passing.bind
    fun _ next read => leads_otherExpression stands (passed.further read.moves)

theorem lays_callStep {here : Cursor} {base : Expression}
    (spanned : nested.Spanned text) (stands : cursor.StandsIn text)
    (lays : Lays text (fun found => [.expression found]) cursor base here) :
    Leads (callStep nested cursor.tokenStart.offset base) here
      (Round.Satisfies (Lays text (fun found => [.expression found]) cursor)
        (Lays text (fun found => [.expression found]) cursor)) := by
  refine (lays_arguments spanned (stands.after lays.moves)).bind
    fun arguments next last => leads_spanFrom (leads_pure ?_)
  exact .ofNode stands (lays.passes.further last.moves) rfl rfl
    (last.behind lays.laid) rfl

/-- A step of an access chain lays a node around the chain so far. -/
theorem lays_accessStep {here : Cursor} {base : Expression}
    (spanned : nested.Spanned text) (stands : cursor.StandsIn text)
    (lays : Lays text (fun found => [.expression found]) cursor base here) :
    Leads (accessStep nested cursor.tokenStart.offset base) here
      (Round.Satisfies (Lays text (fun found => [.expression found]) cursor)
        (Lays text (fun found => [.expression found]) cursor)) := by
  refine leads_eatMemberDot.branch (fun dotted first => ?_) ?_
  · refine (leads_eat .hash).bind fun isPrivate hashed second => ?_
    have laysHash := (lays.further first.moves).further second.reaches.moves
    refine (leads_word (stands.after laysHash.moves)).bind
      fun property next last => leads_spanFrom (leads_pure ?_)
    exact .ofNode stands (laysHash.passes.further last.moves) rfl rfl
      (last.behind laysHash.laid) rfl
  refine leads_eatIndexOpening.bind fun indexed opening reached => ?_
  have laysOpening := lays.further reached
  have called := lays_callStep spanned stands laysOpening
  refine leads_ite (fun _ => leads_get (leads_ite (fun _ => called) fun _ => ?_))
    fun _ => leads_get ?_
  · refine (leads_expect .openBracket).bind fun _ inside opened => ?_
    have laysInside := laysOpening.further opened.moves
    refine (lays_expression spanned (stands.after laysInside.moves)).bind
      fun subscript read last => ?_
    refine (leads_expect .closeBracket).bind fun _ next closed =>
      leads_spanFrom (leads_pure ?_)
    have passed := (laysInside.passes.further last.moves).further closed.moves
    exact .ofNode stands passed rfl rfl
      ((last.behind laysInside.laid).until closed.moves) rfl
  refine leads_ite (fun _ => called) fun _ => ?_
  refine leads_ite (fun _ => ?_) fun _ => ?_
  · exact (leads_expect .not).bind fun _ next read =>
      leads_pure (laysOpening.further read.moves)
  refine leads_ite (fun _ => ?_) fun _ => leads_pure laysOpening
  have laysToken := laysOpening.further opening.moves_tokenStart
  refine leads_skipTrivia (Leads.bind (Leads.discard
    ((lays_templateParts spanned (stands.after laysToken.moves)).mono
      fun _ _ outcome => outcome.1)) fun _ next read =>
        leads_spanFrom (leads_pure ?_))
  have passed := laysToken.passes.further read
  exact .ofNode stands passed rfl rfl (.nil passed.offset_le) rfl

theorem lays_leftHandSide (spanned : nested.Spanned text)
    (stands : cursor.StandsIn text) :
    LaysExpression text (leftHandSide nested) cursor := by
  have chain : ∀ (base : Expression) (here : Cursor),
      Lays text (fun found => [.expression found]) cursor base here →
      LaysFrom text cursor
        (repeating base (accessStep nested cursor.tokenStart.offset)) here := by
    intro base here lays
    exact leads_gathering _ lays
      fun found between holds => lays_accessStep spanned stands holds
  refine leads_tokenOffset ?_
  refine (leads_eatWord "new").branch (fun next passed => ?_) ?_
  · exact (lays_newObject spanned stands passed).bind chain
  · exact (lays_primary spanned stands).bind chain

theorem lays_postfixExpression (spanned : nested.Spanned text)
    (stands : cursor.StandsIn text) :
    LaysExpression text (postfixExpression nested) cursor := by
  refine leads_tokenOffset ?_
  refine (lays_leftHandSide spanned stands).bind
    fun operand here lays => leads_get ?_
  refine leads_ite (fun _ => leads_set ?_) fun _ => leads_pure lays
  have marked : Moves 0 here.tokenStart (here.tokenStart.advance 2) :=
    Cursor.moves_advance _ (Nat.zero_le _) (Nat.zero_le _)
  exact leads_otherExpression stands
    (lays.passes.further (here.moves_tokenStart.trans marked))

/-! ## Operators -/

/-- An operator in front of an operand is passed as the next token. -/
theorem passes_unaryOperator {after : Cursor} {operator : UnaryOperator}
    (found : unaryOperator? cursor = some (operator, after)) :
    cursor.Passes after := by
  have same : unaryOperator? cursor.tokenStart = unaryOperator? cursor := by
    simp only [unaryOperator?, Cursor.seesWord, Cursor.word?, tokenStart_tokenStart]
    rfl
  exact moves_unaryOperator (same.trans found)

theorem lays_unary (spanned : nested.Spanned text)
    (stands : cursor.StandsIn text) : LaysExpression text (unary nested) cursor := by
  refine leads_get ?_
  dsimp only
  split
  · next operator after found =>
      have passed := passes_unaryOperator found
      refine leads_set ((spanned.unary after (stands.after passed.moves)).bind
        fun operand next lays => leads_spanFrom (leads_pure ?_))
      exact .ofNode stands (passed.further lays.moves) rfl rfl
        (lays.laidFrom.widen passed.offset_le (Nat.le_refl _)) rfl
  have prefixed : ∀ (kind : OtherExpression) (here : Cursor),
      cursor.Passes here → LaysFrom text cursor (do
        discard nested.unary
        otherExpression kind cursor.tokenStart.offset) here := by
    intro kind here passed
    exact (spanned.unary here (stands.after passed.moves)).passing.bind
      fun _ next read => leads_otherExpression stands (passed.further read.moves)
  refine leads_ite (fun _ => ?_) fun _ => leads_ite (fun _ => ?_) fun _ =>
    lays_postfixExpression spanned stands
  · exact (leads_word stands).passing.bind fun _ here => prefixed _ here
  · exact (leads_skipBalanced stands).bind fun _ here => prefixed _ here

/-- A step of a chain of operators lays a node around the chain so far. -/
theorem lays_binaryStep {here : Cursor} {left : Expression}
    (spanned : nested.Spanned text) (stands : cursor.StandsIn text) (least : Nat)
    (lays : Lays text (fun found => [.expression found]) cursor left here) :
    Leads (binaryStep nested least cursor.tokenStart.offset left) here
      (Round.Satisfies (Lays text (fun found => [.expression found]) cursor)
        (Lays text (fun found => [.expression found]) cursor)) := by
  have standsHere := stands.after lays.moves
  refine leads_get (leads_ite (fun _ => ?_) fun _ => ?_)
  · refine (leads_word standsHere).passing.bind fun _ announced first => ?_
    refine (reads_skipType (standsHere.after first.moves)).leads.bind
      fun _ next second => leads_spanFrom (leads_pure ?_)
    have passed := lays.passes.further (first.moves.trans second)
    exact .ofNode stands passed rfl rfl (.nil passed.offset_le) rfl
  split
  · next operator after found =>
      have moved := Cursor.moves_binaryOperator found
      refine leads_ite (fun _ => leads_set ?_) fun _ => leads_pure lays
      have laysOperator := lays.further moved
      refine (spanned.binary _ after (standsHere.after moved)).bind
        fun right next last => leads_spanFrom (leads_pure ?_)
      exact .ofNode stands (laysOperator.passes.further last.moves) rfl rfl
        (last.behind laysOperator.laid) rfl
  · exact leads_pure lays

theorem lays_binary (spanned : nested.Spanned text)
    (stands : cursor.StandsIn text) (least : Nat) :
    LaysExpression text (binary nested least) cursor := by
  refine leads_tokenOffset ?_
  refine (lays_unary spanned stands).bind fun left here lays => ?_
  exact leads_gathering _ lays
    fun found between holds => lays_binaryStep spanned stands least holds

theorem lays_conditional (spanned : nested.Spanned text)
    (stands : cursor.StandsIn text) :
    LaysExpression text (conditional nested) cursor := by
  refine leads_tokenOffset ?_
  refine (lays_binary spanned stands 1).bind fun condition here lays => ?_
  refine (leads_eat .question).branch (fun asked first => ?_) (leads_pure lays)
  have passedMark : cursor.Passes asked := lays.passes.further first.moves
  refine (spanned.assignment asked (stands.after passedMark.moves)).passing.bind
    fun _ chosen second => ?_
  refine (leads_expect .colon).bind fun _ other third => ?_
  have passedColon : cursor.Passes other :=
    (passedMark.further second.moves).further third.moves
  exact (spanned.assignment other (stands.after passedColon.moves)).passing.bind
    fun _ next last => leads_otherExpression stands (passedColon.further last.moves)

/-! ## Arrow functions and assignments -/

theorem passes_arrowEnd {here : Cursor} (stands : cursor.StandsIn text)
    (passed : cursor.Passes here) :
    Leads arrowEnd here fun _ next => cursor.Passes next := by
  refine moves_optionalType (stands.after passed.moves) fun typed moved => ?_
  exact (leads_expect .arrow).mono fun _ _ last =>
    (passed.further moved).further last.moves

theorem passes_arrowParameters {here : Cursor} (stands : cursor.StandsIn text)
    (reached : cursor.Reaches here) :
    Leads arrowParameters here fun _ next => cursor.Passes next := by
  have standsHere := stands.after reached.moves
  refine leads_get (leads_ite (fun _ => ?_) fun _ => ?_)
  · exact (leads_identifier standsHere).passing.bind fun _ next read =>
      passes_arrowEnd stands (reached.passes read)
  · exact (leads_skipBalanced standsHere).bind fun _ next read =>
      passes_arrowEnd stands (reached.passes read)

theorem passes_arrowHead (stands : cursor.StandsIn text) :
    Leads arrowHead cursor fun _ next => cursor.Passes next := by
  refine leads_get (leads_ite (fun _ => ?_)
    fun _ => passes_arrowParameters stands (.refl cursor))
  exact (leads_word stands).passing.bind fun _ here read =>
    passes_arrowParameters stands (Or.inr read)

theorem leads_arrowFunction (spanned : nested.Spanned text)
    (stands : cursor.StandsIn text) :
    Leads (arrowFunction nested) cursor (Decides cursor) := by
  refine (passes_arrowHead stands).attempt.bind fun found here outcome => ?_
  cases found with
  | none => exact leads_pure outcome
  | some nothing =>
      have passed : cursor.Passes here := outcome
      have standsHere := stands.after passed.moves
      refine leads_get (leads_ite (fun _ => ?_) fun _ => ?_)
      · exact (lays_block spanned standsHere).passing.bind fun _ next read =>
          leads_pure (passed.further read.moves)
      · exact (spanned.assignment here standsHere).passing.bind
          fun _ next read => leads_pure (passed.further read.moves)

theorem lays_assignment (spanned : nested.Spanned text)
    (stands : cursor.StandsIn text) :
    LaysExpression text (assignment nested) cursor := by
  refine leads_tokenOffset ?_
  refine (leads_arrowFunction spanned stands).branch
    (fun _ passed => leads_otherExpression stands passed) ?_
  refine (lays_conditional spanned stands).bind fun place here lays => leads_get ?_
  split
  · next punctuator front =>
      split
      · have second := Cursor.moves_token (Punctuator.atFront?_isPrefix front)
          punctuator.characters_ne_nil
        have laysOperator := lays.further second
        refine leads_set ((spanned.assignment _
          (stands.after laysOperator.moves)).bind
            fun value next last => leads_spanFrom (leads_pure ?_))
        exact .ofNode stands (laysOperator.passes.further last.moves) rfl rfl
          (last.behind laysOperator.laid) rfl
      · exact leads_pure lays
  · exact leads_pure lays

end Grammar

end VelocityScript.Script
