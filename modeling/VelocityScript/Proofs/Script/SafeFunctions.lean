import VelocityScript.Proofs.Script.Lexing
import VelocityScript.Script.Grammar.Function

/-!
# Patterns, blocks and functions are read safely

A rule of the grammar reads what is nested in it with parsers that are safe
while little enough of the text is left.  Almost every rule passes a character
before it comes to a nested construct, so it is safe with one character more.
The rules that start with a nested construct themselves, expressions and blocks
among them, gain nothing.
-/

namespace VelocityScript.Script

open Cursor (Moves)
open VelocityScript.Script.Parser

/-- The parsers of nested constructs are safe, and pass a character, where
fewer than `budget` characters are left.  A statement needs one to spare, for
it can start with an expression. -/
structure Nested.Safe (text : List Char) (budget : Nat) (nested : Nested) :
    Prop where
  assignment : ∀ cursor, cursor.StandsIn text → cursor.rest.length < budget →
    Reads text 1 nested.assignment cursor
  binary : ∀ least cursor, cursor.StandsIn text → cursor.rest.length < budget →
    Reads text 1 (nested.binary least) cursor
  unary : ∀ cursor, cursor.StandsIn text → cursor.rest.length < budget →
    Reads text 1 nested.unary cursor
  bindingName : ∀ cursor, cursor.StandsIn text → cursor.rest.length < budget →
    Reads text 1 nested.bindingName cursor
  statement : ∀ cursor, cursor.StandsIn text →
    cursor.rest.length + 1 < budget → Reads text 1 nested.statement cursor

namespace Grammar

variable {text : List Char} {budget : Nat} {nested : Nested} {cursor : Cursor}

theorem reads_expression (safe : nested.Safe text budget)
    (stands : cursor.StandsIn text) (short : cursor.rest.length < budget) :
    Reads text 1 (expression nested) cursor := by
  refine runs_tokenOffset ?_
  refine (safe.assignment cursor stands short).bind fun first here moved => ?_
  have standsHere := stands.after moved
  refine runs_get (runs_ite (fun _ => ?_) fun _ => runs_pure moved)
  refine Runs.bind (reads_repeating 0 standsHere
    fun _ between standsBetween reached => ?_) fun _ final passed =>
      (reads_otherExpression _ _).since (moved.trans passed)
  refine (runs_eat .comma).branch (fun next read => ?_)
    (runs_pure (.refl between))
  have whole := moved.trans (reached.trans read)
  have shorter := whole.length_le
  refine (safe.assignment next (stands.after whole) (by omega)).discard.bind
    fun _ final second => runs_pure ⟨(read.trans second).reaches, ?_⟩
  have length := (read.trans second).length_le
  omega

theorem reads_parenthesized (safe : nested.Safe text budget)
    (stands : cursor.StandsIn text) (short : cursor.rest.length ≤ budget) :
    Reads text 1 (parenthesized nested) cursor := by
  refine (reads_expect .openParen stands).bind fun _ inside opened => ?_
  refine (reads_expression safe (stands.after opened)
    (opened.within short)).bind fun inner here read => ?_
  have passed := opened.trans read
  exact (reads_expect .closeParen (stands.after passed)).bind
    fun _ next closed => runs_pure (passed.onTo closed)

/-! ## Patterns -/

/-- A property name is passed, and its span lies in the text. -/
theorem runs_propertyName (safe : nested.Safe text budget)
    (stands : cursor.StandsIn text) (short : cursor.rest.length ≤ budget) :
    Runs text (propertyName nested) cursor fun name next =>
      Moves 1 cursor next ∧ FitsIn text name.span := by
  refine runs_skipTrivia (runs_get ?_)
  have reached := cursor.moves_tokenStart
  have standsStart := stands.after reached
  have named : Runs text (do return PropertyName.identifier (← word))
      cursor.tokenStart fun name next =>
        Moves 1 cursor next ∧ FitsIn text name.span :=
    (runs_word standsStart).bind fun name next read =>
      runs_pure ⟨reached.onTo read.1, read.2⟩
  have spanned : ∀ next, Moves 1 cursor.tokenStart next →
      Moves 1 cursor next ∧ FitsIn text ⟨cursor.tokenStart.offset, next.offset⟩ :=
    fun next read => ⟨reached.onTo read, standsStart.fitsIn read⟩
  dsimp only
  split
  · next character others standing =>
      refine runs_ite (fun _ => ?_) fun _ => runs_ite (fun digit => ?_) fun _ =>
        runs_ite (fun _ => ?_) fun _ => runs_ite (fun _ => ?_) fun _ => named
      · exact (reads_stringLiteral standsStart).bind fun _ next read =>
          runs_spanFrom (runs_pure (spanned next read))
      · exact (reads_number standsStart standing digit).bind
          fun _ next read => runs_spanFrom (runs_pure (spanned next read))
      · refine (reads_skip_of_cons 0 standing).bind fun _ inside opened => ?_
        have entered := reached.trans opened
        have shorter := entered.within short
        refine (safe.assignment inside (stands.after entered) (by omega)).bind
          fun key here read => ?_
        have passed := opened.trans read
        refine (reads_expect .closeBracket (standsStart.after passed)).bind
          fun _ next closed => runs_spanFrom (runs_pure ?_)
        exact spanned next (passed.onTo closed)
      · refine (reads_skip_of_cons 0 standing).bind fun _ inside opened => ?_
        refine (reads_word (standsStart.after opened)).bind
          fun name next read => runs_spanFrom (runs_pure ?_)
        exact spanned next (opened.further read)
  · exact named

theorem reads_propertyName (safe : nested.Safe text budget)
    (stands : cursor.StandsIn text) (short : cursor.rest.length ≤ budget) :
    Reads text 1 (propertyName nested) cursor :=
  (runs_propertyName safe stands short).mono fun _ _ read => read.1

theorem reads_skipDefault (safe : nested.Safe text budget)
    (stands : cursor.StandsIn text) (short : cursor.rest.length ≤ budget) :
    Reads text 0 (skipDefault nested) cursor := by
  refine (runs_eat .assign).branch (fun next moved => ?_)
    (runs_pure (.refl cursor))
  exact (safe.assignment next (stands.after moved)
    (moved.within short)).discard.sinceAny moved (by omega)

theorem reads_bindingElement (safe : nested.Safe text budget)
    (stands : cursor.StandsIn text) (short : cursor.rest.length < budget) :
    Reads text 1 (bindingElement nested) cursor := by
  refine (reads_eat .ellipsis).discard.bind fun _ here spread => ?_
  have length := spread.length_le
  refine (safe.bindingName here (stands.after spread) (by omega)).bind
    fun name named read => ?_
  have passed := spread.trans read
  have shorter := passed.length_le
  exact (reads_skipDefault safe (stands.after passed) (by omega)).bind
    fun _ next last => runs_pure (passed.further last)

theorem reads_bindingProperty (safe : nested.Safe text budget)
    (stands : cursor.StandsIn text) (short : cursor.rest.length ≤ budget) :
    Reads text 1 (bindingProperty nested) cursor := by
  have defaulted : ∀ {Result : Type} (result : Result) (here : Cursor),
      Moves 1 cursor here → Runs text (do skipDefault nested; return result) here
        fun _ next => Moves 1 cursor next := by
    intro Result result here passed
    have shorter := passed.within short
    exact (reads_skipDefault safe (stands.after passed) (by omega)).bind
      fun _ next last => runs_pure (passed.further last)
  refine (runs_eat .ellipsis).branch (fun next moved => ?_) ?_
  · exact (reads_identifier (stands.after moved)).bind fun name here read =>
      defaulted _ here (moved.further read)
  · refine (runs_propertyName safe stands short).bind fun key here read => ?_
    obtain ⟨passed, fits⟩ := read
    refine (runs_eat .colon).branch (fun next moved => ?_) ?_
    · have before := passed.trans moved
      have shorter := before.within short
      exact (safe.bindingName next (stands.after before) (by omega)).bind
        fun name final last => defaulted _ final (before.onTo last)
    · split
      · exact defaulted _ here passed
      · exact runs_failAt nofun fits

theorem reads_bindingName (safe : nested.Safe text budget)
    (stands : cursor.StandsIn text) (short : cursor.rest.length ≤ budget) :
    Reads text 1 (bindingName nested) cursor := by
  refine runs_tokenOffset ?_
  refine (runs_eat .openBracket).branch (fun inside opened => ?_) ?_
  · refine (reads_commaSeparatedOrHoles (stands.after opened)
      (fun _ here => runs_pure (.refl here)) fun here standsHere reached =>
        reads_bindingElement safe standsHere ?_).bind fun elements next closed =>
          runs_spanFrom (runs_pure (opened.further closed))
    have shorter := (opened.trans reached).within short
    omega
  · refine (runs_eat .openBrace).branch (fun inside opened => ?_) ?_
    · refine (reads_commaSeparated (stands.after opened)
        fun here standsHere reached =>
          reads_bindingProperty safe standsHere ?_).bind fun _ next closed =>
            runs_spanFrom (runs_pure (opened.further closed))
      have shorter := (opened.trans reached).within short
      omega
    · exact (reads_identifier stands).bind fun _ _ read => runs_pure read

/-! ## Functions -/

/-- A parameter of a function. -/
theorem reads_parameter (safe : nested.Safe text budget)
    (stands : cursor.StandsIn text) (short : cursor.rest.length ≤ budget) :
    Reads text 1 (parameter nested) cursor := by
  have ending : ∀ (isReceiver : Bool) (name : BindingName) (here : Cursor),
      Moves 1 cursor here →
        Runs text (do
          discard (eat .question)
          if ← eat .colon then
            skipType .token
          skipDefault nested
          return ({ name, isReceiver,
                    span := ← spanFrom cursor.tokenStart.offset } : Parameter))
          here fun _ next => Moves 1 cursor next := by
    intro isReceiver name here passed
    refine (reads_eat .question).discard.bind fun _ asked second => ?_
    have standsAsked := stands.after (passed.trans second)
    refine (runs_eat .colon).optional
      (fun next moved => reads_skipType (standsAsked.after moved))
      fun typed third => ?_
    have before := (passed.trans second).trans third
    have shorter := before.within short
    exact (reads_skipDefault safe (stands.after before) (by omega)).bind
      fun _ next last => runs_spanFrom (runs_pure (before.further last))
  refine runs_tokenOffset ?_
  refine Runs.bind (reads_repeating 0 stands
    fun _ here standsHere reached => runs_get (runs_ite (fun _ => ?_)
      fun _ => runs_pure (.refl here))) fun _ bare modified => ?_
  · exact (reads_word standsHere).discard.bind fun _ next read =>
      runs_pure ⟨read.reaches, read.length_le⟩
  refine (reads_eat .ellipsis).discard.bind fun _ named spread => runs_get ?_
  have before := modified.trans spread
  have shorter := before.within short
  refine runs_ite (fun _ => ?_) fun _ => ?_
  · exact (reads_word (stands.after before)).bind fun _ here read =>
      ending _ _ here (before.onTo read)
  · exact (reads_bindingName safe (stands.after before) (by omega)).bind
      fun _ here read => ending _ _ here (before.onTo read)

theorem reads_parameters (safe : nested.Safe text budget)
    (stands : cursor.StandsIn text) (short : cursor.rest.length ≤ budget) :
    Reads text 1 (parameters nested) cursor := by
  refine (reads_expect .openParen stands).bind fun _ inside opened => ?_
  refine (reads_commaSeparated (stands.after opened)
    fun here standsHere reached => reads_parameter safe standsHere ?_).since opened
  have shorter := (opened.trans reached).within short
  omega

/-- A block of statements. -/
theorem reads_block (safe : nested.Safe text budget)
    (stands : cursor.StandsIn text) (short : cursor.rest.length < budget) :
    Reads text 1 (block nested) cursor := by
  refine runs_tokenOffset ?_
  refine (runs_expect .openBrace stands).bind fun _ inside opened => ?_
  have entered := cursor.moves_tokenStart.trans opened
  have openedAt := (stands.after cursor.moves_tokenStart).opened.after opened
  refine Runs.bind (reads_repeating 0 (stands.after entered)
    fun statements here standsHere reached => ?_) fun _ next closed =>
      runs_spanFrom (runs_pure (entered.further closed))
  refine (runs_eat .closeBrace).branch (fun _ moved => runs_pure moved.reaches)
    (runs_get (runs_ite (fun _ => ?_) fun _ => ?_))
  · exact runs_failAt nofun
      ((openedAt.after reached).after here.moves_end).fitsIn
  · have length := (entered.trans reached).length_le
    exact (safe.statement here standsHere (by omega)).bind fun _ next read =>
      runs_pure ⟨read.reaches, read.length_le⟩

theorem reads_skipReturnType (stands : cursor.StandsIn text) :
    Reads text 0 skipReturnType cursor :=
  (runs_eat .colon).branch
    (fun _ moved => (reads_skipType (stands.after moved)).behind moved)
    (runs_pure (.refl cursor))

/-- A function declaration. -/
theorem reads_function (safe : nested.Safe text budget)
    (stands : cursor.StandsIn text) (short : cursor.rest.length ≤ budget)
    (modifiers : List Modifier) (start : Nat) :
    Reads text 1 (function nested modifiers start) cursor := by
  have ending : ∀ (modifiers : List Modifier) (isGenerator : Bool)
      (name : Option Identifier) (here : Cursor), Moves 1 cursor here →
        Runs text (do
          skipTypeParameters
          let parameters ← parameters nested
          skipReturnType
          let body ←
            if (← get).sees .openBrace then do
              pure (some (← block nested))
            else do
              semicolon
              pure none
          return ({ name, modifiers, parameters, body, isGenerator,
                    span := ← spanFrom start } : FunctionDeclaration)) here
          fun _ next => Moves 1 cursor next := by
    intro modifiers isGenerator name here passed
    refine (reads_skipTypeParameters (stands.after passed)).bind
      fun _ headed second => ?_
    have headedMoves := passed.trans second
    have shorter := headedMoves.within short
    refine (reads_parameters safe (stands.after headedMoves) (by omega)).bind
      fun parameters bound third => ?_
    have boundMoves := headedMoves.trans third
    refine (reads_skipReturnType (stands.after boundMoves)).bind
      fun _ typed fourth => runs_get ?_
    have before := boundMoves.trans fourth
    have shortest := before.within short
    refine runs_ite (fun _ => ?_) fun _ => ?_
    · exact (reads_block safe (stands.after before) (by omega)).bind
        fun body next last => runs_pure_bind
          (runs_spanFrom (runs_pure (before.onTo last)))
    · exact (reads_semicolon (stands.after before)).bind
        fun _ next last => runs_pure_bind
          (runs_spanFrom (runs_pure ((before.trans last).weaken (by omega))))
  refine Runs.bind (reads_repeating 0 stands
    fun modifiers here standsHere reached => ?_) fun modifiers bare modified => ?_
  · refine (runs_eatWord "async").branch
      (fun _ read => runs_pure ⟨read.reaches, read.length_le⟩) ?_
    exact (runs_eatWord "declare").branch
      (fun _ read => runs_pure ⟨read.reaches, read.length_le⟩)
      (runs_pure (.refl here))
  refine (reads_expectWord "function" (stands.after modified)).bind
    fun _ announced second => ?_
  have announcedMoves := modified.trans second
  refine (reads_eat .times).bind fun isGenerator starred third => runs_get ?_
  have before := announcedMoves.trans third
  refine runs_ite (fun _ => ?_) fun _ => ?_
  · exact (reads_identifier (stands.after before)).bind fun name here read =>
      ending modifiers isGenerator (some name) here (before.further read)
  · exact ending modifiers isGenerator none starred (before.weaken (by omega))

/-- Skips a method: its block is entered after its parameters. -/
theorem reads_skipMethod (safe : nested.Safe text budget)
    (stands : cursor.StandsIn text) (short : cursor.rest.length ≤ budget) :
    Reads text 1 (skipMethod nested) cursor := by
  refine (reads_skipTypeParameters stands).bind fun _ headed first => ?_
  have shorter := first.within short
  refine (reads_parameters safe (stands.after first) (by omega)).discard.bind
    fun _ bound second => ?_
  have boundMoves := first.trans second
  refine (reads_skipReturnType (stands.after boundMoves)).bind
    fun _ typed third => ?_
  have before := boundMoves.trans third
  have shortest := before.within short
  exact (reads_block safe (stands.after before) (by omega)).discard.since before

end Grammar

end VelocityScript.Script
