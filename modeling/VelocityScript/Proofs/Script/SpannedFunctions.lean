import VelocityScript.Proofs.Script.Continuations
import VelocityScript.Proofs.Script.Leading

/-!
# The spans of patterns, blocks and functions

A rule of the grammar lays the node it reads: it takes the offset of the next
token first, lays the nodes below one after the other, and ends the span where
it stops.
-/

namespace VelocityScript.Script

open Cursor (Moves)
open VelocityScript.Script.Parser

/-- The parsers of nested constructs lay what they read. -/
structure Nested.Spanned (text : List Char) (nested : Nested) : Prop where
  assignment : ∀ cursor, cursor.StandsIn text →
    LaysExpression text nested.assignment cursor
  binary : ∀ least cursor, cursor.StandsIn text →
    LaysExpression text (nested.binary least) cursor
  unary : ∀ cursor, cursor.StandsIn text → LaysExpression text nested.unary cursor
  bindingName : ∀ cursor, cursor.StandsIn text →
    Leads nested.bindingName cursor
      (Lays text (fun found => [.pattern found]) cursor)
  statement : ∀ cursor, cursor.StandsIn text →
    Leads nested.statement cursor
      (Lays text (fun found => [.statement found]) cursor)

namespace Grammar

variable {text : List Char} {nested : Nested} {cursor : Cursor}

theorem lays_expression (spanned : nested.Spanned text)
    (stands : cursor.StandsIn text) :
    LaysExpression text (expression nested) cursor := by
  refine leads_tokenOffset ?_
  refine (spanned.assignment cursor stands).bind fun first here lays => ?_
  have standsHere := stands.after lays.moves
  refine leads_get (leads_ite (fun _ => ?_) fun _ => leads_pure lays)
  refine Leads.bind (leads_roaming (Moves 0 here) (.refl here)
    fun _ between reached => ?_) fun _ final passed =>
      leads_otherExpression stands (lays.passes.further passed)
  refine (leads_eat .comma).branch (fun next read => ?_) (leads_pure reached)
  have moved := read.after reached
  exact (spanned.assignment next (standsHere.after moved)).passing.bind
    fun _ final second => leads_pure (second.after moved).reaches

theorem lays_parenthesized (spanned : nested.Spanned text)
    (stands : cursor.StandsIn text) :
    LaysExpression text (parenthesized nested) cursor := by
  refine (leads_expect .openParen).bind fun _ inside opened => ?_
  refine (lays_expression spanned (stands.after opened.moves)).bind
    fun inner here lays => ?_
  refine (leads_expect .closeParen).bind fun _ next closed => leads_pure ?_
  have laid := lays.laidFrom.widen opened.offset_le closed.moves.offset_le
  exact ⟨(opened.further lays.moves).further closed.moves, laid⟩

/-! ## Patterns -/

theorem lays_propertyName (spanned : nested.Spanned text)
    (stands : cursor.StandsIn text) :
    Leads (propertyName nested) cursor
      (Lays text (fun found => [.propertyName found]) cursor) := by
  refine leads_skipTrivia (leads_get ?_)
  have standsToken := stands.atToken
  have named : Leads (do return PropertyName.identifier (← word))
      cursor.tokenStart (Lays text (fun found => [.propertyName found]) cursor) := by
    refine (leads_word standsToken).bind fun name next lays => leads_pure ?_
    exact ⟨lays.moves, lays.laidFrom.around rfl rfl rfl⟩
  dsimp only
  split
  · next character others standing =>
      refine leads_ite (fun _ => ?_) fun _ => leads_ite (fun digit => ?_) fun _ =>
        leads_ite (fun _ => ?_) fun _ => leads_ite (fun _ => ?_) fun _ => named
      · refine (reads_stringLiteral standsToken).leads.bind fun _ next passed => ?_
        exact leads_spanFrom (leads_pure
          (.ofNode stands passed rfl rfl (.nil passed.offset_le) rfl))
      · refine (reads_number standsToken standing digit).leads.bind
          fun _ next passed => ?_
        exact leads_spanFrom (leads_pure
          (.ofNode stands passed rfl rfl (.nil passed.offset_le) rfl))
      · refine (leads_skip_of_cons 0 standing).bind fun _ inside opened => ?_
        refine (spanned.assignment inside (standsToken.after opened)).bind
          fun key here lays => ?_
        refine (leads_expect .closeBracket).bind fun _ next closed =>
          leads_spanFrom (leads_pure ?_)
        have passed := (opened.trans lays.moves).trans closed.moves
        exact .ofNode stands (passed.weaken (by omega)) rfl rfl
          (lays.laidFrom.widen opened.offset_le closed.moves.offset_le) rfl
      · refine (leads_skip_of_cons 0 standing).bind fun _ inside opened => ?_
        refine (leads_word (standsToken.after opened)).bind
          fun name next lays => leads_spanFrom (leads_pure ?_)
        have passed := opened.further lays.moves
        exact .ofNode stands passed rfl rfl (.nil passed.offset_le) rfl
  · exact named

/-- The identifier of a key is laid where the key is. -/
theorem lays_keyName {name : Identifier} {next : Cursor}
    (lays : Lays text (fun found => [.propertyName found]) cursor
      (.identifier name) next) :
    Lays text (fun named => [.identifier named]) cursor name next := by
  have sound := lays.laid.isSound _ (List.mem_singleton_self _)
  have below : (Node.identifier name).IsSound text :=
    sound.child (List.mem_singleton_self _)
  have enclosed := lays.laid.encloses _ (List.mem_singleton_self _)
  exact ⟨lays.passes, .single enclosed.1 below enclosed.2⟩

theorem moves_skipDefault (spanned : nested.Spanned text)
    (stands : cursor.StandsIn text) :
    Leads (skipDefault nested) cursor fun _ next => Moves 0 cursor next := by
  refine (leads_eat .assign).branch (fun next passed => ?_)
    (leads_pure (.refl cursor))
  refine (spanned.assignment next (stands.after passed.moves)).passing.mono
    fun _ final valued => ?_
  exact (valued.after passed.moves).reaches

/-- What an element of an array pattern binds. -/
def elementNodes (element : BindingElement) : List Node :=
  element.name?.toList.map .pattern

theorem flatMap_elementNodes (elements : List BindingElement) :
    elements.flatMap elementNodes = Node.ofElements elements := by
  induction elements with
  | nil => rfl
  | cons element others inductionHypothesis =>
      rw [List.flatMap_cons, inductionHypothesis]
      cases element with
      | hole => rfl
      | bound name => rfl

theorem lays_bindingElement (spanned : nested.Spanned text)
    (stands : cursor.StandsIn text) :
    Leads (bindingElement nested) cursor (Lays text elementNodes cursor) := by
  have spread : Leads (discard (eat .ellipsis)) cursor fun _ next =>
      cursor.Reaches next :=
    Leads.discard ((leads_eat .ellipsis).mono fun _ _ outcome => outcome.reaches)
  refine spread.bind fun _ here reached => ?_
  have standsHere := stands.after reached.moves
  refine (spanned.bindingName here standsHere).bind fun name named lays => ?_
  refine (moves_skipDefault spanned (standsHere.after lays.moves)).bind
    fun _ next last => leads_pure ?_
  have laid := (lays.earlier reached).further last
  exact ⟨laid.passes, laid.laid⟩

theorem lays_bindingProperty (spanned : nested.Spanned text)
    (stands : cursor.StandsIn text) :
    Leads (bindingProperty nested) cursor
      (Lays text (fun found => [.pattern found]) cursor) := by
  have defaulted : ∀ (pattern : BindingName) (here : Cursor),
      Lays text (fun found => [.pattern found]) cursor pattern here →
        Leads (do skipDefault nested; return pattern) here
          (Lays text (fun found => [.pattern found]) cursor) := by
    intro pattern here lays
    exact (moves_skipDefault spanned (stands.after lays.moves)).bind
      fun _ next last => leads_pure (lays.further last)
  refine (leads_eat .ellipsis).branch (fun next passed => ?_) ?_
  · refine (leads_identifier (stands.after passed.moves)).bind
      fun name here lays => ?_
    have earlier := lays.earlier (Or.inr passed)
    exact defaulted _ here ⟨earlier.passes, earlier.laid.around rfl rfl rfl⟩
  · refine (lays_propertyName spanned stands).bind fun key here lays => ?_
    refine (leads_eat .colon).branch (fun next passed => ?_) ?_
    · have moved := passed.after lays.moves
      refine (spanned.bindingName next (stands.after moved)).bind
        fun name final last => ?_
      exact defaulted _ final
        (last.earlier (Or.inr (lays.passes.further passed.moves)))
    · split
      · next name =>
          exact defaulted _ here
            ⟨lays.passes, (lays_keyName lays).laid.around rfl rfl rfl⟩
      · exact leads_failAt _ _

theorem lays_bindingName (spanned : nested.Spanned text)
    (stands : cursor.StandsIn text) :
    Leads (bindingName nested) cursor
      (Lays text (fun found => [.pattern found]) cursor) := by
  refine leads_tokenOffset ?_
  have element : ∀ here : Cursor, here.StandsIn text →
      Leads (bindingElement nested) here (Lays text elementNodes here) :=
    fun here standsHere => lays_bindingElement spanned standsHere
  have hole : ∀ here next : Cursor, here.StandsIn text → here.Passes next →
      Leads (pure BindingElement.hole) next fun result final =>
        Moves 0 next final ∧
          Laid text here.tokenStart.offset final.offset (elementNodes result) :=
    fun here next _ passed => leads_pure ⟨.refl next, .nil passed.offset_le⟩
  refine (leads_eat .openBracket).branch (fun inside opened => ?_) ?_
  · refine (leads_commaSeparatedOrHoles (stands.after opened.moves) hole element).bind
      fun elements next outcome => leads_spanFrom (leads_pure ?_)
    obtain ⟨closed, laid⟩ := outcome
    rw [flatMap_elementNodes] at laid
    exact .ofNode stands (opened.further closed) rfl rfl
      (laid.widen opened.offset_le (Nat.le_refl _)) rfl
  · refine (leads_eat .openBrace).branch (fun inside opened => ?_) ?_
    · refine (leads_commaSeparated (stands.after opened.moves)
        fun here standsHere => lays_bindingProperty spanned standsHere).bind
          fun properties next outcome => leads_spanFrom (leads_pure ?_)
      obtain ⟨closed, laid⟩ := outcome
      rw [← List.map_eq_flatMap] at laid
      exact .ofNode stands (opened.further closed) rfl rfl
        (laid.widen opened.offset_le (Nat.le_refl _)) rfl
    · refine (leads_identifier stands).bind fun name next lays => leads_pure ?_
      exact ⟨lays.passes, lays.laid.around rfl rfl rfl⟩

/-! ## Functions -/

theorem moves_optionalType :
    ∀ {Result : Type} {cursor : Cursor} {continued : Unit → Parser Result}
      {after : Result → Cursor → Prop}, cursor.StandsIn text →
      (∀ next, Moves 0 cursor next → Leads (continued ()) next after) →
      Leads (do if ← eat .colon then skipType .token >>= continued
                else continued ()) cursor after := by
  intro Result cursor continued after stands continues
  refine (leads_eat .colon).optional (fun next passed => ?_) continues
  exact (reads_skipType (stands.after passed.moves)).leads

theorem lays_parameterEnd {here : Cursor} {name : BindingName}
    (spanned : nested.Spanned text) (stands : cursor.StandsIn text)
    (isReceiver : Bool) (lays : Lays text (fun found => [.pattern found]) cursor name here) :
    Leads (parameterEnd nested isReceiver cursor.tokenStart.offset name) here
      (Lays text (fun found => [.parameter found]) cursor) := by
  have asked : Leads (discard (eat .question)) here fun _ next =>
      Moves 0 here next :=
    Leads.discard ((leads_eat .question).mono fun _ _ outcome =>
      outcome.reaches.moves)
  refine asked.bind fun _ bare second => ?_
  have laysBare := lays.further second
  refine moves_optionalType (stands.after laysBare.moves) fun typed third => ?_
  have laysTyped := laysBare.further third
  refine (moves_skipDefault spanned (stands.after laysTyped.moves)).bind
    fun _ next last => leads_spanFrom (leads_pure ?_)
  have laysNext := laysTyped.further last
  exact .ofNode stands laysNext.passes rfl rfl laysNext.laid rfl

/-- A parameter of a function. -/
theorem lays_parameter (spanned : nested.Spanned text)
    (stands : cursor.StandsIn text) :
    Leads (parameter nested) cursor
      (Lays text (fun found => [.parameter found]) cursor) := by
  refine leads_tokenOffset ?_
  refine Leads.bind (leads_roaming cursor.Reaches (.refl cursor)
    fun _ here reached => leads_get (leads_ite (fun _ => ?_)
      fun _ => leads_pure reached)) fun _ bare modified => ?_
  · exact (leads_word (stands.after reached.moves)).passing.bind
      fun _ next read => leads_pure (Or.inr (reached.passes read))
  have spread : Leads (discard (eat .ellipsis)) bare fun _ next =>
      bare.Reaches next :=
    Leads.discard ((leads_eat .ellipsis).mono fun _ _ outcome => outcome.reaches)
  refine spread.bind fun _ named passed => leads_get ?_
  have standsNamed := (stands.after modified.moves).after passed.moves
  refine leads_ite (fun _ => ?_) fun _ => ?_
  · refine (leads_word standsNamed).bind fun _ here lays => ?_
    have laysWord := (lays.earlier passed).earlier modified
    exact lays_parameterEnd spanned stands _
      ⟨laysWord.passes, laysWord.laid.around rfl rfl rfl⟩
  · exact (lays_bindingName spanned standsNamed).bind fun _ here lays =>
      lays_parameterEnd spanned stands _ ((lays.earlier passed).earlier modified)

theorem lays_parameters (spanned : nested.Spanned text)
    (stands : cursor.StandsIn text) :
    Leads (parameters nested) cursor
      (Lays text (fun found => found.map .parameter) cursor) :=
  leads_enclosed stands fun _ standsHere => lays_parameter spanned standsHere

/-- A block of statements. -/
theorem lays_block (spanned : nested.Spanned text)
    (stands : cursor.StandsIn text) :
    Leads (block nested) cursor
      (Lays text (fun found => [.block found]) cursor) := by
  refine leads_tokenOffset ?_
  refine (leads_expect .openBrace).bind fun _ inside opened => ?_
  refine Leads.bind (leads_gathering (fun statements here =>
      cursor.Passes here ∧ Laid text cursor.tokenStart.offset here.offset
        (statements.map .statement))
    ⟨opened, .nil opened.offset_le⟩ fun statements here holds => ?_)
    fun statements next outcome => leads_spanFrom (leads_pure ?_)
  · obtain ⟨passed, laid⟩ := holds
    refine (leads_eat .closeBrace).branch (fun next closed => ?_)
      (leads_get (leads_ite (fun _ => leads_failAt _ _) fun _ => ?_))
    · exact leads_pure ⟨passed.further closed.moves, laid.until closed.moves⟩
    · refine (spanned.statement here (stands.after passed.moves)).bind
        fun statement next lays => leads_pure ⟨passed.further lays.moves, ?_⟩
      rw [List.map_append]
      exact lays.behind laid
  · obtain ⟨passed, laid⟩ := outcome
    exact .ofNode stands passed rfl rfl laid rfl

theorem moves_skipTypeParameters (stands : cursor.StandsIn text) :
    Leads skipTypeParameters cursor fun _ next => Moves 0 cursor next :=
  (reads_skipTypeParameters stands).leads

/-- A function whose name has been read is laid from where it starts. -/
theorem lays_functionEnd {opening here : Cursor} {name : Option Identifier}
    (spanned : nested.Spanned text) (stands : cursor.StandsIn text)
    (opened : opening.StandsIn text) (passed : Moves 0 opening cursor.tokenStart)
    (modifiers : List Modifier) (isGenerator : Bool)
    (announced : cursor.Passes here)
    (laid : Laid text opening.offset here.offset (name.toList.map .identifier)) :
    Leads (functionEnd nested modifiers isGenerator opening.offset name) here
      fun found next => cursor.Passes next ∧
        Laid text opening.offset next.offset [.function found] := by
  have standsHere := stands.after announced.moves
  refine (moves_skipTypeParameters standsHere).bind fun _ headed second => ?_
  have standsHeaded := standsHere.after second
  refine (lays_parameters spanned standsHeaded).bind
    fun parameters bound lays => ?_
  have standsBound := standsHeaded.after lays.moves
  have laidBound := lays.behind (laid.until second)
  refine (reads_skipReturnType standsBound).leads.bind
    fun _ typed fourth => leads_get ?_
  have standsTyped := standsBound.after fourth
  have laidTyped := laidBound.until fourth
  have passedTyped : cursor.Passes typed :=
    announced.further (second.trans (lays.moves.trans fourth))
  refine leads_ite (fun _ => ?_) fun _ => ?_
  · refine (lays_block spanned standsTyped).bind fun body next last => ?_
    have whole := passedTyped.further last.moves
    refine leads_pure_bind (leads_spanFrom (leads_pure ⟨whole, ?_⟩))
    exact Laid.ofNode opened (passed.onTo whole) rfl (last.behind laidTyped) rfl
  · refine leads_semicolon.bind fun _ next last => ?_
    have whole := passedTyped.further last
    refine leads_pure_bind (leads_spanFrom (leads_pure ⟨whole, ?_⟩))
    refine Laid.ofNode opened (passed.onTo whole) rfl ?_ rfl
    have laidNext := laidTyped.until last
    rw [← List.append_nil (_ ++ _)] at laidNext
    exact laidNext

/-- A function is laid from where its first modifier stands, which may have been
read before. -/
theorem lays_function (spanned : nested.Spanned text)
    (stands : cursor.StandsIn text) {opening : Cursor}
    (opened : opening.StandsIn text) (passed : Moves 0 opening cursor.tokenStart)
    (modifiers : List Modifier) :
    Leads (function nested modifiers opening.offset) cursor fun found next =>
      cursor.Passes next ∧
        Laid text opening.offset next.offset [.function found] := by
  refine Leads.bind (leads_roaming cursor.Reaches (.refl cursor)
    fun modifiers here reached => ?_) fun modifiers bare modified => ?_
  · refine (leads_eatWord "async").branch
      (fun _ read => leads_pure (Or.inr (reached.passes read))) ?_
    exact (leads_eatWord "declare").branch
      (fun _ read => leads_pure (Or.inr (reached.passes read)))
      (leads_pure reached)
  refine (leads_expectWord "function").bind fun _ announced second => ?_
  have passedWord := modified.passes second
  refine (leads_eat .times).bind fun isGenerator starred third => leads_get ?_
  have passedStar : cursor.Passes starred := passedWord.further third.reaches.moves
  have offset : opening.offset ≤ starred.offset :=
    Nat.le_trans passed.offset_le passedStar.offset_le
  refine leads_ite (fun _ => ?_) fun _ => ?_
  · refine (leads_identifier (stands.after passedStar.moves)).bind
      fun name here lays => ?_
    have laid : Laid text opening.offset here.offset
        ((some name).toList.map .identifier) :=
      lays.laidFrom.widen offset (Nat.le_refl _)
    exact lays_functionEnd spanned stands opened passed modifiers isGenerator
      (passedStar.further lays.moves) laid
  · have laid : Laid text opening.offset starred.offset
        ((none : Option Identifier).toList.map .identifier) := .nil offset
    exact lays_functionEnd spanned stands opened passed modifiers isGenerator
      passedStar laid

/-- A method that is only skipped passes its block at least. -/
theorem passes_skipMethod (spanned : nested.Spanned text)
    (stands : cursor.StandsIn text) :
    Leads (skipMethod nested) cursor fun _ next => Moves 1 cursor next := by
  refine (moves_skipTypeParameters stands).bind fun _ headed first => ?_
  have standsHeaded := stands.after first
  refine (lays_parameters spanned standsHeaded).passing.bind
    fun _ bound second => ?_
  have standsBound := standsHeaded.after second.moves
  refine (reads_skipReturnType standsBound).leads.bind fun _ typed third => ?_
  refine (lays_block spanned (standsBound.after third)).passing.mono
    fun _ next last => ?_
  exact last.after (first.trans (second.moves.trans third))

end Grammar

end VelocityScript.Script
