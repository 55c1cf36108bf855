import VelocityScript.Proofs.Script.ShiftedLexing

/-!
# Patterns, blocks and functions at shifted cursors
-/

namespace VelocityScript.Script

open Cursor (Aligned)
open VelocityScript.Script.Parser

/-! ## Lists of relocated parts -/

section Lists

variable (move : Span → Span)

theorem relocateExpressions_eq_map (sources : List Expression) :
    relocateExpressions move sources = sources.map (Expression.relocate move) := by
  induction sources with
  | nil => rfl
  | cons source others inductionHypothesis =>
      rw [relocateExpressions, inductionHypothesis, List.map_cons]

theorem relocateParts_eq_map (parts : List TemplatePart) :
    relocateParts move parts = parts.map (TemplatePart.relocate move) := by
  induction parts with
  | nil => rfl
  | cons part others inductionHypothesis =>
      rw [relocateParts, inductionHypothesis, List.map_cons]

theorem relocateMembers_eq_map (members : List ObjectMember) :
    relocateMembers move members = members.map (ObjectMember.relocate move) := by
  induction members with
  | nil => rfl
  | cons member others inductionHypothesis =>
      rw [relocateMembers, inductionHypothesis, List.map_cons]

theorem relocatePatterns_eq_map (names : List BindingName) :
    relocatePatterns move names = names.map (BindingName.relocate move) := by
  induction names with
  | nil => rfl
  | cons name others inductionHypothesis =>
      rw [relocatePatterns, inductionHypothesis, List.map_cons]

def BindingElement.relocate : BindingElement → BindingElement
  | .hole => .hole
  | .bound name => .bound (name.relocate move)

theorem relocateBindings_eq_map (elements : List BindingElement) :
    relocateBindings move elements =
      elements.map (BindingElement.relocate move) := by
  induction elements with
  | nil => rfl
  | cons element others inductionHypothesis =>
      cases element with
      | hole => rw [relocateBindings, inductionHypothesis]; rfl
      | bound name => rw [relocateBindings, inductionHypothesis]; rfl

theorem relocateStatements_eq_map (statements : List Statement) :
    relocateStatements move statements =
      statements.map (Statement.relocate move) := by
  induction statements with
  | nil => rfl
  | cons statement others inductionHypothesis =>
      rw [relocateStatements, inductionHypothesis, List.map_cons]

end Lists

/-! ## Nested constructs -/

/-- Reading an expression at both cursors gives the same one. -/
abbrev RepeatsExpression (distance : Nat) (parser echo : Parser Expression)
    (cursor shifted : Cursor) : Prop :=
  Repeats distance (Expression.relocate (Span.shift distance)) parser echo cursor
    shifted

/-- The parsers of nested constructs give the same at aligned cursors. -/
structure Nested.Echoes (distance : Nat) (nested twin : Nested) : Prop where
  assignment : ∀ cursor shifted, Aligned distance cursor shifted →
    RepeatsExpression distance nested.assignment twin.assignment cursor shifted
  binary : ∀ least cursor shifted, Aligned distance cursor shifted →
    RepeatsExpression distance (nested.binary least) (twin.binary least) cursor
      shifted
  unary : ∀ cursor shifted, Aligned distance cursor shifted →
    RepeatsExpression distance nested.unary twin.unary cursor shifted
  bindingName : ∀ cursor shifted, Aligned distance cursor shifted →
    Repeats distance (BindingName.relocate (Span.shift distance))
      nested.bindingName twin.bindingName cursor shifted
  statement : ∀ cursor shifted, Aligned distance cursor shifted →
    Repeats distance (Statement.relocate (Span.shift distance))
      nested.statement twin.statement cursor shifted

namespace Grammar

variable {distance : Nat} {nested twin : Nested} {cursor shifted : Cursor}

theorem repeats_assigned (echoes : nested.Echoes distance twin) :
    RepeatsExpression distance nested.assignment twin.assignment cursor
      (cursor.shift distance) :=
  echoes.assignment _ _ (cursor.aligned_shift distance)

theorem repeats_expression (echoes : nested.Echoes distance twin)
    (aligned : Aligned distance cursor shifted) :
    RepeatsExpression distance (expression nested) (expression twin) cursor
      shifted := by
  refine echoes_tokenOffset aligned ?_
  refine (echoes.assignment _ _ aligned).follow fun first here => echoes_get ?_
  rw [(here.aligned_shift distance).sees]
  refine echoes_ite (fun _ => ?_) fun _ => repeats_pure rfl
  refine Echoes.follow (repeats_repeating id id fun _ between => ?_)
    fun _ _ => repeats_otherExpression _ _
  refine (decides_eat (between.aligned_shift distance) .comma).branch
    (fun next => ?_) (repeats_pure rfl)
  exact (repeats_assigned echoes).passing.follow fun _ _ => repeats_pure rfl

theorem repeats_parenthesized (echoes : nested.Echoes distance twin)
    (aligned : Aligned distance cursor shifted) :
    RepeatsExpression distance (parenthesized nested) (parenthesized twin) cursor
      shifted := by
  refine (repeats_expect aligned .openParen).follow fun _ inside => ?_
  refine (repeats_expression echoes (inside.aligned_shift distance)).follow
    fun inner here => ?_
  exact (repeats_expect (here.aligned_shift distance) .closeParen).follow
    fun _ _ => repeats_pure rfl

/-! ## Patterns -/

theorem repeats_propertyName (echoes : nested.Echoes distance twin)
    (aligned : Aligned distance cursor shifted) :
    Repeats distance (PropertyName.relocate (Span.shift distance))
      (propertyName nested) (propertyName twin) cursor shifted := by
  refine echoes_skipTrivia aligned fun token _ => echoes_get ?_
  have alignedToken := token.aligned_shift distance
  have named : Repeats distance (PropertyName.relocate (Span.shift distance))
      (do return .identifier (← word)) (do return .identifier (← word)) token
      (token.shift distance) :=
    (repeats_word alignedToken).follow fun _ _ => repeats_pure rfl
  dsimp only
  rw [token.rest_shift]
  cases token.rest with
  | nil => exact named
  | cons character others =>
      refine echoes_ite (fun _ => ?_) fun _ => echoes_ite (fun _ => ?_) fun _ =>
        echoes_ite (fun _ => ?_) fun _ => echoes_ite (fun _ => ?_) fun _ => named
      · exact (repeats_stringLiteral alignedToken).follow fun _ _ =>
          echoes_spanFrom (repeats_pure rfl)
      · exact repeats_number.follow fun _ _ => echoes_spanFrom (repeats_pure rfl)
      · refine echoes_skip 1 ((repeats_assigned echoes).follow fun key here => ?_)
        exact (repeats_expect (here.aligned_shift distance) .closeBracket).follow
          fun _ _ => echoes_spanFrom (repeats_pure rfl)
      · exact echoes_skip 1 ((repeats_word (Cursor.aligned_shift _ distance)).follow
          fun _ _ => echoes_spanFrom (repeats_pure rfl))

theorem repeats_skipDefault (echoes : nested.Echoes distance twin) :
    Repeats distance id (skipDefault nested) (skipDefault twin) cursor
      (cursor.shift distance) :=
  (decides_eat (cursor.aligned_shift distance) .assign).branch
    (fun _ => (repeats_assigned echoes).passing) (repeats_pure rfl)

/-- A mark that may stand in front of a pattern. -/
theorem aligned_eat (aligned : Aligned distance cursor shifted)
    (punctuator : Punctuator) :
    Echoes distance (fun _ next _ final => Aligned distance next final)
      (discard (eat punctuator)) (discard (eat punctuator)) cursor shifted :=
  Echoes.discard ((decides_eat aligned punctuator).mono
    fun _ _ _ _ decided => decided.aligned aligned)

theorem repeats_bindingElement (echoes : nested.Echoes distance twin)
    (aligned : Aligned distance cursor shifted) :
    Repeats distance (BindingElement.relocate (Span.shift distance))
      (bindingElement nested) (bindingElement twin) cursor shifted := by
  refine (aligned_eat aligned .ellipsis).bind
    fun _ here _ there alignedHere => ?_
  refine (echoes.bindingName here there alignedHere).follow fun name named => ?_
  exact (repeats_skipDefault echoes).follow fun _ _ => repeats_pure rfl

theorem repeats_bindingProperty (echoes : nested.Echoes distance twin)
    (aligned : Aligned distance cursor shifted) :
    Repeats distance (BindingName.relocate (Span.shift distance))
      (bindingProperty nested) (bindingProperty twin) cursor shifted := by
  have defaulted : ∀ (pattern : BindingName) (here : Cursor),
      Repeats distance (BindingName.relocate (Span.shift distance))
        (do skipDefault nested; return pattern)
        (do skipDefault twin; return pattern.relocate (Span.shift distance)) here
        (here.shift distance) :=
    fun _ _ => (repeats_skipDefault echoes).follow fun _ _ => repeats_pure rfl
  refine (decides_eat aligned .ellipsis).branch (fun next => ?_) ?_
  · exact (repeats_identifier (next.aligned_shift distance)).follow
      fun name here => defaulted (.identifier name) here
  · refine (repeats_propertyName echoes aligned).follow fun key here => ?_
    refine (decides_eat (here.aligned_shift distance) .colon).branch
      (fun next => ?_) ?_
    · exact (echoes.bindingName _ _ (next.aligned_shift distance)).follow defaulted
    · cases key with
      | identifier name => exact defaulted (.identifier name) here
      | _ => exact echoes_failAt _ _

theorem repeats_bindingName (echoes : nested.Echoes distance twin)
    (aligned : Aligned distance cursor shifted) :
    Repeats distance (BindingName.relocate (Span.shift distance))
      (bindingName nested) (bindingName twin) cursor shifted := by
  refine echoes_tokenOffset aligned ?_
  refine (decides_eat aligned .openBracket).branch (fun inside => ?_) ?_
  · have elements : Repeats distance
        (List.map (BindingElement.relocate (Span.shift distance)))
        (commaSeparatedOrHoles .closeBracket (fun _ => pure .hole)
          (bindingElement nested))
        (commaSeparatedOrHoles .closeBracket (fun _ => pure .hole)
          (bindingElement twin)) inside (inside.shift distance) :=
      repeats_commaSeparatedOrHoles (fun _ _ => repeats_pure rfl)
        fun here => repeats_bindingElement echoes (here.aligned_shift distance)
    refine elements.follow fun found _ => echoes_spanFrom (repeats_pure ?_)
    rw [← relocateBindings_eq_map]
    rfl
  · refine (decides_eat aligned .openBrace).branch (fun inside => ?_) ?_
    · refine Echoes.follow (repeats_commaSeparated fun here =>
        repeats_bindingProperty echoes (here.aligned_shift distance))
          fun found _ => echoes_spanFrom (repeats_pure ?_)
      rw [← relocatePatterns_eq_map]
      rfl
    · exact (repeats_identifier aligned).follow fun _ _ => repeats_pure rfl

/-! ## Functions -/

theorem repeats_optionalType {Result : Type}
    {after : Result → Cursor → Result → Cursor → Prop}
    {continued further : Unit → Parser Result}
    (continues : ∀ next, Echoes distance after (continued ()) (further ()) next
      (next.shift distance)) :
    Echoes distance after
      (do if ← eat .colon then skipType .token >>= continued else continued ())
      (do if ← eat .colon then skipType .token >>= further else further ())
      cursor (cursor.shift distance) :=
  (decides_eat (cursor.aligned_shift distance) .colon).optional
    (fun _ => repeats_skipType .token) continues

theorem seesAccessibility_shift (aligned : Aligned distance cursor shifted) :
    seesAccessibility shifted = seesAccessibility cursor := by
  rw [seesAccessibility, seesAccessibility, aligned.word?, aligned.secondWord?,
    aligned.punctuatorAfterWord?]

theorem repeats_parameterEnd (echoes : nested.Echoes distance twin)
    (isReceiver : Bool) (start : Nat) (name : BindingName) :
    Repeats distance (Parameter.relocate (Span.shift distance))
      (parameterEnd nested isReceiver start name)
      (parameterEnd twin isReceiver (start + distance)
        (name.relocate (Span.shift distance))) cursor (cursor.shift distance) := by
  refine (repeats_eat .question).passing.follow fun _ bare => ?_
  refine repeats_optionalType fun typed => ?_
  exact (repeats_skipDefault echoes).follow fun _ _ =>
    echoes_spanFrom (repeats_pure rfl)

theorem repeats_parameter (echoes : nested.Echoes distance twin)
    (aligned : Aligned distance cursor shifted) :
    Repeats distance (Parameter.relocate (Span.shift distance))
      (parameter nested) (parameter twin) cursor shifted := by
  refine echoes_tokenOffset aligned ?_
  refine Echoes.bind (aligned_repeating aligned fun _ here there alignedHere =>
    echoes_get ?_) fun _ bare _ bareTwin modified => ?_
  · rw [seesAccessibility_shift alignedHere]
    refine echoes_ite (fun _ => ?_) fun _ => echoes_pure ⟨rfl, alignedHere⟩
    exact (repeats_word alignedHere).passing.follow fun _ next =>
      echoes_pure ⟨rfl, next.aligned_shift distance⟩
  refine (aligned_eat modified.2 .ellipsis).bind
    fun _ named _ namedTwin alignedName => echoes_get ?_
  dsimp only
  rw [alignedName.seesWord]
  refine echoes_ite (fun _ => ?_) fun _ => ?_
  · exact (repeats_word alignedName).follow
      fun name _ => repeats_parameterEnd echoes _ _ (.identifier name)
  · exact (repeats_bindingName echoes alignedName).follow
      fun name _ => repeats_parameterEnd echoes _ _ name

theorem repeats_parameters (echoes : nested.Echoes distance twin)
    (aligned : Aligned distance cursor shifted) :
    Repeats distance (List.map (Parameter.relocate (Span.shift distance)))
      (parameters nested) (parameters twin) cursor shifted :=
  (repeats_expect aligned .openParen).follow fun _ _ =>
    repeats_commaSeparated fun here =>
      repeats_parameter echoes (here.aligned_shift distance)

theorem repeats_block (echoes : nested.Echoes distance twin)
    (aligned : Aligned distance cursor shifted) :
    Repeats distance (Block.relocate (Span.shift distance))
      (block nested) (block twin) cursor shifted := by
  refine echoes_tokenOffset aligned ?_
  refine (repeats_expect aligned .openBrace).follow fun _ inside => ?_
  refine Echoes.follow (repeats_repeating
    (List.map (Statement.relocate (Span.shift distance)))
    (List.map (Statement.relocate (Span.shift distance)))
    fun statements here => ?_) fun statements _ =>
      echoes_spanFrom (repeats_pure ?_)
  · have alignedHere := here.aligned_shift distance
    refine (decides_eat alignedHere .closeBrace).branch
      (fun _ => repeats_pure rfl) (echoes_get ?_)
    rw [alignedHere.atEnd, here.endOffset_shift]
    refine echoes_ite (fun _ => echoes_failAt _ ⟨_, _⟩) fun _ => ?_
    refine (echoes.statement _ _ alignedHere).follow fun statement _ =>
      repeats_pure ?_
    rw [Round.map, List.map_append]
    rfl
  · rw [← relocateStatements_eq_map]
    rfl

/-- Whether a function comes next does not depend on the bound, as long as that
exceeds the length of what follows. -/
theorem functionWithin_shift (bound : Nat) :
    ∀ (more : Nat) (cursor shifted : Cursor), Aligned distance cursor shifted →
      cursor.tokenStart.rest.length < bound →
        cursor.tokenStart.rest.length < more →
          functionWithin more shifted = functionWithin bound cursor := by
  induction bound with
  | zero =>
      intro more cursor shifted _ short
      exact absurd short (Nat.not_lt_zero _)
  | succ bound inductionHypothesis =>
      intro more cursor shifted aligned short shorter
      obtain ⟨rest, rfl⟩ := Nat.exists_eq_add_of_lt
        (Nat.lt_of_le_of_lt (Nat.zero_le _) shorter)
      rw [Nat.zero_add, functionWithin, functionWithin, aligned.word?,
        aligned.afterWord?]
      cases named : cursor.word? with
      | none => rfl
      | some word =>
          cases found : cursor.afterWord? with
          | none => rfl
          | some after =>
              -- The word has a character, so less follows it.
              obtain ⟨characters, front, rfl⟩ := Option.map_eq_some_iff.mp found
              obtain ⟨isPrefix, nonempty⟩ := wordAtFront?_isPrefix front
              have passed := Cursor.moves_of_isPrefix isPrefix nonempty
              have left := passed.length_le
              have token := (cursor.tokenStart.advance
                characters.length).moves_tokenStart.length_le
              dsimp only [Option.map_some]
              rw [inductionHypothesis rest _ _ (Cursor.aligned_shift _ distance)
                (by omega) (by omega)]

theorem functionFollows_shift (aligned : Aligned distance cursor shifted) :
    functionFollows shifted = functionFollows cursor := by
  have here := cursor.moves_tokenStart.length_le
  have there := shifted.moves_tokenStart.length_le
  rw [aligned.rest] at there
  exact functionWithin_shift _ _ cursor shifted aligned (by omega) (by omega)

theorem repeats_skipReturnType :
    Repeats distance id skipReturnType skipReturnType cursor
      (cursor.shift distance) :=
  (decides_eat (cursor.aligned_shift distance) .colon).branch
    (fun _ => repeats_skipType .body) (repeats_pure rfl)

theorem repeats_functionEnd (echoes : nested.Echoes distance twin)
    (modifiers : List Modifier) (isGenerator : Bool) (start : Nat)
    (name : Option Identifier) :
    Repeats distance (FunctionDeclaration.relocate (Span.shift distance))
      (functionEnd nested modifiers isGenerator start name)
      (functionEnd twin modifiers isGenerator (start + distance)
        (name.map (Identifier.relocate (Span.shift distance)))) cursor
      (cursor.shift distance) := by
  refine repeats_skipTypeParameters.follow fun _ headed => ?_
  refine (repeats_parameters echoes (headed.aligned_shift distance)).follow
    fun parameters bound => ?_
  refine repeats_skipReturnType.follow fun _ typed => echoes_get ?_
  have alignedType := typed.aligned_shift distance
  rw [alignedType.sees]
  refine echoes_ite (fun _ => ?_) fun _ => ?_
  · exact (repeats_block echoes alignedType).follow fun body next =>
      echoes_pure_bind (echoes_spanFrom (repeats_pure rfl))
  · exact repeats_semicolon.follow fun _ next =>
      echoes_pure_bind (echoes_spanFrom (repeats_pure rfl))

theorem repeats_function (echoes : nested.Echoes distance twin)
    (aligned : Aligned distance cursor shifted) (modifiers : List Modifier)
    (start : Nat) :
    Repeats distance (FunctionDeclaration.relocate (Span.shift distance))
      (function nested modifiers start)
      (function twin modifiers (start + distance)) cursor shifted := by
  refine Echoes.bind (aligned_repeating aligned
    fun modifiers here there alignedHere => ?_)
    fun modifiers bare found bareTwin outcome => ?_
  · refine (decides_eatWord alignedHere "async").branch
      (fun next => echoes_pure ⟨rfl, next.aligned_shift distance⟩) ?_
    exact (decides_eatWord alignedHere "declare").branch
      (fun next => echoes_pure ⟨rfl, next.aligned_shift distance⟩)
      (echoes_pure ⟨rfl, alignedHere⟩)
  obtain ⟨rfl, alignedBare⟩ := outcome
  refine (repeats_expectWord alignedBare "function").follow
    fun _ announced => ?_
  refine (repeats_eat .times).follow fun isGenerator starred => echoes_get ?_
  have alignedStar := starred.aligned_shift distance
  rw [alignedStar.seesIdentifier]
  refine echoes_ite (fun _ => ?_) fun _ => ?_
  · exact (repeats_identifier alignedStar).follow
      fun name _ => repeats_functionEnd echoes found isGenerator start (some name)
  · exact repeats_functionEnd echoes found isGenerator start none

theorem repeats_skipMethod (echoes : nested.Echoes distance twin) :
    Repeats distance id (skipMethod nested) (skipMethod twin) cursor
      (cursor.shift distance) := by
  refine repeats_skipTypeParameters.follow fun _ headed => ?_
  refine (repeats_parameters echoes
    (headed.aligned_shift distance)).passing.follow fun _ bound => ?_
  refine repeats_skipReturnType.follow fun _ typed => ?_
  exact (repeats_block echoes (typed.aligned_shift distance)).passing

end Grammar

end VelocityScript.Script
