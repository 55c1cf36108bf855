import VelocityScript.Proofs.Script.Restoring

/-!
# Restored operands

An operand of the core is a name, a literal or an expression between brackets,
with accesses and calls behind it and operators in front of it.
-/

namespace VelocityScript.Script.Grammar

open VelocityScript.Script.Parser

variable {nested : Nested} {depth : Nat} {source : Expression}
  {cursor : Cursor} {rest : List Char}

/-! ## Operands without accesses -/

theorem startsNumber_of_isDigit {first : Char} {others : List Char}
    (digit : first.isDigit = true) : startsNumber (first :: others) = true := by
  unfold startsNumber
  split
  · next same =>
      injection same with head
      rw [head] at digit
      cases digit
  · next same =>
      injection same with head
      rw [← head]
      exact digit
  · next same => cases same

theorem startsNumber_of_isNameStart {first : Char} {others : List Char}
    (starts : isNameStart first = true) :
    startsNumber (first :: others) = false := by
  unfold startsNumber
  split
  · next same =>
      injection same with head
      rw [head] at starts
      cases starts
  · next same =>
      injection same with head
      rw [← head, Bool.eq_false_iff]
      intro digit
      rw [isNameStart_of_isDigit digit] at starts
      cases starts
  · rfl

/-- A word is read as a word, whatever its first character is. -/
theorem delivers_primary_word {name : String} {kind : Expression → Prop}
    (word : isWord name = true) (bounded : IsBounded rest)
    (faces : cursor.Faces (.word name) rest)
    (continues : ∀ here : Cursor, here.Faces (.word name) rest →
      here.rest = name.toList ++ rest →
        Delivers (wordExpression nested name here.offset) here kind rest) :
    Delivers (primary nested) cursor kind rest := by
  obtain ⟨first, others, spelled, starts, -⟩ := exists_of_isWord word
  have facesStart : cursor.tokenStart.Faces (.word name) rest :=
    Cursor.faces_of_isSpelled word bounded (Or.inl faces.front)
  have front : cursor.tokenStart.rest = first :: (others ++ rest) := by
    rw [faces.front, Token.characters, spelled]
    rfl
  have unquoted : ¬ (first = '"' ∨ first = '\'') :=
    not_or.mpr ⟨ne_of_test '"' starts, ne_of_test '\'' starts⟩
  refine delivers_skipTrivia (delivers_get ?_)
  dsimp only
  rw [front]
  dsimp only
  rw [startsNumber_of_isNameStart starts, if_neg Bool.false_ne_true,
    if_neg unquoted, if_neg (ne_of_test '\x60' starts),
    if_neg (ne_of_test '(' starts), if_neg (ne_of_test '[' starts),
    if_neg (ne_of_test '\x7b' starts), if_neg (ne_of_test '/' starts),
    facesStart.word]
  exact continues cursor.tokenStart facesStart faces.front

theorem restores_identifier {named : Identifier}
    (unresolved : named.binding = .unresolved) (name : isName named.name = true) :
    Restores (primary nested) IsBounded (.identifier named) := by
  intro cursor rest shows bounded
  have word := isWord_of_isName name
  have free : isReserved named.name = false := by
    simp only [isName, Bool.and_eq_true, Bool.not_eq_true'] at name
    exact name.1.1.2
  have other : ∀ word, isReserved word = true → named.name ≠ word := by
    intro word reserved same
    rw [same, reserved] at free
    cases free
  have faces : cursor.Faces (.word named.name) rest := shows.faces word bounded
  refine delivers_primary_word word bounded faces fun here facesHere _ => ?_
  unfold wordExpression
  rw [if_neg (other "this" rfl), if_neg (other "true" rfl),
    if_neg (other "false" rfl), if_neg (other "null" rfl),
    if_neg (other "super" rfl), if_neg (other "function" rfl),
    if_neg (other "class" rfl)]
  refine (delivers_identifier facesHere free).bind
    fun found next same standing => delivers_pure ?_ standing
  obtain ⟨name, span, binding⟩ := found
  obtain ⟨rfl, rfl⟩ := same
  simp [Expression.Agrees, Expression.withoutSpans, Expression.relocate,
    Identifier.relocate, unresolved]

/-- A word that is an expression by itself is read as that expression. -/
theorem restores_keyword {name : String} (make : Span → Expression)
    (word : isWord name = true) (tokens : source.tokens = [.word name])
    (reads : ∀ start, wordExpression nested name start = (do
      skip name.toList.length
      return make (← spanFrom start)))
    (agrees : ∀ span, source.Agrees (make span)) :
    Restores (primary nested) IsBounded source := by
  intro cursor rest shows bounded
  rw [tokens] at shows
  refine delivers_primary_word word bounded (shows.faces word bounded)
    fun here _ standing => ?_
  rw [reads]
  refine delivers_skip (delivers_spanFrom (delivers_pure (agrees _) ?_))
  rw [Cursor.advance, standing]
  exact List.drop_left

theorem restores_receiver {span : Span} :
    Restores (primary nested) IsBounded (.receiver span) :=
  restores_keyword .receiver rfl rfl (fun _ => rfl) fun _ => rfl

theorem restores_boolean {truth : Bool} {span : Span} :
    Restores (primary nested) IsBounded (.boolean truth span) := by
  cases truth with
  | true =>
      exact restores_keyword (.boolean true) rfl rfl (fun _ => rfl) fun _ => rfl
  | false =>
      exact restores_keyword (.boolean false) rfl rfl (fun _ => rfl) fun _ => rfl

theorem restores_number {text : String} {span : Span}
    (integer : isInteger text = true) :
    Restores (primary nested) IsBounded (.number text span) := by
  intro cursor rest shows bounded
  have faces : cursor.Faces (.number text) rest := shows.faces integer bounded
  obtain ⟨first, others, spelled, digit, -⟩ := exists_of_isInteger integer
  have front : cursor.tokenStart.rest = first :: (others ++ rest) := by
    rw [faces.front, Token.characters, spelled]
    rfl
  refine delivers_skipTrivia (delivers_get ?_)
  dsimp only
  rw [front]
  dsimp only
  rw [if_pos (startsNumber_of_isDigit digit)]
  refine (delivers_number integer bounded faces.front).bind
    fun token next same standing => ?_
  rw [same, if_neg Bool.false_ne_true]
  exact delivers_spanFrom (delivers_pure rfl standing)

theorem restores_parenthesized {inner : Expression} {span : Span}
    (restore : nested.Restore depth) (core : inner.isCore = true)
    (short : inner.tokens.length ≤ depth) :
    Restores (primary nested) IsBounded (.parenthesized inner span) := by
  intro cursor rest shows bounded
  have faces : cursor.Faces (.punctuator .openParen)
      (spaced (inner.tokens ++ [.punctuator .closeParen]) rest) :=
    shows.faces rfl bounded
  rw [spaced_append] at faces
  have front := faces.front
  refine delivers_skipTrivia (delivers_get ?_)
  dsimp only
  rw [front]
  refine delivers_skip ?_
  have opened : (cursor.tokenStart.advance 1).rest =
      spaced inner.tokens (spaced [.punctuator .closeParen] rest) :=
    faces.rest_advance
  refine (restores_expression restore core short _ _ (Or.inl opened)
    (.parenthesis bounded)).bind fun found next agrees standing => ?_
  have showsClosing : next.Shows [.punctuator .closeParen] rest :=
    Or.inl standing
  refine delivers_expect (showsClosing.faces rfl bounded) fun final stops =>
    delivers_spanFrom (delivers_pure agrees.parenthesized stops)

theorem restores_array {elements : List Expression} {span : Span}
    (restore : nested.Restore depth) (core : areCore elements = true)
    (short : (separatedTokens elements).length ≤ depth) :
    Restores (primary nested) IsBounded (.array elements span) := by
  intro cursor rest shows bounded
  have faces : cursor.Faces (.punctuator .openBracket)
      (spaced (separatedTokens elements ++ [.punctuator .closeBracket]) rest) :=
    shows.faces rfl bounded
  have facesStart : cursor.tokenStart.Faces (.punctuator .openBracket)
      (spaced (separatedTokens elements ++ [.punctuator .closeBracket]) rest) :=
    Cursor.faces_of_isSpelled rfl (bounded.ofTokens _) (Or.inl faces.front)
  have front := faces.front
  refine delivers_skipTrivia (delivers_get ?_)
  dsimp only
  rw [front]
  refine (delivers_arrayElements restore core short bounded facesStart).bind
    fun results next agreeAll standing =>
      delivers_spanFrom (delivers_pure ?_ standing)
  exact agreeAll.array

/-! ## Accesses and calls -/

theorem bind_eatMemberDot {Result : Type} {continued : Bool → Parser Result}
    (dot : cursor.sees .dot = false)
    (optionalDot : cursor.sees .optionalDot = false) :
    (eatMemberDot >>= continued) cursor = continued false cursor := by
  refine bind_of_ok ((bind_eat_of_unseen dot).trans ?_)
  have unfolded : eatOptionalDot cursor =
      (if cursor.sees .optionalDot = true then _ else pure false :
        Parser Bool) cursor := rfl
  rw [if_neg Bool.false_ne_true, unfolded, optionalDot]
  rfl

theorem bind_eatIndexOpening {Result : Type} {continued : Bool → Parser Result}
    (optionalDot : cursor.sees .optionalDot = false) :
    (eatIndexOpening >>= continued) cursor =
      continued (cursor.sees .openBracket) cursor := by
  have uneaten : eatIndexOpening cursor =
      .ok (cursor.sees .openBracket, cursor) := bind_eat_of_unseen optionalDot
  exact bind_of_ok uneaten

variable {start : Nat} {base result : Expression} {span : Span}

theorem delivers_member {property : Identifier} (agrees : base.Agrees result)
    (unresolved : property.binding = .unresolved)
    (word : isWord property.name = true) (bounded : IsBounded rest)
    (standing : cursor.rest =
      spaced [.punctuator .dot, .word property.name] rest) :
    Delivers (accessStep nested start result) cursor (fun outcome =>
      ∃ following, outcome = .again following ∧
        (Expression.member base property false span).Agrees following) rest := by
  have shows : cursor.Shows [.punctuator .dot, .word property.name] rest :=
    Or.inl standing
  have dotted : Delivers eatMemberDot cursor (· = true)
      (spaced [.word property.name] rest) :=
    delivers_eat (shows.faces rfl bounded) fun next passed =>
      delivers_pure rfl passed
  refine dotted.bind fun taken here same passed => ?_
  rw [same, if_pos rfl]
  have showsWord : here.Shows [.word property.name] rest := Or.inl passed
  have faces := showsWord.faces word bounded
  have unseen : here.sees .hash = false := by
    rw [faces.sees]
    rfl
  refine delivers_uneaten unseen ?_
  refine (delivers_word faces).bind fun found next named stops =>
    delivers_spanFrom (delivers_pure ⟨_, rfl, ?_⟩ stops)
  exact agrees.member ⟨named.1, named.2.trans unresolved.symm⟩

theorem delivers_index {subscript : Expression} (restore : nested.Restore depth)
    (agrees : base.Agrees result) (core : subscript.isCore = true)
    (short : subscript.tokens.length ≤ depth) (bounded : IsBounded rest)
    (standing : cursor.rest = spaced (.punctuator .openBracket ::
      (subscript.tokens ++ [.punctuator .closeBracket])) rest) :
    Delivers (accessStep nested start result) cursor (fun outcome =>
      ∃ following, outcome = .again following ∧
        (Expression.index base subscript span).Agrees following) rest := by
  have shows : cursor.Shows (.punctuator .openBracket ::
      (subscript.tokens ++ [.punctuator .closeBracket])) rest := Or.inl standing
  have faces := shows.faces rfl bounded
  rw [spaced_append] at faces
  refine Delivers.of_eq ?_
    (bind_eatMemberDot (faces.sees .dot) (faces.sees .optionalDot))
  rw [if_neg Bool.false_ne_true]
  refine Delivers.of_eq ?_ (bind_eatIndexOpening (faces.sees .optionalDot))
  rw [faces.sees .openBracket]
  refine delivers_get ?_
  rw [faces.sees .openParen]
  refine delivers_expect faces fun here opened => ?_
  refine (restores_expression restore core short _ _ (Or.inl opened)
    (.bracket bounded)).bind fun found next foundAgrees passed => ?_
  have showsClosing : next.Shows [.punctuator .closeBracket] rest :=
    Or.inl passed
  exact delivers_expect (showsClosing.faces rfl bounded) fun final stops =>
    delivers_spanFrom (delivers_pure ⟨_, rfl, agrees.index foundAgrees⟩ stops)

theorem delivers_call {sources : List Expression}
    (restore : nested.Restore depth) (agrees : base.Agrees result)
    (core : areCore sources = true)
    (short : (separatedTokens sources).length ≤ depth)
    (bounded : IsBounded rest)
    (standing : cursor.rest = spaced (.punctuator .openParen ::
      (separatedTokens sources ++ [.punctuator .closeParen])) rest) :
    Delivers (accessStep nested start result) cursor (fun outcome =>
      ∃ following, outcome = .again following ∧
        (Expression.call base sources .unknown span).Agrees following) rest := by
  have shows : cursor.Shows (.punctuator .openParen ::
      (separatedTokens sources ++ [.punctuator .closeParen])) rest :=
    Or.inl standing
  have faces := shows.faces rfl bounded
  refine Delivers.of_eq ?_
    (bind_eatMemberDot (faces.sees .dot) (faces.sees .optionalDot))
  rw [if_neg Bool.false_ne_true]
  refine Delivers.of_eq ?_ (bind_eatIndexOpening (faces.sees .optionalDot))
  rw [faces.sees .openBracket]
  refine delivers_get ?_
  rw [faces.sees .openParen]
  exact (delivers_arguments restore core short bounded faces).bind
    fun found next agreeAll stops =>
      delivers_spanFrom (delivers_pure ⟨_, rfl, agrees.call agreeAll⟩ stops)

/-- Nothing that follows an expression goes on with its accesses. -/
theorem delivers_accessEnd {least : Nat} (follows : Follows least rest)
    (standing : cursor.rest = rest) :
    Delivers (accessStep nested start result) cursor (· = .finished result)
      rest := by
  have optionalDot := follows.sees_eq_false standing .optionalDot
  refine Delivers.of_eq ?_
    (bind_eatMemberDot (follows.sees_eq_false standing .dot) optionalDot)
  rw [if_neg Bool.false_ne_true]
  refine Delivers.of_eq ?_ (bind_eatIndexOpening optionalDot)
  rw [follows.sees_eq_false standing .openBracket, if_neg Bool.false_ne_true]
  refine delivers_get ?_
  rw [follows.sees_eq_false standing .openParen,
    follows.sees_eq_false standing .not, Bool.false_and,
    if_neg Bool.false_ne_true, if_neg Bool.false_ne_true,
    if_neg (follows.tokenCharacter?_ne standing)]
  exact delivers_pure rfl standing

/-- An expression that no operator precedes is read along its left side: first
the operand at the front, then access after access. -/
theorem chains_accesses (restore : nested.Restore depth) :
    ∀ {source : Expression}, source.isCore = true → source.isBase = true →
      source.tokens.length ≤ depth + 1 →
        Chains (primary nested) (accessStep nested start) IsBounded source
  | .identifier named, core, _, _ => by
      simp only [Expression.isCore, Bool.and_eq_true, beq_iff_eq] at core
      exact (restores_identifier core.1 core.2).chains
  | .receiver _, _, _, _ => restores_receiver.chains
  | .boolean _ _, _, _, _ => restores_boolean.chains
  | .number _ _, core, _, _ => (restores_number core).chains
  | .array elements _, core, _, short => by
      rw [Expression.tokens, List.length_cons, List.length_append] at short
      exact (restores_array restore core (by omega)).chains
  | .parenthesized inner _, core, _, short => by
      have inside : inner.isCore = true := core
      rw [Expression.tokens, List.length_cons, List.length_append] at short
      exact (restores_parenthesized restore inside (by omega)).chains
  | .member base property isPrivate _, core, _, short => by
      simp only [Expression.isCore, Bool.and_eq_true, beq_iff_eq,
        Bool.not_eq_true'] at core
      obtain ⟨⟨⟨⟨unresolved, word⟩, rfl⟩, isBase⟩, coreBase⟩ := core
      rw [Expression.tokens, List.length_append] at short
      refine (chains_accesses restore coreBase isBase (by omega)).extend rfl
        (fun _ _ => .spaced _) ?_
      intro result cursor rest agrees bounded standing
      exact delivers_member agrees unresolved word bounded standing
  | .index base subscript _, core, _, short => by
      simp only [Expression.isCore, Bool.and_eq_true] at core
      rw [Expression.tokens, List.length_append, List.length_cons,
        List.length_append] at short
      refine (chains_accesses restore core.1.2 core.1.1 (by omega)).extend rfl
        (fun _ _ => .spaced _) ?_
      intro result cursor rest agrees bounded standing
      exact delivers_index restore agrees core.2 (by omega) bounded standing
  | .call callee arguments returns _, core, _, short => by
      simp only [Expression.isCore, Bool.and_eq_true, beq_iff_eq] at core
      obtain ⟨⟨⟨rfl, isBase⟩, coreBase⟩, coreArguments⟩ := core
      rw [Expression.tokens, List.length_append, List.length_cons,
        List.length_append] at short
      refine (chains_accesses restore coreBase isBase (by omega)).extend rfl
        (fun _ _ => .spaced _) ?_
      intro result cursor rest agrees bounded standing
      exact delivers_call restore agrees coreArguments (by omega) bounded
        standing

theorem restores_leftHandSide (restore : nested.Restore depth)
    (core : source.isCore = true) (isBase : source.isBase = true)
    (short : source.tokens.length ≤ depth + 1) (least : Nat) :
    Restores (leftHandSide nested) (Follows least) source := by
  intro cursor rest shows follows
  obtain ⟨token, behind, faces, starts⟩ :=
    shows.exists_startsBase core isBase follows.isBounded
  refine delivers_tokenOffset ?_
  refine Delivers.of_eq ?_
    (bind_eatWord_of_unseen (faces.seesWord_eq_false starts "new"))
  have chains : Chains (primary nested)
      (accessStep nested cursor.tokenStart.offset) (Follows least) source :=
    (chains_accesses restore core isBase short).weaken fun _ => Follows.isBounded
  exact chains.restores (fun _ _ _ => delivers_accessEnd) cursor rest shows
    follows

theorem restores_postfixExpression (restore : nested.Restore depth)
    (core : source.isCore = true) (isBase : source.isBase = true)
    (short : source.tokens.length ≤ depth + 1) (least : Nat) :
    Restores (postfixExpression nested) (Follows least) source := by
  intro cursor rest shows follows
  refine delivers_tokenOffset ?_
  refine (restores_leftHandSide restore core isBase short least cursor rest
    shows follows).bind fun operand next agrees standing => delivers_get ?_
  rw [follows.sees_eq_false standing .increment,
    follows.sees_eq_false standing .decrement, Bool.or_false, Bool.and_false,
    if_neg Bool.false_ne_true]
  exact delivers_pure agrees standing

/-! ## Operators in front of an operand -/

theorem unaryOperator?_of_faces {operator : UnaryOperator} {token : Token}
    (known : operator.coreToken? = some token)
    (faces : cursor.Faces token rest) :
    unaryOperator? cursor =
      some (operator, cursor.tokenStart.advance token.characters.length) := by
  have seen : Punctuator.atFront? cursor.tokenStart.rest = token.punctuator? :=
    faces.punctuator
  simp only [unaryOperator?]
  rw [seen]
  cases operator with
  | not =>
      cases known
      rfl
  | minus =>
      cases known
      rfl
  | _ => cases known

theorem unaryOperator?_of_startsBase {token : Token}
    (faces : cursor.Faces token rest) (starts : token.startsBase = true) :
    unaryOperator? cursor = none := by
  have seen : Punctuator.atFront? cursor.tokenStart.rest = token.punctuator? :=
    faces.punctuator
  simp only [unaryOperator?]
  rw [seen, faces.seesWord_eq_false starts "typeof",
    faces.seesWord_eq_false starts "void",
    faces.seesWord_eq_false starts "delete"]
  cases token with
  | word name => rfl
  | number text => rfl
  | punctuator mark =>
      simp only [Token.startsBase, Bool.or_eq_true, beq_iff_eq] at starts
      rcases starts with rfl | rfl
      · rfl
      · rfl

theorem restores_prefixed {operator : UnaryOperator} {operand : Expression}
    (restore : nested.Restore depth) (core : operand.isCore = true)
    (known : operator.coreToken?.isSome = true)
    (binds : operand.bindsFrom prefixLevel = true)
    (short : operand.tokens.length ≤ depth) :
    Restores (unary nested) (Follows prefixLevel)
      (.unary operator operand span) := by
  intro cursor rest shows follows
  obtain ⟨token, named⟩ := Option.isSome_iff_exists.mp known
  have spelled : token.isSpelled = true := by
    rcases UnaryOperator.coreToken?_cases known with rfl | rfl
    · cases named
      rfl
    · cases named
      rfl
  rw [Expression.tokens, named] at shows
  have faces : cursor.Faces token (spaced operand.tokens rest) :=
    shows.faces spelled follows.isBounded
  refine delivers_get ?_
  dsimp only
  rw [unaryOperator?_of_faces named faces]
  refine delivers_set ?_
  exact (restore.unary operand core short binds _ rest
    (Or.inl faces.rest_advance) follows).bind fun found next agrees standing =>
      delivers_spanFrom (delivers_pure agrees.unary standing)

theorem restores_base (restore : nested.Restore depth)
    (core : source.isCore = true) (isBase : source.isBase = true)
    (short : source.tokens.length ≤ depth + 1) (least : Nat) :
    Restores (unary nested) (Follows least) source := by
  intro cursor rest shows follows
  obtain ⟨token, behind, faces, starts⟩ :=
    shows.exists_startsBase core isBase follows.isBounded
  have awaitless : seesAwait cursor = false := by
    rw [seesAwait, faces.seesWord_eq_false starts "await"]
    rfl
  refine delivers_get ?_
  dsimp only
  rw [unaryOperator?_of_startsBase faces starts]
  dsimp only
  rw [awaitless, faces.sees_eq_false starts .less, if_neg Bool.false_ne_true,
    if_neg Bool.false_ne_true]
  exact restores_postfixExpression restore core isBase short least cursor rest
    shows follows

/-- An operand of a binary operator that is none itself. -/
theorem restores_unary (restore : nested.Restore depth)
    (core : source.isCore = true)
    (operand : source.bindsFrom prefixLevel = true)
    (short : source.tokens.length ≤ depth + 1) :
    Restores (unary nested) (Follows prefixLevel) source := by
  cases source with
  | unary operator inner span =>
      simp only [Expression.isCore, Bool.and_eq_true] at core
      obtain ⟨⟨known, binds⟩, coreInner⟩ := core
      obtain ⟨token, named⟩ := Option.isSome_iff_exists.mp known
      rw [Expression.tokens, named] at short
      exact restores_prefixed restore coreInner known binds
        (Nat.le_of_succ_le_succ short)
  | binary operator left right span =>
      have low := level_lt_prefixLevel operator
      have high : prefixLevel ≤ operator.level := of_decide_eq_true operand
      omega
  | _ => exact restores_base restore core rfl short prefixLevel

end VelocityScript.Script.Grammar
