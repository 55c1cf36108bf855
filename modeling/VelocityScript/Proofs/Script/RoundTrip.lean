import VelocityScript.Proofs.Script.ArrowHeads
import VelocityScript.Proofs.Script.Climbing
import VelocityScript.Proofs.Script.RestoredOperands
import VelocityScript.Proofs.Script.SafeStatements

/-!
# Parsing undoes rendering

An expression of the core, rendered as its tokens with single spaces between
them, is read back by the parser.  An operator ends the right operand of the
operator before it, unless it binds more tightly; so the chain of operators is
grouped as the expression was.
-/

namespace VelocityScript.Script

open VelocityScript.Script.Parser

namespace Grammar

variable {nested : Nested} {depth start : Nat} {base result : Expression}
  {span : Span} {cursor : Cursor} {rest : List Char}

/-! ## Operators between operands -/

theorem delivers_binaryStep {operator : BinaryOperator} {right : Expression}
    {least : Nat} (restore : nested.Restore depth)
    (agrees : base.Agrees result) (core : right.isCore = true)
    (short : right.tokens.length ≤ depth) (enough : least ≤ operator.level)
    (binds : right.bindsFrom operator.rightLevel = true)
    (follows : Follows operator.rightLevel rest)
    (standing : cursor.rest = spaced (operator.token :: right.tokens) rest) :
    Delivers (binaryStep nested least start result) cursor (fun outcome =>
      ∃ following, outcome = .again following ∧
        (Expression.binary operator base right span).Agrees following) rest := by
  have shows : cursor.Shows (operator.token :: right.tokens) rest :=
    Or.inl standing
  have faces := shows.faces operator.isSpelled_token follows.isBounded
  have bare : ¬ (least ≤ assertionLevel ∧ (!cursor.newlineBefore) = true ∧
      (cursor.seesWord "as" || cursor.seesWord "satisfies") = true) := by
    rintro ⟨-, -, assertion⟩
    rw [faces.seesWord, faces.seesWord] at assertion
    cases operator <;> cases assertion
  have low : operator.rightLevel ≤ prefixLevel := by
    cases operator <;> decide
  refine delivers_get ?_
  rw [if_neg bare,
    faces.binaryOperator? (follows.isBounded.ofTokens right.tokens)]
  dsimp only
  rw [if_pos enough]
  refine delivers_set ?_
  exact (restore.binary operator.rightLevel right core short binds low _ rest
    (Or.inl faces.rest_advance) follows).bind fun found next foundAgrees stops =>
      delivers_spanFrom
        (delivers_pure ⟨_, rfl, agrees.binary foundAgrees⟩ stops)

/-- No operator of the level follows. -/
theorem delivers_binaryEnd {least : Nat} (follows : Follows least rest)
    (standing : cursor.rest = rest) :
    Delivers (binaryStep nested least start result) cursor
      (· = .finished result) rest := by
  have bare : ¬ (least ≤ assertionLevel ∧ (!cursor.newlineBefore) = true ∧
      (cursor.seesWord "as" || cursor.seesWord "satisfies") = true) := by
    rintro ⟨-, -, assertion⟩
    rw [follows.seesWord_eq_false standing "as",
      follows.seesWord_eq_false standing "satisfies"] at assertion
    cases assertion
  refine delivers_get ?_
  rw [if_neg bare]
  cases found : cursor.binaryOperator? with
  | none => exact delivers_pure rfl standing
  | some read =>
      obtain ⟨operator, after⟩ := read
      have lower := follows.endsBefore standing operator after found
      dsimp only
      rw [if_neg (Nat.not_le.mpr lower)]
      exact delivers_pure rfl standing

end Grammar

/-- The level that ends an expression: no operator of that level goes on with
its right end. -/
def Expression.endLevel : Expression → Nat
  | .binary operator _ _ _ => operator.rightLevel
  | _ => prefixLevel

theorem Expression.lt_endLevel {source : Expression} {operator : BinaryOperator}
    (core : source.isCore = true)
    (binds : source.bindsFrom operator.level = true) :
    operator.level < source.endLevel := by
  cases source with
  | binary root left right span =>
      simp only [Expression.isCore, Bool.and_eq_true, bne_iff_ne] at core
      have higher : operator.level ≤ root.level := of_decide_eq_true binds
      have next : root.rightLevel = root.level + 1 := if_neg core.1.1.1.1
      rw [Expression.endLevel, next]
      omega
  | _ => exact level_lt_prefixLevel operator

theorem Expression.le_endLevel {source : Expression} {least : Nat}
    (below : least ≤ prefixLevel) (binds : source.bindsFrom least = true) :
    least ≤ source.endLevel := by
  cases source with
  | binary root left right span =>
      have higher : least ≤ root.level := of_decide_eq_true binds
      exact Nat.le_trans higher root.level_le_rightLevel
  | _ => exact below

theorem Expression.bindsFrom_mono {source : Expression} {least lower : Nat}
    (below : lower ≤ least) (binds : source.bindsFrom least = true) :
    source.bindsFrom lower = true := by
  cases source with
  | binary root left right span =>
      have higher : least ≤ root.level := of_decide_eq_true binds
      exact decide_eq_true (Nat.le_trans below higher)
  | _ => rfl

namespace Grammar

variable {nested : Nested} {depth start : Nat} {source : Expression}

/-- A chain of operators is read along its left side: first the operand at the
front, then operator after operator. -/
theorem chains_operators (restore : nested.Restore depth) {least : Nat} :
    ∀ {source : Expression}, source.isCore = true →
      source.tokens.length ≤ depth + 1 → source.bindsFrom least = true →
        Chains (unary nested) (binaryStep nested least start)
          (Follows source.endLevel) source
  | .binary operator left right _, core, short, binds => by
      simp only [Expression.isCore, Bool.and_eq_true, bne_iff_ne] at core
      obtain ⟨⟨⟨⟨other, bindsLeft⟩, bindsRight⟩, coreLeft⟩, coreRight⟩ := core
      have enough : least ≤ operator.level := of_decide_eq_true binds
      rw [Expression.tokens, List.length_append, List.length_cons] at short
      refine (chains_operators restore coreLeft (by omega)
        (Expression.bindsFrom_mono enough bindsLeft)).extend rfl ?_ ?_
      · intro rest follows
        exact .operator other (Expression.lt_endLevel coreLeft bindsLeft)
          (follows.isBounded.ofTokens right.tokens)
      · intro result cursor rest agrees follows standing
        obtain ⟨token, others, same, -⟩ := Expression.exists_opens coreLeft
        rw [same, List.length_cons] at short
        exact delivers_binaryStep restore agrees coreRight (by omega) enough
          bindsRight follows standing
  | .identifier _, core, short, _ | .receiver _, core, short, _
  | .boolean _ _, core, short, _ | .number _ _, core, short, _
  | .array _ _, core, short, _ | .parenthesized _ _, core, short, _
  | .unary _ _ _, core, short, _ | .member _ _ _ _, core, short, _
  | .index _ _ _, core, short, _ | .call _ _ _ _, core, short, _ =>
      (restores_unary restore core rfl short).chains

theorem restores_binary (restore : nested.Restore depth)
    (core : source.isCore = true) (short : source.tokens.length ≤ depth + 1)
    {least : Nat} (binds : source.bindsFrom least = true)
    (below : least ≤ prefixLevel) :
    Restores (binary nested least) (Follows least) source := by
  intro cursor rest shows follows
  have chains : Chains (unary nested)
      (binaryStep nested least cursor.tokenStart.offset) (Follows least) source :=
    (chains_operators restore core short binds).weaken fun _ holds =>
      holds.mono (Expression.le_endLevel below binds)
  exact delivers_tokenOffset
    (chains.restores (fun _ _ _ => delivers_binaryEnd) cursor rest shows follows)

theorem restores_conditional (restore : nested.Restore depth)
    (core : source.isCore = true) (short : source.tokens.length ≤ depth + 1) :
    Restores (conditional nested) (Follows 1) source := by
  have binds : source.bindsFrom 1 = true := by
    cases source with
    | binary operator left right span => cases operator <;> rfl
    | _ => rfl
  intro cursor rest shows follows
  refine delivers_tokenOffset ?_
  refine (restores_binary restore core short binds (by decide) cursor rest shows
    follows).bind fun condition next agrees standing => ?_
  exact delivers_uneaten (follows.sees_eq_false standing .question)
    (delivers_pure agrees standing)

/-- No assignment follows an expression. -/
theorem assignment?_of_follows {least : Nat} {cursor : Cursor}
    {rest : List Char} (follows : Follows least rest)
    (standing : cursor.rest = rest) {mark : Punctuator}
    (seen : cursor.punctuator? = some mark) : mark.assignment? = none := by
  have table : ∀ mark : Punctuator,
      ((Token.punctuator mark).follows && mark.assignment?.isSome) = false := by
    intro mark
    cases mark <;> rfl
  rcases follows.faces standing with ended | ⟨token, behind, faces, comes⟩
  · rw [ended.punctuator] at seen
    cases seen
  · rw [faces.punctuator] at seen
    have entry := table mark
    rw [Token.eq_punctuator seen] at comes
    rw [comes, Bool.true_and] at entry
    exact Option.isNone_iff_eq_none.mp (by simpa using entry)

theorem restores_assignment (restore : nested.Restore depth)
    (core : source.isCore = true) (short : source.tokens.length ≤ depth + 1) :
    Restores (assignment nested) (Follows 1) source := by
  intro cursor rest shows follows
  refine delivers_tokenOffset ?_
  refine Delivers.of_eq ?_ (bind_of_ok
    (arrowFunction_of_fails (fails_arrowHead core shows follows)))
  rw [if_neg Bool.false_ne_true]
  refine (restores_conditional restore core short cursor rest shows follows).bind
    fun target next agrees standing => delivers_get ?_
  cases seen : next.punctuator? with
  | none => exact delivers_pure agrees standing
  | some mark =>
      dsimp only
      rw [assignment?_of_follows follows standing seen]
      exact delivers_pure agrees standing

end Grammar

/-! ## The whole expression -/

theorem Nested.Restore.deeper {nested : Nested} {depth : Nat}
    (restore : nested.Restore depth) : nested.deeper.Restore (depth + 1) where
  assignment _ core short := Grammar.restores_assignment restore core short
  binary _ _ core short binds below :=
    Grammar.restores_binary restore core short binds below
  unary _ core short binds := Grammar.restores_unary restore core binds short

theorem Nested.ofDepth_restore (depth : Nat) :
    (Nested.ofDepth depth).Restore depth := by
  induction depth with
  | zero =>
      have never : ∀ {source : Expression}, source.isCore = true →
          ¬ source.tokens.length ≤ 0 := by
        intro source core short
        obtain ⟨token, others, same, -⟩ := Expression.exists_opens core
        rw [same] at short
        exact Nat.not_succ_le_zero _ short
      exact ⟨fun _ core short => (never core short).elim,
        fun _ _ core short => (never core short).elim,
        fun _ core short => (never core short).elim⟩
  | succ depth inductionHypothesis => exact inductionHypothesis.deeper

theorem Expression.toList_rendering (source : Expression) :
    source.rendering.toList =
      [' '].intercalate (source.tokens.map Token.characters) := by
  have spelled : String.toList ∘ Token.text = Token.characters := by
    funext token
    exact String.toList_ofList
  rw [Expression.rendering, String.toList_intercalate, List.map_map, spelled]
  rfl

/-- A rendered expression shows its tokens; only the first space is missing. -/
theorem Expression.space_cons_text {source : Expression}
    (core : source.isCore = true) (tail : String) :
    ' ' :: (source.rendering ++ tail).toList =
      spaced source.tokens tail.toList := by
  obtain ⟨token, others, same, -⟩ := Expression.exists_opens core
  rw [← space_cons_rendering source.tokens tail.toList (by rw [same]; nofun),
    ← Expression.toList_rendering, String.toList_append]

/-- What an expression has been read from is what is no longer left. -/
theorem offset_of_rest {text : List Char} {tail : List Char} {depth : Nat}
    {result : Expression} {next : Cursor}
    (enough : (text ++ tail).length < depth)
    (ran : Grammar.expression (Nested.ofDepth depth) ⟨0, text ++ tail⟩ =
      .ok (result, next))
    (standing : next.rest = tail) : next.offset = byteLength text := by
  have reads := Grammar.reads_expression
    (Nested.ofDepth_safe (text ++ tail) depth) (Cursor.Moves.refl _) enough
  unfold Reads Runs at reads
  rw [ran] at reads
  obtain ⟨passed, split, counted, -⟩ := reads
  rw [standing] at split
  have same : text = passed := List.append_cancel_right split
  rw [counted, same]
  exact Nat.zero_add _

/-- Parsing a rendered expression of the core, with a semicolon or the end of
the text behind it, gives the expression back up to the places of its parts and
stops right behind its last token. -/
theorem expression_restores_rendering (source : Expression)
    (core : source.isCore = true) (tail : String)
    (closed : tail = "" ∨ ∃ rest, tail = ";" ++ rest ∨ tail = " ;" ++ rest)
    (depth : Nat)
    (enough : (source.rendering ++ tail).length < depth) :
    ∃ result next,
      Grammar.expression (Nested.ofDepth depth)
          (Cursor.ofText (source.rendering ++ tail)) = .ok (result, next) ∧
        result.withoutSpans = source.withoutSpans ∧
        next.rest = tail.toList ∧
        next.offset = byteLength source.rendering.toList := by
  have closes : Closes tail.toList := by
    rcases closed with rfl | ⟨rest, rfl | rfl⟩
    · exact .ended
    · rw [String.toList_append]
      exact .terminated _
    · rw [String.toList_append]
      exact .separated _
  have text := Expression.space_cons_text core tail
  have shows : (Cursor.ofText (source.rendering ++ tail)).Shows source.tokens
      tail.toList := Or.inr text
  have length : source.tokens.length ≤ depth := by
    have counted := length_le_spaced source.tokens tail.toList
    rw [← text, List.length_cons, String.length_toList,
      String.length_toList] at counted
    omega
  obtain ⟨result, next, ran, agrees, standing⟩ :=
    Grammar.restores_expression (Nested.ofDepth_restore depth) core length _ _
      shows closes
  have split := String.toList_append (s := source.rendering) (t := tail)
  refine ⟨result, next, ran, agrees, standing, ?_⟩
  rw [← String.length_toList, split] at enough
  rw [Cursor.ofText, split] at ran
  exact offset_of_rest enough ran standing

/-- Operators of several kinds, accesses, a keyword as the name of a property,
and what looks like the head of an arrow function. -/
theorem expression_restores_rendering_mixed :
    ∃ source : Expression,
      source.rendering =
        "( x - 1 - y ) < as && ! a . in ( [ 1 , b ] [ 0 ] , this )" ∧
      ∃ result next,
        Grammar.expression (Nested.ofDepth 70)
            (.ofText (source.rendering ++ "; => z")) = .ok (result, next) ∧
          result.withoutSpans = source.withoutSpans ∧
          next.rest = "; => z".toList ∧
          next.offset = byteLength source.rendering.toList := by
  let at0 : Span := ⟨0, 0⟩
  let name (text : String) : Expression := .identifier { name := text, span := at0 }
  let difference : Expression :=
    .binary .subtract (.binary .subtract (name "x") (.number "1" at0) at0)
      (name "y") at0
  let callee : Expression :=
    .member (name "a") { name := "in", span := at0 } false at0
  let arguments : List Expression :=
    [.index (.array [.number "1" at0, name "b"] at0) (.number "0" at0) at0,
      .receiver at0]
  let source : Expression :=
    .binary .and
      (.binary .less (.parenthesized difference at0) (name "as") at0)
      (.unary .not (.call callee arguments .unknown at0) at0) at0
  have rendered : source.rendering =
      "( x - 1 - y ) < as && ! a . in ( [ 1 , b ] [ 0 ] , this )" := by
    decide +kernel
  refine ⟨source, rendered, expression_restores_rendering source
    (by decide +kernel) "; => z" (Or.inr ⟨" => z", Or.inl (by decide)⟩) 70 ?_⟩
  rw [rendered]
  decide

end VelocityScript.Script
