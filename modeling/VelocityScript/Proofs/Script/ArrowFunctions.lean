import VelocityScript.Proofs.Script.ArrowHeads
import VelocityScript.Proofs.Script.TypeEnds

/-!
# Arrow functions

The head of an arrow function is read on trial, and where it is not found nothing
has been read.  A list of parameters in parentheses may have a type behind it.
But a type goes on over the arrow, and ends in front of something else: no arrow
function with a type of its result is recognised.
-/

namespace VelocityScript.Script

open VelocityScript.Script.Parser

/-! ## Lists of parameters -/

/-- Whether a text closes the parentheses that it opens and as many more as are
open in front of it, and no others. -/
def closesParentheses : Nat → List Char → Bool
  | depth, [] => depth == 0
  | depth, character :: others =>
      (character != ')' || depth != 0) &&
        closesParentheses (depthAfter character depth) others

/-- Whether neither a quotation nor a comment starts in a text. -/
def areUnquoted : List Char → Bool
  | [] => true
  | character :: others => isUnquoted character others && areUnquoted others

/-- The text of a list of parameters: its parentheses are balanced, and it has
neither quotations nor comments. -/
structure IsParameterList (text : List Char) : Prop where
  closes : closesParentheses 0 text = true
  unquoted : areUnquoted text = true

theorem isUnquoted_append {character : Char} {others : List Char}
    (unquoted : isUnquoted character others = true) (rest : List Char) :
    isUnquoted character (others ++ ')' :: rest) = true := by
  cases others with
  | nil =>
      simp only [isUnquoted, List.head?_nil, List.nil_append, List.head?_cons]
        at unquoted ⊢
      simpa using unquoted
  | cons next more => exact unquoted

/-- A character that closes nothing in front of the text counts alike at every
depth. -/
theorem depthAfter_succ {character : Char} {depth : Nat}
    (inside : (character != ')' || depth != 0) = true) :
    depthAfter character (depth + 1) = depthAfter character depth + 1 := by
  unfold depthAfter
  split
  · rfl
  · split
    · next closing =>
        simp only [closing, bne_self_eq_false, Bool.false_or, bne_iff_ne]
          at inside
        omega
    · rfl

/-- The text between two parentheses is skipped as a whole. -/
theorem Balances.loops_text {round : Nat → Parser (Round Nat Unit)}
    {kind : Unit → Prop} {rest left : List Char} (balances : Balances round)
    (text : List Char) :
    ∀ (depth : Nat) (cursor : Cursor), closesParentheses depth text = true →
      areUnquoted text = true → cursor.rest = text ++ ')' :: rest →
        (∀ next, next.rest = rest → Loops round 0 next kind left) →
          Loops round (depth + 1) cursor kind left := by
  -- The loop counts the parenthesis in front of the text as well.
  induction text with
  | nil =>
      intro depth cursor closes _ standing continues
      obtain rfl : depth = 0 := eq_of_beq closes
      exact balances.loops_character rfl standing continues
  | cons character others inductionHypothesis =>
      intro depth cursor closes unquoted standing continues
      obtain ⟨inside, closesLater⟩ := Bool.and_eq_true_iff.mp closes
      obtain ⟨here, later⟩ := Bool.and_eq_true_iff.mp unquoted
      refine balances.loops_character (isUnquoted_append here rest) standing
        fun next passed => ?_
      rw [depthAfter_succ inside]
      exact inductionHypothesis _ next closesLater later passed continues

/-- A list of parameters is skipped with its parentheses. -/
theorem delivers_skipParameters {cursor : Cursor} {parameters rest : List Char}
    (list : IsParameterList parameters)
    (front : cursor.tokenStart.rest = '(' :: (parameters ++ ')' :: rest)) :
    Delivers (skipBalanced '(' ')') cursor (fun _ => True) rest :=
  delivers_skipBalanced_of_loops front fun _ _ balances ends opened =>
    balances.loops_text parameters 0 _ list.closes list.unquoted opened ends

/-! ## No type ends in front of an arrow -/

namespace Parser

variable {cursor next : Cursor}

theorem rest_of_sees_arrow (seen : cursor.sees .arrow = true) :
    ∃ more, cursor.tokenStart.rest = '=' :: '>' :: more := by
  have front : Punctuator.atFront? cursor.tokenStart.rest = some .arrow :=
    eq_of_beq seen
  obtain ⟨more, same⟩ := Punctuator.atFront?_isPrefix front
  exact ⟨more, same.symm⟩

theorem eq_of_skipQuoted_eq_false (ran : skipQuoted cursor = .ok (false, next)) :
    next = cursor := by
  have taken := runs_skipQuoted cursor.standsIn_padding
  unfold Runs at taken
  rw [ran] at taken
  exact taken

/-- What ends a type is left there, and is no arrow. -/
theorem typeToken_finished {start depth : Nat} {complete : Bool}
    {text : List Char}
    (ended : typeToken .token start depth complete text cursor =
      .ok (.finished (), next)) :
    next = cursor ∧ ∀ more, text ≠ '=' :: '>' :: more := by
  unfold typeToken at ended
  -- The rounds that go on are no outcome of this kind, and an arrow is one of them.
  split at ended
  · split at ended <;> cases ended
    exact ⟨rfl, fun _ => nofun⟩
  · cases ended
  · next character others other =>
      refine ⟨?_, fun more same => ?_⟩
      · split at ended
        · cases ended
        split at ended
        · split at ended <;> cases ended
          rfl
        split at ended
        · split at ended <;> cases ended
          rfl
        split at ended <;> cases ended
        rfl
      · obtain ⟨rfl, rfl⟩ := List.cons.inj same
        exact other more rfl rfl

theorem typeStep_finished {start depth : Nat} {complete : Bool}
    (ended : typeStep .token start depth complete cursor =
      .ok (.finished (), next)) :
    next = cursor ∧ ∀ more, next.rest ≠ '=' :: '>' :: more := by
  rw [typeStep, bind_eq_ok] at ended
  obtain ⟨quoted, between, skipped, goesOn⟩ := ended
  cases quoted with
  | true => cases goesOn
  | false =>
      obtain rfl := eq_of_skipQuoted_eq_false skipped
      obtain ⟨rfl, other⟩ := typeToken_finished goesOn
      exact ⟨rfl, other⟩

theorem Rounds.sees_arrow {start : Nat} {state : Nat × Bool} {nothing : Unit}
    (rounds : Rounds (typeRound .token start) state cursor nothing next) :
    next.sees .arrow = false := by
  induction rounds with
  | again _ _ inductionHypothesis => exact inductionHypothesis
  | @finished state _ next _ ended =>
      obtain ⟨depth, complete⟩ := state
      rw [typeRound_eq] at ended
      obtain ⟨rfl, other⟩ := typeStep_finished ended
      refine Bool.eq_false_iff.mpr fun seen => ?_
      obtain ⟨more, front⟩ := rest_of_sees_arrow seen
      rw [tokenStart_tokenStart] at front
      exact other more front

/-- A type goes on over every arrow: none comes next where it ends. -/
theorem sees_arrow_of_skipType (ran : skipType .token cursor = .ok ((), next)) :
    next.sees .arrow = false :=
  (skipType_eq_ok_iff.mp ran).sees_arrow

theorem expect_eq_ok {mark : Punctuator} :
    expect mark cursor = .ok ((), next) ↔
      cursor.sees mark = true ∧
        cursor.tokenStart.advance mark.characters.length = next := by
  cases seen : cursor.sees mark with
  | true =>
      have ran : expect mark cursor =
          .ok ((), cursor.tokenStart.advance mark.characters.length) :=
        bind_of_ok (eat_of_sees seen)
      simp [ran]
  | false =>
      obtain ⟨error, failed⟩ := fails_expect seen
      simp [failed]

end Parser

/-! ## Heads of arrow functions -/

namespace Grammar

variable {nested : Nested} {cursor next : Cursor}

/-- A type behind the parameters never leads to the arrow. -/
theorem arrowEnd_eq_ok :
    arrowEnd cursor = .ok ((), next) ↔ expect .arrow cursor = .ok ((), next) := by
  cases colon : cursor.sees .colon with
  | false => rw [arrowEnd, bind_eat_of_unseen colon, if_neg Bool.false_ne_true]
  | true =>
      -- The arrow would have to come next in front of the type or behind it.
      rw [arrowEnd, bind_of_ok (eat_of_sees colon), if_pos rfl, expect_eq_ok]
      constructor
      · intro ran
        obtain ⟨_, behind, skipped, expected⟩ := bind_eq_ok.mp ran
        have seen := (expect_eq_ok.mp expected).1
        rw [sees_arrow_of_skipType skipped] at seen
        cases seen
      · rintro ⟨seen, -⟩
        have both : some Punctuator.colon = some .arrow :=
          (eq_of_beq colon).symm.trans (eq_of_beq seen)
        cases both

/-- A parenthesis opens a list of parameters. -/
theorem arrowHead_of_parenthesis {text : List Char}
    (front : cursor.tokenStart.rest = '(' :: text) :
    arrowHead cursor = (skipBalanced '(' ')' >>= fun _ => arrowEnd) cursor := by
  have word : cursor.word? = none := by
    rw [Cursor.word?, front]
    rfl
  have synchronous : cursor.seesWord "async" = false := by
    rw [Cursor.seesWord, word]
    rfl
  have wordless : cursor.seesIdentifier = false := by
    rw [Cursor.seesIdentifier, word]
  rw [arrowHead, bind_get, synchronous, Bool.false_and,
    if_neg Bool.false_ne_true]
  have parameters : arrowParameters cursor =
      (skipBalanced '(' ')' >>= fun _ => arrowEnd) cursor := by
    rw [arrowParameters, bind_get, wordless, Bool.false_and,
      if_neg Bool.false_ne_true]
  exact parameters

/-- Behind a list of parameters the head ends with the arrow, if that comes next. -/
theorem arrowHead_of_parameters {parameters rest : List Char}
    (list : IsParameterList parameters)
    (front : cursor.tokenStart.rest = '(' :: (parameters ++ ')' :: rest)) :
    ∃ behind : Cursor, behind.rest = rest ∧ ∀ next,
      arrowHead cursor = .ok ((), next) ↔
        expect .arrow behind = .ok ((), next) := by
  obtain ⟨_, behind, skipped, -, standing⟩ := delivers_skipParameters list front
  refine ⟨behind, standing, fun next => ?_⟩
  rw [arrowHead_of_parenthesis front, bind_of_ok skipped, arrowEnd_eq_ok]

/-- The body of an arrow function: a block, or an expression. -/
def arrowBody (nested : Nested) : Parser Unit := do
  if (← get).sees .openBrace then
    discard (block nested)
  else
    discard nested.assignment

theorem arrowFunction_eq_ok :
    arrowFunction nested cursor = .ok (true, next) ↔
      ∃ behind, arrowHead cursor = .ok ((), behind) ∧
        arrowBody nested behind = .ok ((), next) := by
  cases read : arrowHead cursor with
  | error error => simp [arrowFunction_of_fails ⟨error, read⟩]
  | ok outcome =>
      obtain ⟨_, behind⟩ := outcome
      have found : attempt arrowHead cursor = .ok (some (), behind) := by
        rw [attempt, read]
      have goesOn : arrowFunction nested cursor =
          (arrowBody nested >>= fun _ => pure true) behind := by
        unfold arrowFunction arrowBody
        rw [bind_of_ok found]
        cases brace : behind.sees .openBrace <;> simp [bind_get, brace]
      rw [goesOn]
      constructor
      · intro ran
        obtain ⟨_, _, body, same⟩ := bind_eq_ok.mp ran
        cases same
        exact ⟨behind, rfl, body⟩
      · rintro ⟨_, same, body⟩
        cases same
        exact bind_of_ok body

end Grammar

/-! ## What is no arrow function -/

def Expression.isArrowFunction : Expression → Bool
  | .other .arrowFunction _ => true
  | _ => false

/-- A parser that never gives an arrow function. -/
abbrev GivesNoArrow (parser : Parser Expression) : Prop :=
  Gives parser fun source => source.isArrowFunction = false

namespace Grammar

variable {nested : Nested} {cursor next : Cursor}

theorem wordExpression_givesNoArrow (word : String) (start : Nat) :
    GivesNoArrow (wordExpression nested word start) := by
  refine gives_ite (gives_bind fun _ => gives_bind fun _ => gives_pure rfl) ?_
  refine gives_ite (gives_bind fun _ => gives_bind fun _ => gives_pure rfl) ?_
  refine gives_ite (gives_bind fun _ => gives_bind fun _ => gives_pure rfl) ?_
  refine gives_ite (gives_bind fun _ => gives_bind fun _ => gives_pure rfl) ?_
  refine gives_ite (gives_bind fun _ => gives_bind fun _ => gives_pure rfl) ?_
  refine gives_ite (gives_bind fun _ => gives_bind fun _ => gives_pure rfl) ?_
  refine gives_ite (gives_bind fun _ => gives_bind fun _ => gives_pure rfl) ?_
  exact gives_bind fun _ => gives_pure rfl

theorem primary_givesNoArrow : GivesNoArrow (primary nested) := by
  refine gives_bind fun _ => gives_bind fun cursor => ?_
  split
  · exact gives_fail _ _
  refine gives_ite (gives_bind fun token => gives_ite
    (gives_bind fun _ => gives_pure rfl) (gives_bind fun _ => gives_pure rfl)) ?_
  refine gives_ite (gives_bind fun _ => gives_bind fun _ => gives_pure rfl) ?_
  refine gives_ite (gives_bind fun _ => gives_bind fun _ => gives_pure rfl) ?_
  refine gives_ite (gives_bind fun _ => gives_bind fun _ => gives_bind fun _ =>
    gives_bind fun _ => gives_pure rfl) ?_
  refine gives_ite (gives_bind fun _ => gives_bind fun _ => gives_pure rfl) ?_
  refine gives_ite (gives_bind fun _ => gives_bind fun _ => gives_pure rfl) ?_
  refine gives_ite (gives_bind fun _ => gives_bind fun _ => gives_pure rfl) ?_
  split
  · exact wordExpression_givesNoArrow _ _
  · exact gives_fail _ _

theorem newObject_givesNoArrow (start : Nat) :
    GivesNoArrow (newObject nested start) := by
  refine gives_bind fun dotted => gives_ite
    (gives_bind fun _ => gives_bind fun _ => gives_pure rfl) ?_
  refine gives_bind fun _ => gives_bind fun _ => gives_bind fun cursor => ?_
  exact gives_ite (gives_bind fun _ => gives_bind fun _ => gives_pure rfl)
    (gives_bind fun _ => gives_pure rfl)

theorem accessStep_givesNoArrow (start : Nat) {base : Expression}
    (plain : base.isArrowFunction = false) :
    Gives (accessStep nested start base)
      (Round.Keeps (·.isArrowFunction = false) (·.isArrowFunction = false)) := by
  refine gives_bind fun dotted => gives_ite
    (gives_bind fun _ => gives_bind fun _ => gives_bind fun _ => gives_pure rfl)
    (gives_bind fun opened => gives_ite (gives_bind fun cursor => ?_)
      (gives_bind fun cursor => ?_))
  · refine gives_ite (gives_bind fun _ => gives_bind fun _ => gives_pure rfl) ?_
    exact gives_bind fun _ => gives_bind fun _ => gives_bind fun _ =>
      gives_bind fun _ => gives_pure rfl
  · refine gives_ite (gives_bind fun _ => gives_bind fun _ => gives_pure rfl) ?_
    refine gives_ite (gives_bind fun _ => gives_pure plain) ?_
    refine gives_ite ?_ (gives_pure plain)
    exact gives_bind fun _ => gives_bind fun _ => gives_bind fun _ =>
      gives_pure rfl

theorem leftHandSide_givesNoArrow : GivesNoArrow (leftHandSide nested) := by
  refine gives_bind fun start => gives_bind fun constructed => ?_
  have chained : ∀ base : Expression, base.isArrowFunction = false →
      GivesNoArrow (repeating base (accessStep nested start)) :=
    fun base plain => gives_repeating _ _ plain
      fun _ held => accessStep_givesNoArrow start held
  exact gives_ite ((newObject_givesNoArrow start).bind chained)
    (primary_givesNoArrow.bind chained)

theorem postfixExpression_givesNoArrow :
    GivesNoArrow (postfixExpression nested) := by
  refine gives_bind fun start => leftHandSide_givesNoArrow.bind
    fun operand plain => gives_bind fun cursor => ?_
  exact gives_ite (gives_bind fun _ => gives_bind fun _ => gives_pure rfl)
    (gives_pure plain)

theorem unary_givesNoArrow : GivesNoArrow (unary nested) := by
  refine gives_bind fun cursor => ?_
  split
  · exact gives_bind fun _ => gives_bind fun _ => gives_bind fun _ =>
      gives_pure rfl
  · refine gives_ite ?await (gives_ite ?assertion postfixExpression_givesNoArrow)
    case await =>
      exact gives_bind fun _ => gives_bind fun _ => gives_bind fun _ =>
        gives_pure rfl
    case assertion =>
      exact gives_bind fun _ => gives_bind fun _ => gives_bind fun _ =>
        gives_pure rfl

theorem binaryStep_givesNoArrow (least start : Nat) {left : Expression}
    (plain : left.isArrowFunction = false) :
    Gives (binaryStep nested least start left)
      (Round.Keeps (·.isArrowFunction = false) (·.isArrowFunction = false)) := by
  refine gives_bind fun cursor => gives_ite ?_ ?_
  · refine gives_bind fun _ => gives_bind fun _ => gives_bind fun _ =>
      gives_pure ?_
    split <;> rfl
  · split
    · exact gives_ite (gives_bind fun _ => gives_bind fun _ => gives_bind fun _ =>
        gives_pure rfl) (gives_pure plain)
    · exact gives_pure plain

theorem binary_givesNoArrow (least : Nat) :
    GivesNoArrow (binary nested least) :=
  gives_bind fun start => unary_givesNoArrow.bind fun _ plain =>
    gives_repeating _ _ plain fun _ held =>
      binaryStep_givesNoArrow least start held

/-- An arrow function is no operand of an operator. -/
theorem conditional_givesNoArrow : GivesNoArrow (conditional nested) := by
  refine gives_bind fun start => (binary_givesNoArrow 1).bind
    fun condition plain => gives_bind fun asked => gives_ite ?_ (gives_pure plain)
  exact gives_bind fun _ => gives_bind fun _ => gives_bind fun _ =>
    gives_bind fun _ => gives_pure rfl

/-- An arrow function is read as one, or not at all. -/
theorem assignment_eq_arrowFunction {span : Span} :
    assignment nested cursor = .ok (.other .arrowFunction span, next) ↔
      arrowFunction nested cursor = .ok (true, next) ∧
        (⟨cursor.tokenStart.offset, next.offset⟩ : Span) = span := by
  rw [assignment, bind_tokenOffset, bind_eq_ok]
  constructor
  · rintro ⟨taken, here, tried, ran⟩
    cases taken with
    | true =>
        cases ran
        exact ⟨tried, rfl⟩
    | false =>
        obtain ⟨target, behind, read, ranOn⟩ := bind_eq_ok.mp ran
        have other : target.isArrowFunction = false :=
          conditional_givesNoArrow here target behind read
        rw [bind_get] at ranOn
        cases seen : behind.punctuator? with
        | none =>
            simp only [seen] at ranOn
            cases ranOn
            cases other
        | some mark =>
            cases found : mark.assignment? with
            | none =>
                simp only [seen, found] at ranOn
                cases ranOn
                cases other
            | some operator =>
                simp only [seen, found] at ranOn
                obtain ⟨_, _, _, valued⟩ := bind_eq_ok.mp ranOn
                obtain ⟨_, _, _, spanned⟩ := bind_eq_ok.mp valued
                cases spanned
  · rintro ⟨tried, rfl⟩
    exact ⟨true, next, tried, rfl⟩

theorem reads_arrowBody {text : List Char} {budget : Nat}
    (safe : nested.Safe text budget) (stands : cursor.StandsIn text)
    (short : cursor.rest.length < budget) :
    Reads text 1 (arrowBody nested) cursor :=
  runs_get (runs_ite (fun _ => (reads_block safe stands short).discard)
    fun _ => (safe.assignment cursor stands short).discard)

theorem repeats_arrowBody {distance : Nat} {twin : Nested} {shifted : Cursor}
    (echoes : nested.Echoes distance twin)
    (aligned : Cursor.Aligned distance cursor shifted) :
    Repeats distance id (arrowBody nested) (arrowBody twin) cursor shifted := by
  refine echoes_get ?_
  rw [aligned.sees]
  refine echoes_ite (fun _ => (repeats_block echoes aligned).passing) fun _ => ?_
  exact (echoes.assignment _ _ aligned).passing

end Grammar

/-! ## Expressions up to places -/

/-- An expression up to where it stands. -/
def Expression.unplaced (source : Expression) : Expression :=
  source.relocate fun _ => ⟨0, 0⟩

theorem Expression.unplaced_eq_arrowFunction {source : Expression} :
    source.unplaced = .other .arrowFunction ⟨0, 0⟩ ↔
      ∃ span, source = .other .arrowFunction span := by
  cases source <;> simp [Expression.unplaced, Expression.relocate]

/-- The expression at the front of a text, up to a comma outside of brackets, and
the text behind it. -/
def firstExpression? (text : List Char) : Option (Expression × List Char) :=
  ((Nested.ofDepth (text.length + 1)).assignment.outcome? ⟨0, text⟩).map
    fun outcome => (outcome.1.unplaced, outcome.2)

/-- An expression is the same wherever its text stands, and at every depth that
suffices. -/
theorem firstExpression?_eq {depth : Nat} {cursor : Cursor}
    (enough : cursor.rest.length < depth) :
    firstExpression? cursor.rest =
      ((Nested.ofDepth depth).assignment.outcome? cursor).map fun outcome =>
        (outcome.1.unplaced, outcome.2) := by
  obtain ⟨more, rfl⟩ := Nat.exists_eq_add_of_le (Nat.succ_le_of_lt enough)
  have echoes := Nested.ofDepth_echoes cursor.offset (cursor.rest.length + 1)
    more
  have reads := (Nested.ofDepth_safe cursor.rest (cursor.rest.length + 1)).assignment
    ⟨0, cursor.rest⟩ (Cursor.Moves.refl _) (Nat.lt_succ_self _)
  rw [outcome?_of_repeats (echoes.assignment ⟨0, cursor.rest⟩ _
    (Cursor.aligned_shift _ _)) reads, Option.map_map, firstExpression?]
  refine Option.map_congr fun outcome _ => ?_
  rw [Function.comp_apply, Expression.unplaced, Expression.unplaced,
    relocate_relocate_expression]
  rfl

/-- What is left of a text behind the arrow that it starts with. -/
def arrowLeft? : List Char → Option (List Char) :=
  (expect .arrow).left?

/-- What is left of a text behind the body of an arrow function. -/
def arrowBodyLeft? (text : List Char) : Option (List Char) :=
  (Grammar.arrowBody (Nested.ofDepth (text.length + 1))).left? text

section Texts

variable {cursor : Cursor} {text left : List Char}

theorem arrowLeft?_eq_some (standing : cursor.rest = text) :
    arrowLeft? text = some left ↔
      ∃ next, expect .arrow cursor = .ok ((), next) ∧ next.rest = left :=
  left?_eq_some standing (repeats_expect (Cursor.aligned_shift _ _) .arrow)
    (reads_expect .arrow (.refl _))

theorem arrowLeft?_of_arrow (text : List Char) :
    arrowLeft? (" =>".toList ++ text) = some text := by
  have standing : (Cursor.mk 0 (" =>".toList ++ text)).rest =
      " =>".toList ++ text := rfl
  exact (arrowLeft?_eq_some standing).mpr
    ⟨_, expect_eq_ok.mpr ⟨rfl, rfl⟩, rfl⟩

theorem arrowLeft?_of_unseen (unseen : (Cursor.mk 0 text).sees .arrow = false) :
    arrowLeft? text = none := by
  have standing : (Cursor.mk 0 text).rest = text := rfl
  refine Option.eq_none_iff_forall_ne_some.mpr fun left found => ?_
  obtain ⟨next, expected, -⟩ := (arrowLeft?_eq_some standing).mp found
  rw [(expect_eq_ok.mp expected).1] at unseen
  cases unseen

theorem arrowBodyLeft?_eq_some {depth : Nat} (standing : cursor.rest = text)
    (enough : text.length < depth) :
    arrowBodyLeft? text = some left ↔
      ∃ next, Grammar.arrowBody (Nested.ofDepth depth) cursor = .ok ((), next) ∧
        next.rest = left := by
  obtain ⟨more, rfl⟩ := Nat.exists_eq_add_of_le (Nat.succ_le_of_lt enough)
  have echoes := Nested.ofDepth_echoes cursor.offset (text.length + 1) more
  rw [arrowBodyLeft?, Nat.succ_eq_add_one]
  exact left?_eq_some standing
    (Grammar.repeats_arrowBody echoes (Cursor.aligned_shift _ _))
    (Grammar.reads_arrowBody (Nested.ofDepth_safe text _) (Cursor.Moves.refl _)
      (Nat.lt_succ_self _))

/-- An arrow function is its head and its body, one behind the other. -/
theorem firstExpression?_eq_arrowFunction :
    firstExpression? text = some (.other .arrowFunction ⟨0, 0⟩, left) ↔
      ∃ behind, Grammar.arrowHead ⟨0, text⟩ = .ok ((), behind) ∧
        arrowBodyLeft? behind.rest = some left := by
  have further : ∀ behind, Grammar.arrowHead ⟨0, text⟩ = .ok ((), behind) →
      behind.rest.length < text.length := by
    intro behind read
    have reads := Grammar.reads_arrowHead (Cursor.Moves.refl ⟨0, text⟩)
    unfold Reads Runs at reads
    rw [read] at reads
    have moved := reads.length_le
    dsimp only at moved
    omega
  rw [firstExpression?, Option.map_eq_some_iff]
  constructor
  · rintro ⟨⟨source, rest⟩, given, same⟩
    obtain ⟨placed, rfl⟩ := Prod.mk.inj same
    obtain ⟨next, ran, rfl⟩ := outcome?_eq_some.mp given
    obtain ⟨span, rfl⟩ := Expression.unplaced_eq_arrowFunction.mp placed
    obtain ⟨taken, -⟩ := Grammar.assignment_eq_arrowFunction.mp ran
    obtain ⟨behind, head, body⟩ := Grammar.arrowFunction_eq_ok.mp taken
    exact ⟨behind, head,
      (arrowBodyLeft?_eq_some rfl (further behind head)).mpr ⟨next, body, rfl⟩⟩
  · rintro ⟨behind, head, leaves⟩
    obtain ⟨next, body, rfl⟩ :=
      (arrowBodyLeft?_eq_some rfl (further behind head)).mp leaves
    have taken := Grammar.arrowFunction_eq_ok.mpr ⟨behind, head, body⟩
    have ran := Grammar.assignment_eq_arrowFunction.mpr ⟨taken, rfl⟩
    exact ⟨_, outcome?_eq_some.mpr ⟨next, ran, rfl⟩, rfl⟩

/-- An expression that does not start with a brace is a body as a whole. -/
theorem arrowBodyLeft?_of_expression {source : Expression}
    (braceless : (Cursor.mk 0 text).sees .openBrace = false)
    (read : firstExpression? text = some (source, left)) :
    arrowBodyLeft? text = some left := by
  obtain ⟨⟨found, rest⟩, given, same⟩ := Option.map_eq_some_iff.mp read
  obtain ⟨-, rfl⟩ := Prod.mk.inj same
  obtain ⟨next, ran, rfl⟩ := outcome?_eq_some.mp given
  have standing : (Cursor.mk 0 text).rest = text := rfl
  refine (arrowBodyLeft?_eq_some standing (Nat.lt_succ_self text.length)).mpr
    ⟨next, ?_, rfl⟩
  rw [Grammar.arrowBody, bind_get, braceless, if_neg Bool.false_ne_true]
  exact discard_eq_ok.mpr ⟨found, ran⟩

end Texts

/-- Behind a list of parameters in parentheses an arrow function is recognised
exactly if an arrow comes next there, and its body is read behind the arrow.  So
no type of a result can stand between the two, whatever the type and the body are.
Without one, every expression that is read up to a semicolon and does not start
with a brace is the body of an arrow function up to this semicolon. -/
theorem arrow_is_recognised_iff (parameters : List Char)
    (list : IsParameterList parameters) :
    (∀ behind left,
      firstExpression? ('(' :: (parameters ++ ')' :: behind)) =
          some (.other .arrowFunction ⟨0, 0⟩, left) ↔
        ∃ body, arrowLeft? behind = some body ∧ arrowBodyLeft? body = some left) ∧
    (∀ typed body left,
      firstExpression?
          ('(' :: (parameters ++ "): ".toList ++ typed ++ " =>".toList ++ body)) ≠
        some (.other .arrowFunction ⟨0, 0⟩, left)) ∧
    ∀ body source rest,
      firstExpression? (body ++ ';' :: rest) = some (source, ';' :: rest) →
        (Cursor.mk 0 (body ++ ';' :: rest)).sees .openBrace = false →
          firstExpression?
              ('(' :: (parameters ++ ") =>".toList ++ (body ++ ';' :: rest))) =
            some (.other .arrowFunction ⟨0, 0⟩, ';' :: rest) := by
  have recognised : ∀ behind left,
      firstExpression? ('(' :: (parameters ++ ')' :: behind)) =
          some (.other .arrowFunction ⟨0, 0⟩, left) ↔
        ∃ body, arrowLeft? behind = some body ∧
          arrowBodyLeft? body = some left := by
    intro behind left
    have front : (Cursor.mk 0 ('(' :: (parameters ++ ')' :: behind))).tokenStart.rest =
        '(' :: (parameters ++ ')' :: behind) := rfl
    obtain ⟨closed, standing, head⟩ := Grammar.arrowHead_of_parameters list front
    rw [firstExpression?_eq_arrowFunction]
    simp only [head, arrowLeft?_eq_some standing]
    constructor
    · rintro ⟨next, expected, leaves⟩
      exact ⟨next.rest, ⟨next, expected, rfl⟩, leaves⟩
    · rintro ⟨_, ⟨next, expected, rfl⟩, leaves⟩
      exact ⟨next, expected, leaves⟩
  refine ⟨recognised, fun typed body left found => ?_,
    fun body source rest read braceless => ?_⟩
  · have split : parameters ++ "): ".toList ++ typed ++ " =>".toList ++ body =
        parameters ++ ')' :: (": ".toList ++ (typed ++ (" =>".toList ++ body))) := by
      simp
    rw [split, recognised] at found
    obtain ⟨_, arrow, -⟩ := found
    rw [arrowLeft?_of_unseen rfl] at arrow
    cases arrow
  · have split : parameters ++ ") =>".toList ++ (body ++ ';' :: rest) =
        parameters ++ ')' :: (" =>".toList ++ (body ++ ';' :: rest)) := by
      simp
    rw [split, recognised]
    exact ⟨_, arrowLeft?_of_arrow _, arrowBodyLeft?_of_expression braceless read⟩

/-- The function that gives its parameter, without and with the type of its
result. -/
theorem arrow_is_recognised_iff_identity :
    firstExpression? "(a) => a;".toList =
        some (.other .arrowFunction ⟨0, 0⟩, ";".toList) ∧
      ∀ left, firstExpression? "(a): T => a;".toList ≠
        some (.other .arrowFunction ⟨0, 0⟩, left) := by
  obtain ⟨-, typed, untyped⟩ :=
    arrow_is_recognised_iff "a".toList ⟨by decide, by decide⟩
  have leaves : (firstExpression? (" a".toList ++ ';' :: [])).map Prod.snd =
      some (';' :: []) := by
    decide +kernel
  obtain ⟨⟨source, _⟩, read, rfl⟩ := Option.map_eq_some_iff.mp leaves
  have withoutType : "(a) => a;".toList =
      '(' :: ("a".toList ++ ") =>".toList ++ (" a".toList ++ ';' :: [])) := by
    decide
  have withType : "(a): T => a;".toList =
      '(' :: ("a".toList ++ "): ".toList ++ "T".toList ++ " =>".toList ++
        " a;".toList) := by
    decide
  rw [withoutType, withType]
  exact ⟨untyped _ _ [] read (by decide), typed _ _⟩

/-- With the type of its result the function that gives its parameter is read as
the parameter in parentheses, and no further. -/
theorem typed_arrow_is_cut_in_front_of_type :
    let kinds (text : String) : Option (Bool × List Char) :=
      (firstExpression? text.toList).map fun read =>
        (read.1.isArrowFunction, read.2)
    kinds "a;" = some (false, ";".toList) ∧
      kinds "(a) => a;" = some (true, ";".toList) ∧
      kinds "(a): T => a;" = some (false, ": T => a;".toList) := by
  decide +kernel

end VelocityScript.Script
