import VelocityScript.Proofs.Script.Delivering
import VelocityScript.Script.Grammar.Expression

/-!
# No rendered expression looks like an arrow function

Wherever an expression can start, the parser first tries to read the head of an
arrow function.  The parentheses of a rendered expression are balanced, so what
is skipped as a list of parameters ends inside the expression, and neither a
type nor an arrow comes next there.
-/

namespace VelocityScript.Script

open VelocityScript.Script.Parser

/-! ## Balanced tokens -/

/-- Whether a token of the core is no parenthesis. -/
def Token.isPlain : Token → Bool
  | .word name => isWord name
  | .number text => isInteger text
  | .punctuator mark =>
      mark == .openBracket || mark == .closeBracket || mark == .comma ||
        mark == .dot || mark == .not ||
          Punctuator.binaryOperators.any fun entry => entry.1 = mark

/-- Tokens of the core whose parentheses are balanced. -/
inductive Balanced : List Token → Prop
  | empty : Balanced []
  | plain {token : Token} {others : List Token} :
      token.isPlain = true → Balanced others → Balanced (token :: others)
  | enclosed {inner others : List Token} :
      Balanced inner → Balanced others →
        Balanced (.punctuator .openParen ::
          (inner ++ .punctuator .closeParen :: others))

theorem Balanced.append {first second : List Token} (balanced : Balanced first)
    (balancedToo : Balanced second) : Balanced (first ++ second) := by
  induction balanced with
  | empty => exact balancedToo
  | plain isPlain _ inductionHypothesis => exact .plain isPlain inductionHypothesis
  | @enclosed inner others balancedInner _ _ inductionHypothesis =>
      have joined := Balanced.enclosed balancedInner inductionHypothesis
      simpa only [List.cons_append, List.append_assoc] using joined

theorem Balanced.singleton {token : Token} (plain : token.isPlain = true) :
    Balanced [token] :=
  .plain plain .empty

theorem Balanced.parentheses {inner : List Token} (balanced : Balanced inner) :
    Balanced (.punctuator .openParen :: (inner ++ [.punctuator .closeParen])) :=
  .enclosed balanced .empty

theorem Balanced.brackets {inner : List Token} (balanced : Balanced inner) :
    Balanced
      (.punctuator .openBracket :: (inner ++ [.punctuator .closeBracket])) :=
  .plain rfl (balanced.append (.singleton rfl))

theorem BinaryOperator.isPlain_token (operator : BinaryOperator) :
    operator.token.isPlain = true := by
  cases operator <;> rfl

mutual

theorem Expression.balanced_tokens : ∀ {source : Expression},
    source.isCore = true → Balanced source.tokens
  | .identifier named, core => by
      simp only [Expression.isCore, Bool.and_eq_true] at core
      exact .singleton (isWord_of_isName core.2)
  | .receiver _, _ => .singleton rfl
  | .boolean truth _, _ => by cases truth <;> exact .singleton rfl
  | .number text _, core => .singleton core
  | .array elements _, core => (balanced_separatedTokens core).brackets
  | .parenthesized inner _, core => by
      have inside : inner.isCore = true := core
      exact (Expression.balanced_tokens inside).parentheses
  | .unary operator operand _, core => by
      simp only [Expression.isCore, Bool.and_eq_true] at core
      have balanced := Expression.balanced_tokens core.2
      rcases UnaryOperator.coreToken?_cases core.1.1 with rfl | rfl
      · exact .plain rfl balanced
      · exact .plain rfl balanced
  | .binary operator left right _, core => by
      simp only [Expression.isCore, Bool.and_eq_true] at core
      exact (Expression.balanced_tokens core.1.2).append
        (.plain operator.isPlain_token (Expression.balanced_tokens core.2))
  | .member base property _ _, core => by
      simp only [Expression.isCore, Bool.and_eq_true] at core
      exact (Expression.balanced_tokens core.2).append
        (.plain rfl (.singleton core.1.1.1.2))
  | .index base subscript _, core => by
      simp only [Expression.isCore, Bool.and_eq_true] at core
      exact (Expression.balanced_tokens core.1.2).append
        (Expression.balanced_tokens core.2).brackets
  | .call callee arguments _ _, core => by
      simp only [Expression.isCore, Bool.and_eq_true] at core
      exact (Expression.balanced_tokens core.1.2).append
        (balanced_separatedTokens core.2).parentheses

theorem balanced_separatedTokens : ∀ {sources : List Expression},
    areCore sources = true → Balanced (separatedTokens sources)
  | [], _ => .empty
  | source :: others, core => by
      simp only [areCore, Bool.and_eq_true] at core
      exact (Expression.balanced_tokens core.1).append
        (balanced_precededTokens core.2)

theorem balanced_precededTokens : ∀ {sources : List Expression},
    areCore sources = true → Balanced (precededTokens sources)
  | [], _ => .empty
  | source :: others, core => by
      simp only [areCore, Bool.and_eq_true] at core
      exact .plain rfl ((Expression.balanced_tokens core.1).append
        (balanced_precededTokens core.2))

end

/-! ## Skipping to the closing parenthesis -/

/-- Whether a character in front of a text starts neither a quotation nor a
comment. -/
def isUnquoted (character : Char) (rest : List Char) : Bool :=
  character != '"' && character != '\'' && character != '\x60' &&
    (character != '/' || (rest.head? != some '/' && rest.head? != some '*'))

/-- Whether a character in front of a text is skipped between parentheses
without any effect. -/
def isHarmless (character : Char) (rest : List Char) : Bool :=
  character != '(' && character != ')' && isUnquoted character rest

/-- Whether the same holds of every character of a run. -/
def areHarmless : List Char → List Char → Bool
  | [], _ => true
  | character :: others, rest =>
      isHarmless character (others ++ rest) && areHarmless others rest

/-- Characters of a kind to which no mark belongs. -/
theorem areHarmless_of_all {test : Char → Bool}
    (marks : ['(', ')', '"', '\'', '\x60', '/'].any test = false)
    {run : List Char} (rest : List Char)
    (holds : ∀ character ∈ run, test character = true) :
    areHarmless run rest = true := by
  induction run with
  | nil => rfl
  | cons character others inductionHypothesis =>
      have first := holds character List.mem_cons_self
      simp only [List.any_cons, List.any_nil, Bool.or_eq_false_iff] at marks
      obtain ⟨opening, closing, double, single, back, slash, -⟩ := marks
      have harmless : isHarmless character (others ++ rest) = true := by
        simp [isHarmless, isUnquoted, ne_of_test '(' first opening,
          ne_of_test ')' first closing, ne_of_test '"' first double,
          ne_of_test '\'' first single, ne_of_test '\x60' first back,
          ne_of_test '/' first slash]
      rw [areHarmless, harmless, Bool.true_and]
      exact inductionHypothesis fun later member =>
        holds later (List.mem_cons_of_mem _ member)

theorem Punctuator.areHarmless_characters {mark : Punctuator}
    {rest : List Char} (opening : mark ≠ .openParen)
    (closing : mark ≠ .closeParen) (bounded : IsBounded rest) :
    areHarmless mark.characters rest = true := by
  cases mark with
  | openParen => exact (opening rfl).elim
  | closeParen => exact (closing rfl).elim
  | divide => cases bounded <;> rfl
  | _ => rfl

theorem Token.areHarmless_characters {token : Token} {rest : List Char}
    (plain : token.isPlain = true) (bounded : IsBounded rest) :
    areHarmless token.characters rest = true := by
  cases token with
  | word name => exact areHarmless_of_all (by decide) rest (isNamePart_of_isWord plain)
  | number text =>
      exact areHarmless_of_all (by decide) rest
        (isDigitOrSeparator_of_isInteger plain)
  | punctuator mark =>
      refine Punctuator.areHarmless_characters ?_ ?_ bounded
      · rintro rfl
        cases plain
      · rintro rfl
        cases plain

/-- The number of open parentheses after a character. -/
def depthAfter (character : Char) (depth : Nat) : Nat :=
  if character = '(' then
    depth + 1
  else if character = ')' then
    depth - 1
  else
    depth

/-- Each round of a skip between parentheses passes a character, while some are
open. -/
def Balances (round : Nat → Parser (Round Nat Unit)) : Prop :=
  ∀ depth cursor character rest, cursor.rest = character :: rest →
    isUnquoted character rest = true →
      Delivers (round (depth + 1)) cursor
        (· = .again (depthAfter character (depth + 1))) rest

namespace Balances

variable {round : Nat → Parser (Round Nat Unit)} {kind : Unit → Prop}
  {depth : Nat} {cursor : Cursor} {rest left : List Char}

theorem loops_character (balances : Balances round) {character : Char}
    (unquoted : isUnquoted character rest = true)
    (standing : cursor.rest = character :: rest)
    (continues : ∀ next, next.rest = rest →
      Loops round (depthAfter character (depth + 1)) next kind left) :
    Loops round (depth + 1) cursor kind left := by
  have passed := balances depth cursor character rest standing unquoted
  refine loops_again (passed.mono fun outcome same => ⟨_, same, rfl⟩) ?_
    fun found next same standingNext => ?_
  · simp [standing]
  · rw [← same]
    exact continues next standingNext

/-- A run of harmless characters is skipped. -/
theorem loops_run (balances : Balances round) {run : List Char}
    (harmless : areHarmless run rest = true)
    (standing : cursor.rest = run ++ rest)
    (continues : ∀ next, next.rest = rest →
      Loops round (depth + 1) next kind left) :
    Loops round (depth + 1) cursor kind left := by
  induction run generalizing cursor with
  | nil => exact continues cursor standing
  | cons character others inductionHypothesis =>
      simp only [areHarmless, isHarmless, Bool.and_eq_true, bne_iff_ne]
        at harmless
      obtain ⟨⟨⟨opening, closing⟩, unquoted⟩, later⟩ := harmless
      refine balances.loops_character unquoted standing fun next passed => ?_
      rw [depthAfter, if_neg opening, if_neg closing]
      exact inductionHypothesis later passed

theorem loops_token (balances : Balances round) {token : Token}
    (plain : token.isPlain = true) (bounded : IsBounded rest)
    (standing : cursor.rest = ' ' :: (token.characters ++ rest))
    (continues : ∀ next, next.rest = rest →
      Loops round (depth + 1) next kind left) :
    Loops round (depth + 1) cursor kind left :=
  balances.loops_character rfl standing fun _ passed =>
    balances.loops_run (Token.areHarmless_characters plain bounded) passed
      continues

theorem loops_opening (balances : Balances round)
    (standing : cursor.rest = ' ' :: '(' :: rest)
    (continues : ∀ next, next.rest = rest →
      Loops round (depth + 2) next kind left) :
    Loops round (depth + 1) cursor kind left :=
  balances.loops_character rfl standing fun _ passed =>
    balances.loops_character rfl passed continues

theorem loops_closing (balances : Balances round)
    (standing : cursor.rest = ' ' :: ')' :: rest)
    (continues : ∀ next, next.rest = rest → Loops round depth next kind left) :
    Loops round (depth + 1) cursor kind left :=
  balances.loops_character rfl standing fun _ passed =>
    balances.loops_character rfl passed continues

/-- Balanced tokens are skipped as a whole. -/
theorem loops_tokens (balances : Balances round) {tokens : List Token}
    (balanced : Balanced tokens) (bounded : IsBounded rest)
    (standing : cursor.rest = spaced tokens rest)
    (continues : ∀ next, next.rest = rest →
      Loops round (depth + 1) next kind left) :
    Loops round (depth + 1) cursor kind left := by
  induction balanced generalizing cursor rest depth with
  | empty => exact continues cursor standing
  | plain isPlain _ inductionHypothesis =>
      exact balances.loops_token isPlain (bounded.ofTokens _) standing
        fun next standingNext =>
          inductionHypothesis bounded standingNext continues
  | @enclosed inner others _ _ insideHypothesis behindHypothesis =>
      rw [spaced_cons, spaced_append, spaced_cons] at standing
      exact balances.loops_opening standing fun _ opened =>
        insideHypothesis (.spaced _) opened fun _ passed =>
          balances.loops_closing passed fun _ closed =>
            behindHypothesis bounded closed continues

end Balances

theorem delivers_skipQuoted {cursor : Cursor} {character : Char}
    {rest : List Char} (standing : cursor.rest = character :: rest)
    (unquoted : isUnquoted character rest = true) :
    Delivers skipQuoted cursor (· = false) (character :: rest) := by
  simp only [isUnquoted, Bool.and_eq_true, Bool.or_eq_true, bne_iff_ne]
    at unquoted
  obtain ⟨⟨⟨double, single⟩, back⟩, slash⟩ := unquoted
  refine delivers_get ?_
  rw [standing]
  split
  · next others same =>
      cases same
      simp at slash
  · next others same =>
      cases same
      simp at slash
  · next quote others _ _ same =>
      cases same
      rw [if_neg (not_or.mpr ⟨double, not_or.mpr ⟨single, back⟩⟩)]
      exact delivers_pure rfl standing
  · next same => cases same

/-- Parentheses are skipped where the loop over what stands between them ends. -/
theorem delivers_skipBalanced_of_loops {cursor : Cursor} {text rest : List Char}
    (front : cursor.tokenStart.rest = '(' :: text)
    (loops : ∀ round here, Balances round →
      (∀ next, next.rest = rest → Loops round 0 next (fun _ => True) rest) →
        here.rest = text → Loops round 1 here (fun _ => True) rest) :
    Delivers (skipBalanced '(' ')') cursor (fun _ => True) rest := by
  refine delivers_skipTrivia (delivers_get ?_)
  refine delivers_eatCharacter front fun here opened => ?_
  rw [if_pos rfl]
  refine Loops.delivers (loops _ here ?balances ?ends opened)
  case balances =>
    intro depth between character behind standing unquoted
    dsimp only
    rw [if_neg (Nat.succ_ne_zero depth)]
    refine (delivers_skipQuoted standing unquoted).bind
      fun quoted here same stays => ?_
    rw [same, if_neg Bool.false_ne_true]
    refine delivers_get ?_
    rw [stays]
    have passed : (here.advance 1).rest = behind := by
      rw [Cursor.advance, stays]
      rfl
    dsimp only
    rw [if_neg (fun both => absurd both.1 (by decide))]
    refine delivers_skip ?_
    unfold depthAfter
    split
    · exact delivers_pure rfl passed
    · split
      · exact delivers_pure rfl passed
      · exact delivers_pure rfl passed
  case ends =>
    exact fun next closed => loops_finished (delivers_pure ⟨(), rfl, trivial⟩ closed)

/-- A pair of parentheses with balanced tokens between them is skipped. -/
theorem delivers_skipBalanced {cursor : Cursor} {inner : List Token}
    {rest : List Char} (balanced : Balanced inner)
    (faces : cursor.Faces (.punctuator .openParen)
      (spaced (inner ++ [.punctuator .closeParen]) rest)) :
    Delivers (skipBalanced '(' ')') cursor (fun _ => True) rest := by
  have front : cursor.tokenStart.rest =
      '(' :: spaced (inner ++ [.punctuator .closeParen]) rest := faces.front
  rw [spaced_append] at front
  refine delivers_skipBalanced_of_loops front fun round here balances ends opened => ?_
  exact balances.loops_tokens balanced (.spaced _) opened fun _ passed =>
    balances.loops_closing passed fun next closed => ends next closed

/-! ## Heads of arrow functions -/

theorem Token.isSpelled_of_isPlain {token : Token}
    (plain : token.isPlain = true) : token.isSpelled = true := by
  cases token with
  | word name => exact plain
  | number text => exact plain
  | punctuator mark => rfl

/-- No punctuator that is missing in the core comes next. -/
theorem Balanced.sees_eq_false {tokens : List Token} {least : Nat}
    {cursor : Cursor} {rest : List Char} (balanced : Balanced tokens)
    (follows : Follows least rest) (standing : cursor.rest = spaced tokens rest)
    (mark : Punctuator)
    (inside : (Token.punctuator mark).isPlain = false := by rfl)
    (behind : (Token.punctuator mark).follows = false := by rfl)
    (opening : mark ≠ .openParen := by decide) : cursor.sees mark = false := by
  cases balanced with
  | empty => exact follows.sees_eq_false standing mark behind
  | @plain token others plain _ =>
      have shows : cursor.Shows (token :: others) rest := Or.inl standing
      have faces := shows.faces (Token.isSpelled_of_isPlain plain)
        follows.isBounded
      exact faces.sees_eq_false plain mark inside
  | @enclosed inner others _ _ =>
      have shows : cursor.Shows _ rest := Or.inl standing
      rw [(shows.faces rfl follows.isBounded).sees, beq_eq_false_iff_ne]
      intro same
      injection same with found
      exact opening found.symm

/-- A word with no arrow behind it. -/
theorem Cursor.Faces.punctuatorAfterWord?_ne {cursor : Cursor} {token : Token}
    {rest : List Char} (faces : cursor.Faces token rest)
    (unseen : ∀ next : Cursor, next.rest = rest → next.sees .arrow = false) :
    (cursor.punctuatorAfterWord? == some .arrow) = false := by
  unfold Cursor.punctuatorAfterWord? Cursor.afterWord?
  cases token with
  | word name =>
      rw [Cursor.Faces.wordAtFront? faces]
      exact unseen _ faces.rest_advance
  | number text =>
      rw [Option.map_eq_none_iff.mp faces.word]
      rfl
  | punctuator mark =>
      rw [Option.map_eq_none_iff.mp faces.word]
      rfl

theorem fails_skipBalanced {cursor : Cursor}
    (other : cursor.tokenStart.rest.head? ≠ some '(') :
    Fails (skipBalanced '(' ')') cursor := by
  have uneaten : Delivers (eatCharacter '(') cursor.tokenStart (· = false)
      cursor.tokenStart.rest := by
    refine delivers_get ?_
    rw [if_neg other]
    exact delivers_pure rfl rfl
  refine fails_skipTrivia (fails_get (uneaten.fails fun taken next same _ => ?_))
  rw [same]
  exact ⟨_, rfl⟩

theorem Token.head?_ne_of_opens {token : Token} (rest : List Char)
    (opens : token.opens = true) (other : token ≠ .punctuator .openParen) :
    (token.characters ++ rest).head? ≠ some '(' := by
  cases named : token.punctuator? with
  | none =>
      obtain ⟨first, others, same, starts⟩ :=
        exists_startsText (Token.isSpelled_of_opens opens) named
      rw [same]
      intro found
      injection found with head
      exact ne_of_test '(' starts rfl head
  | some mark =>
      obtain rfl := Token.eq_punctuator named
      cases mark with
      | openParen => exact (other rfl).elim
      | _ => exact nofun

/-- The head of an arrow function is not found. -/
theorem fails_arrowHead {source : Expression} {cursor : Cursor} {least : Nat}
    {rest : List Char} (core : source.isCore = true)
    (shows : cursor.Shows source.tokens rest) (follows : Follows least rest) :
    Fails Grammar.arrowHead cursor := by
  obtain ⟨token, others, same, opens⟩ := Expression.exists_opens core
  have balanced := Expression.balanced_tokens core
  rw [same] at shows balanced
  have faces := shows.faces (Token.isSpelled_of_opens opens) follows.isBounded
  have synchronous : cursor.seesWord "async" = false :=
    faces.seesWord_eq_false opens "async"
  refine fails_get ?_
  rw [synchronous, Bool.false_and, if_neg Bool.false_ne_true]
  refine fails_get ?_
  cases balanced with
  | plain plain behind =>
      have arrowless := faces.punctuatorAfterWord?_ne fun _ standing =>
        behind.sees_eq_false follows standing .arrow
      rw [arrowless, Bool.and_false, if_neg Bool.false_ne_true]
      refine (fails_skipBalanced ?_).bind
      rw [faces.front]
      refine Token.head?_ne_of_opens _ opens ?_
      rintro rfl
      cases plain
  | @enclosed inner behind balancedInner balancedBehind =>
      have wordless : cursor.seesIdentifier = false := by
        rw [Cursor.seesIdentifier, faces.word]
        rfl
      have split : spaced (inner ++ .punctuator .closeParen :: behind) rest =
          spaced (inner ++ [.punctuator .closeParen]) (spaced behind rest) := by
        rw [spaced_append, spaced_append]
        rfl
      rw [split] at faces
      rw [wordless, Bool.false_and, if_neg Bool.false_ne_true]
      refine (delivers_skipBalanced balancedInner faces).fails
        fun _ next _ standing => ?_
      refine fails_uneaten
        (balancedBehind.sees_eq_false follows standing .colon) ?_
      exact fails_expect (balancedBehind.sees_eq_false follows standing .arrow)

/-- Without a head nothing is read. -/
theorem Grammar.arrowFunction_of_fails {nested : Nested} {cursor : Cursor}
    (fails : Fails Grammar.arrowHead cursor) :
    Grammar.arrowFunction nested cursor = .ok (false, cursor) := by
  obtain ⟨error, failed⟩ := fails
  have nothing : attempt Grammar.arrowHead cursor = .ok (none, cursor) := by
    rw [attempt, failed]
  exact bind_of_ok nothing

end VelocityScript.Script
