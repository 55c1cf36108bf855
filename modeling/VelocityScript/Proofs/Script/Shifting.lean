import VelocityScript.Proofs.Script.SafeExpressions
import VelocityScript.Proofs.Script.Relocation

/-!
# Parsers at shifted cursors

Two cursors are aligned if the same token comes next, with the same line breaks
before it, and only the offsets differ by a distance.  A parser does the
same at both: it gives the same result with all spans shifted, or it fails with
the same error, shifted too.  Once a token has been read, the two cursors differ
in their offsets only.

The second parser may be given larger bounds than the first one.  So nothing is
said where the first one runs out of its bounds.
-/

namespace VelocityScript

/-- A span that stands further on in a text. -/
def Span.shift (distance : Nat) (span : Span) : Span :=
  ⟨span.start + distance, span.stop + distance⟩

namespace Script

def SyntaxError.shift (distance : Nat) (error : SyntaxError) : SyntaxError :=
  { error with span := error.span.shift distance }

namespace Cursor

/-- The cursor at the same text further on. -/
def shift (distance : Nat) (cursor : Cursor) : Cursor :=
  ⟨cursor.offset + distance, cursor.rest⟩

theorem advance_shift (cursor : Cursor) (distance count : Nat) :
    (cursor.shift distance).advance count =
      (cursor.advance count).shift distance := by
  rw [advance, advance, shift, shift, Nat.add_right_comm]

theorem tokenStart_shift (cursor : Cursor) (distance : Nat) :
    (cursor.shift distance).tokenStart = cursor.tokenStart.shift distance :=
  cursor.advance_shift distance cursor.triviaCount

/-- The same token comes next at two cursors, after the same line breaks. -/
structure Aligned (distance : Nat) (cursor shifted : Cursor) : Prop where
  token : shifted.tokenStart = cursor.tokenStart.shift distance
  newlines : shifted.leadingNewlines = cursor.leadingNewlines
  length_le : cursor.rest.length ≤ shifted.rest.length

/-- A cursor is aligned with its shifted one. -/
theorem aligned_shift (cursor : Cursor) (distance : Nat) :
    Aligned distance cursor (cursor.shift distance) :=
  ⟨cursor.tokenStart_shift distance, rfl, Nat.le_refl _⟩

namespace Aligned

variable {distance : Nat} {cursor shifted : Cursor}

theorem offset (aligned : Aligned distance cursor shifted) :
    shifted.tokenStart.offset = cursor.tokenStart.offset + distance := by
  rw [aligned.token]
  rfl

theorem rest (aligned : Aligned distance cursor shifted) :
    shifted.tokenStart.rest = cursor.tokenStart.rest := by
  rw [aligned.token]
  rfl

theorem newlineBefore (aligned : Aligned distance cursor shifted) :
    shifted.newlineBefore = cursor.newlineBefore := by
  rw [Cursor.newlineBefore, Cursor.newlineBefore, aligned.newlines]

theorem atEnd (aligned : Aligned distance cursor shifted) :
    shifted.atEnd = cursor.atEnd := by
  rw [Cursor.atEnd, Cursor.atEnd, aligned.rest]

theorem punctuator? (aligned : Aligned distance cursor shifted) :
    shifted.punctuator? = cursor.punctuator? := by
  rw [Cursor.punctuator?, Cursor.punctuator?, aligned.rest]

theorem sees (aligned : Aligned distance cursor shifted) (punctuator : Punctuator) :
    shifted.sees punctuator = cursor.sees punctuator := by
  rw [Cursor.sees, Cursor.sees, aligned.punctuator?]

theorem word? (aligned : Aligned distance cursor shifted) :
    shifted.word? = cursor.word? := by
  rw [Cursor.word?, Cursor.word?, aligned.rest]

theorem seesWord (aligned : Aligned distance cursor shifted) (word : String) :
    shifted.seesWord word = cursor.seesWord word := by
  rw [Cursor.seesWord, Cursor.seesWord, aligned.word?]

theorem seesIdentifier (aligned : Aligned distance cursor shifted) :
    shifted.seesIdentifier = cursor.seesIdentifier := by
  rw [Cursor.seesIdentifier, Cursor.seesIdentifier, aligned.word?]

theorem tokenCharacter? (aligned : Aligned distance cursor shifted) :
    shifted.tokenCharacter? = cursor.tokenCharacter? := by
  rw [Cursor.tokenCharacter?, Cursor.tokenCharacter?, aligned.rest]

theorem advance (aligned : Aligned distance cursor shifted) (count : Nat) :
    shifted.tokenStart.advance count =
      (cursor.tokenStart.advance count).shift distance := by
  rw [aligned.token, advance_shift]

theorem afterWord? (aligned : Aligned distance cursor shifted) :
    shifted.afterWord? = cursor.afterWord?.map (Cursor.shift distance) := by
  rw [Cursor.afterWord?, Cursor.afterWord?, aligned.rest, Option.map_map]
  exact Option.map_congr fun word _ => aligned.advance word.length

/-- What comes after the next word is the same, too. -/
theorem bind_afterWord? {Result : Type} {look : Cursor → Option Result}
    (aligned : Aligned distance cursor shifted)
    (same : ∀ here : Cursor, look (here.shift distance) = look here) :
    shifted.afterWord?.bind look = cursor.afterWord?.bind look := by
  rw [aligned.afterWord?]
  cases cursor.afterWord? with
  | none => rfl
  | some after => exact same after

theorem secondWord? (aligned : Aligned distance cursor shifted) :
    shifted.secondWord? = cursor.secondWord? :=
  aligned.bind_afterWord? fun here => (here.aligned_shift distance).word?

theorem punctuatorAfterWord? (aligned : Aligned distance cursor shifted) :
    shifted.punctuatorAfterWord? = cursor.punctuatorAfterWord? :=
  aligned.bind_afterWord? fun here => (here.aligned_shift distance).punctuator?

theorem binaryOperator? (aligned : Aligned distance cursor shifted) :
    shifted.binaryOperator? = cursor.binaryOperator?.map fun found =>
      (found.1, found.2.shift distance) := by
  simp only [Cursor.binaryOperator?, aligned.rest, aligned.advance]
  cases wordAtFront? cursor.tokenStart.rest with
  | none =>
      rw [Option.map_map]
      rfl
  | some word =>
      dsimp only
      by_cases instance? : word = "instanceof".toList
      · rw [if_pos instance?, if_pos instance?]
        rfl
      · rw [if_neg instance?, if_neg instance?]
        by_cases contained : word = "in".toList
        · rw [if_pos contained, if_pos contained]
          rfl
        · rw [if_neg contained, if_neg contained]
          rfl

end Aligned

end Cursor

open Cursor (Aligned)

namespace Parser

variable {distance : Nat} {Result Other State : Type}
  {parser echo : Parser Result} {cursor shifted : Cursor}
  {after : Result → Cursor → Result → Cursor → Prop}

/-- Where a parser succeeds, its echo succeeds at the shifted cursor, and the two
outcomes satisfy a condition; where it fails, the echo fails with the same error
further on. -/
def Echoes (distance : Nat) (after : Result → Cursor → Result → Cursor → Prop)
    (parser echo : Parser Result) (cursor shifted : Cursor) : Prop :=
  match parser cursor with
  | .ok (result, next) =>
      ∃ found final, echo shifted = .ok (found, final) ∧
        after result next found final
  | .error error =>
      error.problem = .tooDeep ∨ echo shifted = .error (error.shift distance)

/-- The outcomes of a parser and its echo differ in their offsets only. -/
def Settles (distance : Nat) (move : Result → Result)
    (result : Result) (next : Cursor) (found : Result) (final : Cursor) : Prop :=
  found = move result ∧ final = next.shift distance

/-- A parser and its echo give the same, with the offsets shifted. -/
abbrev Repeats (distance : Nat) (move : Result → Result)
    (parser echo : Parser Result) (cursor shifted : Cursor) : Prop :=
  Echoes distance (Settles distance move) parser echo cursor shifted

theorem echoes_pure {result found : Result}
    (holds : after result cursor found shifted) :
    Echoes distance after (pure result) (pure found) cursor shifted :=
  ⟨found, shifted, rfl, holds⟩

/-- Giving the same result where the cursors differ in their offsets only. -/
theorem repeats_pure {move : Result → Result} {result found : Result}
    (same : found = move result) :
    Repeats distance move (pure result) (pure found) cursor
      (cursor.shift distance) :=
  echoes_pure ⟨same, rfl⟩

theorem echoes_pure_bind {result found : Result}
    {final : Other → Cursor → Other → Cursor → Prop}
    {continued further : Result → Parser Other}
    (continues : Echoes distance final (continued result) (further found) cursor
      shifted) :
    Echoes distance final (pure result >>= continued) (pure found >>= further)
      cursor shifted :=
  continues

theorem Echoes.bind {middle : Result → Cursor → Result → Cursor → Prop}
    {final : Other → Cursor → Other → Cursor → Prop}
    {continued further : Result → Parser Other}
    (echoes : Echoes distance middle parser echo cursor shifted)
    (continues : ∀ result next found there, middle result next found there →
      Echoes distance final (continued result) (further found) next there) :
    Echoes distance final (parser >>= continued) (echo >>= further) cursor
      shifted := by
  have unfolded : ∀ (parser : Parser Result) (continued : Result → Parser Other)
      (cursor : Cursor), (parser >>= continued) cursor =
        (parser cursor).bind fun outcome => continued outcome.1 outcome.2 :=
    fun _ _ _ => rfl
  unfold Echoes at echoes ⊢
  rw [unfolded, unfolded]
  cases ran : parser cursor with
  | error error =>
      rw [ran] at echoes
      refine echoes.imp id fun failed => ?_
      rw [failed]
      rfl
  | ok outcome =>
      rw [ran] at echoes
      obtain ⟨found, there, ranEcho, holds⟩ := echoes
      rw [ranEcho]
      exact continues outcome.1 outcome.2 found there holds

/-- Going on after a parser that gives the same at both cursors. -/
theorem Echoes.follow {move : Result → Result}
    {final : Other → Cursor → Other → Cursor → Prop}
    {continued further : Result → Parser Other}
    (repeats : Repeats distance move parser echo cursor shifted)
    (continues : ∀ result next, Echoes distance final (continued result)
      (further (move result)) next (next.shift distance)) :
    Echoes distance final (parser >>= continued) (echo >>= further) cursor
      shifted := by
  refine repeats.bind fun result next found there settled => ?_
  obtain ⟨rfl, rfl⟩ := settled
  exact continues result next

theorem Echoes.mono {weaker : Result → Cursor → Result → Cursor → Prop}
    (echoes : Echoes distance after parser echo cursor shifted)
    (weaken : ∀ result next found there, after result next found there →
      weaker result next found there) :
    Echoes distance weaker parser echo cursor shifted := by
  unfold Echoes at echoes ⊢
  cases ran : parser cursor with
  | error error =>
      rw [ran] at echoes
      exact echoes
  | ok outcome =>
      rw [ran] at echoes
      obtain ⟨found, there, ranEcho, holds⟩ := echoes
      exact ⟨found, there, ranEcho, weaken _ _ _ _ holds⟩

theorem Echoes.discard {final : Cursor → Cursor → Prop}
    (echoes : Echoes distance (fun _ next _ there => final next there) parser echo
      cursor shifted) :
    Echoes distance (fun _ next _ there => final next there)
      (Functor.discard parser) (Functor.discard echo) cursor shifted := by
  have unfolded : ∀ (parser : Parser Result) (cursor : Cursor),
      Functor.discard parser cursor =
        (parser cursor).bind fun outcome => .ok ((), outcome.2) :=
    fun _ _ => rfl
  unfold Echoes at echoes ⊢
  rw [unfolded, unfolded]
  cases ran : parser cursor with
  | error error =>
      rw [ran] at echoes
      refine echoes.imp id fun failed => ?_
      rw [failed]
      rfl
  | ok outcome =>
      rw [ran] at echoes
      obtain ⟨found, there, ranEcho, holds⟩ := echoes
      rw [ranEcho]
      exact ⟨(), there, rfl, holds⟩

/-- What is read without being used. -/
theorem Echoes.passing {move : Result → Result}
    (repeats : Repeats distance move parser echo cursor shifted) :
    Repeats distance id (Functor.discard parser) (Functor.discard echo) cursor
      shifted := by
  have passed := Echoes.discard (repeats.mono fun _ _ _ _ settled => settled.2)
  exact passed.mono fun _ _ _ _ same => ⟨rfl, same⟩

theorem echoes_ite {condition : Prop} [Decidable condition]
    {other otherEcho : Parser Result}
    (here : condition → Echoes distance after parser echo cursor shifted)
    (there : ¬ condition →
      Echoes distance after other otherEcho cursor shifted) :
    Echoes distance after (if condition then parser else other)
      (if condition then echo else otherEcho) cursor shifted := by
  by_cases holds : condition
  · rw [if_pos holds, if_pos holds]
    exact here holds
  · rw [if_neg holds, if_neg holds]
    exact there holds

/-! ## Looking and moving -/

theorem echoes_get {continued further : Cursor → Parser Result}
    (continues : Echoes distance after (continued cursor) (further shifted) cursor
      shifted) :
    Echoes distance after (get >>= continued) (get >>= further) cursor shifted :=
  continues

theorem echoes_set {next there : Cursor} {continued further : Unit → Parser Result}
    (continues : Echoes distance after (continued ()) (further ()) next there) :
    Echoes distance after (set next >>= continued) (set there >>= further) cursor
      shifted :=
  continues

/-- Moving over the next token. -/
theorem echoes_setToken {continued further : Unit → Parser Result}
    (aligned : Aligned distance cursor shifted) (count : Nat)
    (continues : ∀ next, Echoes distance after (continued ()) (further ()) next
      (next.shift distance)) :
    Echoes distance after
      (set (cursor.tokenStart.advance count) >>= continued)
      (set (shifted.tokenStart.advance count) >>= further) cursor shifted := by
  rw [aligned.advance]
  exact continues _

theorem echoes_skip {continued further : Unit → Parser Result} (count : Nat)
    (continues : Echoes distance after (continued ()) (further ())
      (cursor.advance count) ((cursor.advance count).shift distance)) :
    Echoes distance after (skip count >>= continued) (skip count >>= further)
      cursor (cursor.shift distance) := by
  rw [← cursor.advance_shift] at continues
  exact continues

/-- From the next token on, the cursors differ in their offsets only. -/
theorem echoes_skipTrivia {continued further : Unit → Parser Result}
    (aligned : Aligned distance cursor shifted)
    (continues : ∀ start, start = cursor.tokenStart →
      Echoes distance after (continued ()) (further ()) start
        (start.shift distance)) :
    Echoes distance after (skipTrivia >>= continued) (skipTrivia >>= further)
      cursor shifted := by
  have same := continues cursor.tokenStart rfl
  rw [← aligned.token] at same
  exact same

theorem echoes_tokenOffset {continued further : Nat → Parser Result}
    (aligned : Aligned distance cursor shifted)
    (continues : Echoes distance after (continued cursor.tokenStart.offset)
      (further (cursor.tokenStart.offset + distance)) cursor shifted) :
    Echoes distance after (tokenOffset >>= continued) (tokenOffset >>= further)
      cursor shifted := by
  rw [← aligned.offset] at continues
  exact continues

theorem echoes_spanFrom {start : Nat} {continued further : Span → Parser Result}
    (continues : Echoes distance after (continued ⟨start, cursor.offset⟩)
      (further (Span.shift distance ⟨start, cursor.offset⟩)) cursor
      (cursor.shift distance)) :
    Echoes distance after (spanFrom start >>= continued)
      (spanFrom (start + distance) >>= further) cursor (cursor.shift distance) :=
  continues

theorem echoes_failAt (problem : SyntaxProblem) (span : Span) :
    Echoes distance after (failAt problem span)
      (failAt problem (span.shift distance)) cursor shifted :=
  Or.inr rfl

theorem echoes_fail (aligned : Aligned distance cursor shifted)
    (problem : SyntaxProblem) :
    Echoes distance after (fail problem) (fail problem) cursor shifted := by
  have unfolded : ∀ here : Cursor, (fail problem : Parser Result) here =
      .error ⟨problem, ⟨here.tokenStart.offset, here.tokenStart.offset⟩⟩ :=
    fun _ => rfl
  unfold Echoes
  rw [unfolded, unfolded, aligned.offset]
  exact Or.inr rfl

/-- Nothing is said where the bounds of the parser are exhausted. -/
theorem echoes_exhausted :
    Echoes distance after (fail .tooDeep) echo cursor shifted :=
  Or.inl rfl

/-! ## Loops -/

/-- Two rounds agree: both go on, or both end the loop. -/
def Round.Agree (invariant : State → Cursor → State → Cursor → Prop)
    (after : Result → Cursor → Result → Cursor → Prop)
    (outcome : Round State Result) (next : Cursor)
    (echoed : Round State Result) (there : Cursor) : Prop :=
  match outcome, echoed with
  | .again state, .again other => invariant state next other there
  | .finished result, .finished found => after result next found there
  | _, _ => False

theorem echoes_iterate {round other : State → Parser (Round State Result)}
    {invariant : State → Cursor → State → Cursor → Prop}
    (step : ∀ state here twin there, invariant state here twin there →
      Echoes distance (Round.Agree invariant after) (round state) (other twin)
        here there) :
    ∀ (bound more : Nat) (state : State) (here : Cursor) (twin : State)
      (there : Cursor), bound ≤ more → invariant state here twin there →
        Echoes distance after (iterate round bound state)
          (iterate other more twin) here there := by
  intro bound
  induction bound with
  | zero => exact fun _ _ _ _ _ _ _ => echoes_exhausted
  | succ bound inductionHypothesis =>
      intro more state here twin there enough holds
      obtain ⟨rest, rfl⟩ := Nat.exists_eq_add_of_le' (Nat.le_trans
        (Nat.succ_le_succ (Nat.zero_le bound)) enough)
      rw [iterate, iterate]
      refine (step state here twin there holds).bind
        fun outcome next echoed final agreed => ?_
      cases outcome with
      | again following =>
          cases echoed with
          | again other =>
              exact inductionHypothesis rest following next other final
                (Nat.le_of_succ_le_succ enough) agreed
          | finished found => cases agreed
      | finished result =>
          cases echoed with
          | again other => cases agreed
          | finished found => exact echoes_pure agreed

/-- A loop, if its rounds agree.  The shifted text is not shorter, so its bound
is no smaller. -/
theorem echoes_repeating {round other : State → Parser (Round State Result)}
    {state twin : State} (invariant : State → Cursor → State → Cursor → Prop)
    (length_le : cursor.rest.length ≤ shifted.rest.length)
    (initial : invariant state cursor twin shifted)
    (step : ∀ state here twin there, invariant state here twin there →
      Echoes distance (Round.Agree invariant after) (round state) (other twin)
        here there) :
    Echoes distance after (repeating state round) (repeating twin other) cursor
      shifted :=
  echoes_get (echoes_iterate step _ _ state cursor twin shifted
    (Nat.succ_le_succ length_le) initial)

/-- What a round gives, shifted. -/
def Round.map (moveState : State → State) (move : Result → Result) :
    Round State Result → Round State Result
  | .again state => .again (moveState state)
  | .finished result => .finished (move result)

/-- A loop at cursors that differ in their offsets only. -/
theorem repeats_repeating {round other : State → Parser (Round State Result)}
    {state : State} (moveState : State → State) (move : Result → Result)
    (step : ∀ state here, Repeats distance (Round.map moveState move)
      (round state) (other (moveState state)) here (here.shift distance)) :
    Repeats distance move (repeating state round)
      (repeating (moveState state) other) cursor (cursor.shift distance) := by
  refine echoes_repeating
    (fun state here twin there => twin = moveState state ∧
      there = here.shift distance) (Nat.le_refl _) ⟨rfl, rfl⟩ ?_
  rintro state here _ _ ⟨rfl, rfl⟩
  refine (step state here).mono ?_
  rintro outcome next _ _ ⟨rfl, rfl⟩
  cases outcome with
  | again following => exact ⟨rfl, rfl⟩
  | finished result => exact ⟨rfl, rfl⟩

/-- A loop of which only the cursors matter, before a token has been read. -/
theorem aligned_repeating {round other : State → Parser (Round State State)}
    {state : State} (aligned : Aligned distance cursor shifted)
    (step : ∀ state here there, Aligned distance here there →
      Echoes distance (fun outcome next echoed final =>
        echoed = outcome ∧ Aligned distance next final) (round state) (other state)
        here there) :
    Echoes distance (fun result next found final =>
        found = result ∧ Aligned distance next final)
      (repeating state round) (repeating state other) cursor shifted := by
  refine echoes_repeating (fun state here twin there => twin = state ∧
    Aligned distance here there) aligned.length_le ⟨rfl, aligned⟩ ?_
  rintro state here _ there ⟨rfl, alignedHere⟩
  refine (step _ here there alignedHere).mono fun outcome next echoed final agreed => ?_
  obtain ⟨same, alignedNext⟩ := agreed
  rw [same]
  cases outcome with
  | again following => exact ⟨rfl, alignedNext⟩
  | finished result => exact ⟨rfl, alignedNext⟩

/-! ## Tokens -/

/-- A parser that may read a token has read it at both cursors, or moved neither
of them. -/
def Decided (distance : Nat) (cursor shifted : Cursor) (taken : Bool)
    (next : Cursor) (found : Bool) (final : Cursor) : Prop :=
  found = taken ∧ if taken = true then final = next.shift distance
    else next = cursor ∧ final = shifted

/-- Whether a token has been read or not, the cursors stay aligned. -/
theorem Decided.aligned {taken found : Bool} {next final : Cursor}
    (decided : Decided distance cursor shifted taken next found final)
    (aligned : Aligned distance cursor shifted) : Aligned distance next final := by
  obtain ⟨-, moved⟩ := decided
  cases taken with
  | true =>
      have same : final = next.shift distance := moved
      rw [same]
      exact next.aligned_shift distance
  | false =>
      obtain ⟨rfl, rfl⟩ : next = cursor ∧ final = shifted := moved
      exact aligned

/-- Where the cursors differ in their offsets only, they still do. -/
theorem Decided.settles {taken found : Bool} {next final : Cursor}
    (decided : Decided distance cursor (cursor.shift distance) taken next found
      final) : Settles distance id taken next found final := by
  obtain ⟨same, moved⟩ := decided
  cases taken with
  | true => exact ⟨same, moved⟩
  | false =>
      obtain ⟨rfl, rfl⟩ : next = cursor ∧ final = cursor.shift distance := moved
      exact ⟨same, rfl⟩

/-- The two ways to go on after a parser that may read a token. -/
theorem Echoes.branch {parser echo : Parser Bool}
    {taken takenEcho untaken untakenEcho : Parser Result}
    (echoes : Echoes distance (Decided distance cursor shifted) parser echo cursor
      shifted)
    (here : ∀ next, Echoes distance after taken takenEcho next
      (next.shift distance))
    (there : Echoes distance after untaken untakenEcho cursor shifted) :
    Echoes distance after (do if ← parser then taken else untaken)
      (do if ← echo then takenEcho else untakenEcho) cursor shifted := by
  refine echoes.bind fun found next other final decided => ?_
  obtain ⟨rfl, moved⟩ := decided
  cases other with
  | true =>
      have same : final = next.shift distance := moved
      rw [same]
      exact here next
  | false =>
      obtain ⟨rfl, rfl⟩ : next = cursor ∧ final = shifted := moved
      exact there

theorem decides_eat (aligned : Aligned distance cursor shifted)
    (punctuator : Punctuator) :
    Echoes distance (Decided distance cursor shifted) (eat punctuator)
      (eat punctuator) cursor shifted := by
  refine echoes_get ?_
  rw [aligned.sees]
  refine echoes_ite (fun _ => ?_) fun _ => echoes_pure ⟨rfl, rfl, rfl⟩
  exact echoes_setToken aligned _ fun next => echoes_pure ⟨rfl, rfl⟩

theorem repeats_eat (punctuator : Punctuator) :
    Repeats distance id (eat punctuator) (eat punctuator) cursor
      (cursor.shift distance) :=
  (decides_eat (cursor.aligned_shift distance) punctuator).mono
    fun _ _ _ _ decided => decided.settles

theorem repeats_expect (aligned : Aligned distance cursor shifted)
    (punctuator : Punctuator) :
    Repeats distance id (expect punctuator) (expect punctuator) cursor shifted :=
  (decides_eat aligned punctuator).branch (fun _ => repeats_pure rfl)
    (echoes_fail aligned _)

theorem decides_eatWord (aligned : Aligned distance cursor shifted) (word : String) :
    Echoes distance (Decided distance cursor shifted) (eatWord word)
      (eatWord word) cursor shifted := by
  refine echoes_get ?_
  rw [aligned.seesWord]
  refine echoes_ite (fun _ => ?_) fun _ => echoes_pure ⟨rfl, rfl, rfl⟩
  exact echoes_setToken aligned _ fun next => echoes_pure ⟨rfl, rfl⟩

theorem repeats_expectWord (aligned : Aligned distance cursor shifted)
    (word : String) :
    Repeats distance id (expectWord word) (expectWord word) cursor shifted :=
  (decides_eatWord aligned word).branch (fun _ => repeats_pure rfl)
    (echoes_fail aligned _)

/-- A step that is taken only after a token has been read, where the cursors
differ in their offsets only. -/
theorem Echoes.optional {parser echo : Parser Bool} {step stepEcho : Parser Unit}
    {continued further : Unit → Parser Result}
    (echoes : Echoes distance (Decided distance cursor (cursor.shift distance))
      parser echo cursor (cursor.shift distance))
    (taken : ∀ next, Repeats distance id step stepEcho next
      (next.shift distance))
    (continues : ∀ next, Echoes distance after (continued ()) (further ()) next
      (next.shift distance)) :
    Echoes distance after
      (do if ← parser then step >>= continued else continued ())
      (do if ← echo then stepEcho >>= further else further ())
      cursor (cursor.shift distance) :=
  echoes.branch (fun next => (taken next).follow fun _ => continues)
    (continues cursor)

theorem repeats_otherExpression (kind : OtherExpression) (start : Nat) :
    Repeats distance (Expression.relocate (Span.shift distance))
      (otherExpression kind start) (otherExpression kind (start + distance))
      cursor (cursor.shift distance) :=
  echoes_spanFrom (repeats_pure rfl)

abbrev RepeatsName (distance : Nat) (parser echo : Parser Identifier)
    (cursor shifted : Cursor) : Prop :=
  Repeats distance (Identifier.relocate (Span.shift distance)) parser echo cursor
    shifted

theorem repeats_nameOf (aligned : Aligned distance cursor shifted)
    (word : List Char) :
    RepeatsName distance (nameOf word) (nameOf word) cursor shifted := by
  refine echoes_get (echoes_setToken aligned _ fun next => ?_)
  rw [aligned.offset]
  exact echoes_spanFrom (repeats_pure rfl)

theorem repeats_word (aligned : Aligned distance cursor shifted) :
    RepeatsName distance word word cursor shifted := by
  refine echoes_get ?_
  rw [aligned.rest]
  cases wordAtFront? cursor.tokenStart.rest with
  | none => exact echoes_fail aligned _
  | some word => exact repeats_nameOf aligned word

theorem repeats_identifier (aligned : Aligned distance cursor shifted) :
    RepeatsName distance identifier identifier cursor shifted := by
  refine echoes_get ?_
  dsimp only
  rw [aligned.rest, aligned.offset]
  cases wordAtFront? cursor.tokenStart.rest with
  | none => exact echoes_fail aligned _
  | some word =>
      refine echoes_ite (fun _ => ?_) fun _ => repeats_nameOf aligned word
      rw [Nat.add_right_comm]
      exact echoes_failAt _ ⟨_, _⟩

theorem repeats_semicolon :
    Repeats distance id semicolon semicolon cursor (cursor.shift distance) := by
  have aligned := cursor.aligned_shift distance
  refine (decides_eat aligned .semicolon).branch (fun _ => repeats_pure rfl)
    (echoes_get ?_)
  rw [aligned.sees, aligned.atEnd, aligned.newlineBefore]
  exact echoes_ite (fun _ => repeats_pure rfl) fun _ => echoes_fail aligned _

theorem repeats_itemRound {closing : Punctuator} {item other : Parser Result}
    {move : Result → Result} {found : List Result}
    (repeats : Repeats distance move item other cursor
      (cursor.shift distance)) :
    Repeats distance (Round.map (List.map move) (List.map move))
      (itemRound closing item found) (itemRound closing other (found.map move))
      cursor (cursor.shift distance) := by
  refine repeats.follow fun result next => ?_
  have longer : found.map move ++ [move result] = (found ++ [result]).map move := by
    rw [List.map_append]
    rfl
  rw [longer]
  refine (decides_eat (next.aligned_shift distance) .comma).branch
    (fun _ => repeats_pure rfl) ?_
  exact (repeats_expect (next.aligned_shift distance) closing).follow
    fun _ _ => repeats_pure rfl

theorem repeats_commaSeparated {closing : Punctuator} {item other : Parser Result}
    {move : Result → Result}
    (items : ∀ here, Repeats distance move item other here
      (here.shift distance)) :
    Repeats distance (List.map move) (commaSeparated closing item)
      (commaSeparated closing other) cursor (cursor.shift distance) := by
  refine repeats_repeating (List.map move) (List.map move) fun found here => ?_
  have aligned := here.aligned_shift distance
  refine (decides_eat aligned closing).branch (fun _ => repeats_pure rfl) ?_
  exact repeats_itemRound (items here)

theorem repeats_commaSeparatedOrHoles {closing : Punctuator}
    {hole otherHole : Nat → Parser Result} {item other : Parser Result}
    {move : Result → Result}
    (holes : ∀ start here, Repeats distance move (hole start)
      (otherHole (start + distance)) here (here.shift distance))
    (items : ∀ here, Repeats distance move item other here
      (here.shift distance)) :
    Repeats distance (List.map move) (commaSeparatedOrHoles closing hole item)
      (commaSeparatedOrHoles closing otherHole other) cursor
      (cursor.shift distance) := by
  refine repeats_repeating (List.map move) (List.map move) fun found here => ?_
  have aligned := here.aligned_shift distance
  refine echoes_tokenOffset aligned ?_
  refine (decides_eat aligned closing).branch (fun _ => repeats_pure rfl) ?_
  refine (decides_eat aligned .comma).branch (fun next => ?_) ?_
  · refine (holes _ next).follow fun result final => ?_
    rw [← List.map_singleton, ← List.map_append]
    exact repeats_pure rfl
  · exact repeats_itemRound (items here)

end Parser

end Script

end VelocityScript
