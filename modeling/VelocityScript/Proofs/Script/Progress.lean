import VelocityScript.Proofs.Script.Reading

/-!
# Cursors move through a text

A cursor of a text is given by a part of the text that has been passed: its
offset counts the bytes of that part, and the rest is what comes after it.  So
its offset lies between two characters of the text.  A move passes some more
characters.

A parser runs safely at a cursor if it moves to another one that satisfies a
condition, or fails with an error that does not come from a bound of the parser
itself and whose span lies between two cursors of the text.
-/

namespace VelocityScript.Script

/-- The second cursor is reached from the first one over at least `count`
characters. -/
def Cursor.Moves (count : Nat) (first next : Cursor) : Prop :=
  ∃ passed, first.rest = passed ++ next.rest ∧
    next.offset = first.offset + byteLength passed ∧ count ≤ passed.length

namespace Cursor.Moves

variable {count more : Nat} {first middle next : Cursor}

theorem refl (cursor : Cursor) : Moves 0 cursor cursor :=
  ⟨[], rfl, rfl, Nat.le_refl 0⟩

theorem trans (earlier : Moves count first middle)
    (later : Moves more middle next) : Moves (count + more) first next := by
  obtain ⟨passed, split, counted, enough⟩ := earlier
  obtain ⟨others, splitRest, countedRest, enoughRest⟩ := later
  refine ⟨passed ++ others, ?_, ?_, ?_⟩
  · rw [split, splitRest, List.append_assoc]
  · rw [countedRest, counted, byteLength_append, Nat.add_assoc]
  · rw [List.length_append]
    omega

theorem weaken {less : Nat} (moves : Moves count first next)
    (fewer : less ≤ count) : Moves less first next := by
  obtain ⟨passed, split, counted, enough⟩ := moves
  exact ⟨passed, split, counted, Nat.le_trans fewer enough⟩

theorem reaches (moves : Moves count first next) : Moves 0 first next :=
  moves.weaken (Nat.zero_le count)

/-- Moving further keeps what has been passed. -/
theorem further (earlier : Moves count first middle)
    (later : Moves more middle next) : Moves count first next :=
  (earlier.trans later).weaken (Nat.le_add_right count more)

/-- An earlier move adds to what is passed. -/
theorem onTo (earlier : Moves count first middle)
    (later : Moves more middle next) : Moves more first next :=
  (earlier.trans later).weaken (Nat.le_add_left more count)

theorem length_le (moves : Moves count first next) :
    next.rest.length + count ≤ first.rest.length := by
  obtain ⟨passed, split, counted, enough⟩ := moves
  have lengths := congrArg List.length split
  rw [List.length_append] at lengths
  omega

/-- A move leaves less of a text that is short enough. -/
theorem within {budget : Nat} (moves : Moves count first next)
    (short : first.rest.length ≤ budget) : next.rest.length + count ≤ budget :=
  Nat.le_trans moves.length_le short

theorem offset_le (moves : Moves count first next) :
    first.offset ≤ next.offset := by
  obtain ⟨passed, split, counted, enough⟩ := moves
  omega

theorem length_le_byteLength : ∀ characters : List Char,
    characters.length ≤ byteLength characters
  | [] => Nat.le_refl 0
  | character :: rest => by
      have positive := character.utf8Size_pos
      have others := length_le_byteLength rest
      simp only [List.length_cons, byteLength]
      omega

/-- A move over characters adds to the offset. -/
theorem offset_lt (moves : Moves count first next) :
    first.offset + count ≤ next.offset := by
  obtain ⟨passed, split, counted, enough⟩ := moves
  have bytes := length_le_byteLength passed
  omega

end Cursor.Moves

namespace Cursor

variable {count : Nat}

theorem moves_advance (cursor : Cursor) {length : Nat} (enough : count ≤ length)
    (inside : count ≤ cursor.rest.length) :
    Moves count cursor (cursor.advance length) := by
  refine ⟨cursor.rest.take length, (List.take_append_drop _ _).symm, rfl, ?_⟩
  rw [List.length_take]
  omega

theorem moves_tokenStart (cursor : Cursor) : Moves 0 cursor cursor.tokenStart :=
  moves_advance cursor (Nat.zero_le _) (Nat.zero_le _)

/-- Passing a text that stands at the cursor. -/
theorem moves_of_isPrefix {cursor : Cursor} {word : List Char}
    (front : word <+: cursor.rest) (nonempty : word ≠ []) :
    Moves 1 cursor (cursor.advance word.length) := by
  have positive : 0 < word.length := List.length_pos_iff.mpr nonempty
  exact moves_advance cursor positive (Nat.le_trans positive front.length_le)

/-- Passing the next token. -/
theorem moves_token {cursor : Cursor} {word : List Char}
    (front : word <+: cursor.tokenStart.rest) (nonempty : word ≠ []) :
    Moves 1 cursor (cursor.tokenStart.advance word.length) :=
  cursor.moves_tokenStart.onTo (moves_of_isPrefix front nonempty)

/-- A cursor of a text. -/
def StandsIn (text : List Char) (cursor : Cursor) : Prop :=
  Moves 0 ⟨0, text⟩ cursor

/-- Every cursor stands in some text: as many spaces as it counts bytes, and what
follows it. -/
theorem standsIn_padding (cursor : Cursor) :
    cursor.StandsIn (List.replicate cursor.offset ' ' ++ cursor.rest) := by
  have bytes : ∀ count, byteLength (List.replicate count ' ') = count := by
    intro count
    induction count with
    | zero => rfl
    | succ count inductionHypothesis =>
        have single : ' '.utf8Size = 1 := rfl
        rw [List.replicate_succ, byteLength, inductionHypothesis, single,
          Nat.add_comm]
  refine ⟨List.replicate cursor.offset ' ', rfl, ?_, Nat.zero_le _⟩
  rw [bytes, Nat.zero_add]

variable {text : List Char}

theorem StandsIn.after {cursor next : Cursor} (stands : cursor.StandsIn text)
    (moves : Moves count cursor next) : next.StandsIn text :=
  Moves.further stands moves

theorem StandsIn.offset_le {cursor : Cursor} (stands : cursor.StandsIn text) :
    cursor.offset ≤ byteLength text := by
  obtain ⟨passed, split, counted, -⟩ := stands
  have bytes : byteLength text = byteLength passed + byteLength cursor.rest := by
    rw [← byteLength_append, ← split]
  simp only [Nat.zero_add] at counted
  omega

/-- The end of a text is a place of it. -/
theorem moves_end (cursor : Cursor) : Moves 0 cursor ⟨cursor.endOffset, []⟩ :=
  ⟨cursor.rest, (List.append_nil _).symm, rfl, Nat.zero_le _⟩

/-- An earlier cursor stood at the offset. -/
def OpenedAt (text : List Char) (start : Nat) (cursor : Cursor) : Prop :=
  ∃ first : Cursor, first.StandsIn text ∧ first.offset = start ∧
    Moves 0 first cursor

theorem StandsIn.opened {cursor : Cursor} (stands : cursor.StandsIn text) :
    cursor.OpenedAt text cursor.offset :=
  ⟨cursor, stands, rfl, .refl cursor⟩

theorem OpenedAt.after {start : Nat} {cursor next : Cursor}
    (opened : cursor.OpenedAt text start) (moves : Moves count cursor next) :
    next.OpenedAt text start := by
  obtain ⟨first, stands, same, earlier⟩ := opened
  exact ⟨first, stands, same, earlier.further moves⟩

end Cursor

/-- An offset between two characters of a text, or at one of its ends. -/
def IsBoundary (text : List Char) (offset : Nat) : Prop :=
  ∃ before after, text = before ++ after ∧ offset = byteLength before

theorem Cursor.StandsIn.isBoundary {text : List Char} {cursor : Cursor}
    (stands : cursor.StandsIn text) : IsBoundary text cursor.offset := by
  obtain ⟨passed, split, counted, -⟩ := stands
  exact ⟨passed, cursor.rest, split, by simpa using counted⟩

theorem IsBoundary.le {text : List Char} {offset : Nat}
    (boundary : IsBoundary text offset) : offset ≤ byteLength text := by
  obtain ⟨before, after, rfl, rfl⟩ := boundary
  rw [byteLength_append]
  exact Nat.le_add_right _ _

/-- A span from one place of a text to another one that does not come before
it. -/
structure FitsIn (text : List Char) (span : Span) : Prop where
  ordered : span.start ≤ span.stop
  starts : IsBoundary text span.start
  stops : IsBoundary text span.stop

theorem Cursor.OpenedAt.fitsIn {text : List Char} {start : Nat} {cursor : Cursor}
    (opened : cursor.OpenedAt text start) :
    FitsIn text ⟨start, cursor.offset⟩ := by
  obtain ⟨first, stands, rfl, moves⟩ := opened
  exact ⟨moves.offset_le, stands.isBoundary, (stands.after moves).isBoundary⟩

theorem Cursor.StandsIn.fitsIn {text : List Char} {cursor next : Cursor}
    {count : Nat} (stands : cursor.StandsIn text)
    (moves : Cursor.Moves count cursor next) :
    FitsIn text ⟨cursor.offset, next.offset⟩ :=
  (stands.opened.after moves).fitsIn

/-- An error of the text, and not of a bound that the parser has run out of. -/
structure SyntaxError.IsSound (text : List Char) (error : SyntaxError) :
    Prop where
  bounded : error.problem ≠ .tooDeep
  located : FitsIn text error.span

namespace Parser

variable {text : List Char} {Result Other State : Type}

/-- A parser, run at a cursor, leads to a result and a cursor that satisfy a
condition, or fails with an error of the text. -/
def Runs (text : List Char) (parser : Parser Result) (cursor : Cursor)
    (after : Result → Cursor → Prop) : Prop :=
  match parser cursor with
  | .ok (result, next) => after result next
  | .error error => error.IsSound text

/-- A parser, run at a cursor, passes at least `count` characters. -/
abbrev Reads (text : List Char) (count : Nat) (parser : Parser Result)
    (cursor : Cursor) : Prop :=
  Runs text parser cursor fun _ next => Cursor.Moves count cursor next

variable {cursor : Cursor} {after : Result → Cursor → Prop}

theorem runs_pure {result : Result} (holds : after result cursor) :
    Runs text (pure result) cursor after :=
  holds

theorem runs_pure_bind {final : Other → Cursor → Prop} {result : Result}
    {continued : Result → Parser Other}
    (continues : Runs text (continued result) cursor final) :
    Runs text (pure result >>= continued) cursor final :=
  continues

theorem Runs.bind {middle : Result → Cursor → Prop}
    {final : Other → Cursor → Prop} {parser : Parser Result}
    {continued : Result → Parser Other} (runs : Runs text parser cursor middle)
    (continues : ∀ result next, middle result next →
      Runs text (continued result) next final) :
    Runs text (parser >>= continued) cursor final := by
  have unfolded : (parser >>= continued) cursor =
      (parser cursor).bind fun outcome => continued outcome.1 outcome.2 := rfl
  unfold Runs at runs ⊢
  rw [unfolded]
  cases ran : parser cursor with
  | error error =>
      rw [ran] at runs
      exact runs
  | ok outcome =>
      rw [ran] at runs
      exact continues outcome.1 outcome.2 runs

theorem Runs.discard {parser : Parser Result} {final : Cursor → Prop}
    (runs : Runs text parser cursor fun _ next => final next) :
    Runs text (discard parser) cursor fun _ next => final next := by
  have unfolded : Functor.discard parser cursor =
      (parser cursor).bind fun outcome => .ok ((), outcome.2) := rfl
  unfold Runs at runs ⊢
  rw [unfolded]
  cases ran : parser cursor with
  | error error =>
      rw [ran] at runs
      exact runs
  | ok outcome =>
      rw [ran] at runs
      exact runs

theorem Runs.mono {weaker : Result → Cursor → Prop} {parser : Parser Result}
    (runs : Runs text parser cursor after)
    (weaken : ∀ result next, after result next → weaker result next) :
    Runs text parser cursor weaker := by
  unfold Runs at runs ⊢
  cases ran : parser cursor with
  | error error =>
      rw [ran] at runs
      exact runs
  | ok outcome =>
      rw [ran] at runs
      exact weaken outcome.1 outcome.2 runs

/-- What has been passed before a parser runs stays passed. -/
theorem Runs.since {count more : Nat} {here : Cursor}
    {parser : Parser Result} (reads : Reads text more parser here)
    (earlier : Cursor.Moves count cursor here) :
    Runs text parser here fun _ next => Cursor.Moves count cursor next :=
  reads.mono fun _ _ moved => earlier.further moved

/-- What has been passed before a parser runs adds to what the parser passes. -/
theorem Runs.sinceAny {total count more : Nat} {here : Cursor}
    {parser : Parser Result} (reads : Reads text more parser here)
    (earlier : Cursor.Moves count cursor here) (enough : total ≤ count + more) :
    Runs text parser here fun _ next => Cursor.Moves total cursor next :=
  reads.mono fun _ _ moved => (earlier.trans moved).weaken enough

/-- What a parser passes is passed from an earlier cursor, too. -/
theorem Runs.behind {count more : Nat} {here : Cursor}
    {parser : Parser Result} (reads : Reads text more parser here)
    (earlier : Cursor.Moves count cursor here) :
    Runs text parser here fun _ next => Cursor.Moves more cursor next :=
  reads.mono fun _ _ moved => earlier.onTo moved

theorem runs_ite {condition : Prop} [Decidable condition]
    {parser other : Parser Result}
    (here : condition → Runs text parser cursor after)
    (there : ¬ condition → Runs text other cursor after) :
    Runs text (if condition then parser else other) cursor after := by
  split
  · next holds => exact here holds
  · next fails => exact there fails

/-! ## Looking and moving -/

theorem runs_get {continued : Cursor → Parser Result}
    (continues : Runs text (continued cursor) cursor after) :
    Runs text (get >>= continued) cursor after :=
  continues

theorem runs_set {next : Cursor} {continued : Unit → Parser Result}
    (continues : Runs text (continued ()) next after) :
    Runs text (set next >>= continued) cursor after :=
  continues

theorem runs_skipTrivia {continued : Unit → Parser Result}
    (continues : Runs text (continued ()) cursor.tokenStart after) :
    Runs text (skipTrivia >>= continued) cursor after :=
  continues

theorem runs_tokenOffset {continued : Nat → Parser Result}
    (continues : Runs text (continued cursor.tokenStart.offset) cursor after) :
    Runs text (tokenOffset >>= continued) cursor after :=
  continues

theorem runs_spanFrom {start : Nat} {continued : Span → Parser Result}
    (continues : Runs text (continued ⟨start, cursor.offset⟩) cursor after) :
    Runs text (spanFrom start >>= continued) cursor after :=
  continues

/-! ## Failing -/

theorem runs_failAt {problem : SyntaxProblem} {span : Span}
    (bounded : problem ≠ .tooDeep) (located : FitsIn text span) :
    Runs text (failAt problem span) cursor after :=
  SyntaxError.IsSound.mk bounded located

theorem runs_fail {problem : SyntaxProblem} (bounded : problem ≠ .tooDeep)
    (stands : cursor.StandsIn text) :
    Runs text (fail problem) cursor after :=
  SyntaxError.IsSound.mk bounded
    (stands.after cursor.moves_tokenStart).opened.fitsIn

/-- Fails with a span that ends at the cursor. -/
theorem runs_failFrom {problem : SyntaxProblem} {start : Nat}
    (bounded : problem ≠ .tooDeep) (opened : cursor.OpenedAt text start) :
    Runs text (do failAt problem (← spanFrom start)) cursor after :=
  SyntaxError.IsSound.mk bounded opened.fitsIn

/-! ## Loops -/

/-- A round ends the loop, or passes a character and keeps the invariant. -/
def Round.Proceeds (invariant : State → Cursor → Prop)
    (after : Result → Cursor → Prop) (here : Cursor)
    (outcome : Round State Result) (next : Cursor) : Prop :=
  match outcome with
  | .again state => invariant state next ∧ next.rest.length < here.rest.length
  | .finished result => after result next

theorem runs_iterate {round : State → Parser (Round State Result)}
    {invariant : State → Cursor → Prop}
    (step : ∀ state here, invariant state here →
      Runs text (round state) here (Round.Proceeds invariant after here)) :
    ∀ (bound : Nat) (state : State) (here : Cursor), invariant state here →
      here.rest.length < bound →
        Runs text (iterate round bound state) here after := by
  intro bound
  induction bound with
  | zero =>
      intro state here _ short
      omega
  | succ bound inductionHypothesis =>
      intro state here holds short
      rw [iterate]
      refine (step state here holds).bind fun outcome next proceeds => ?_
      cases outcome with
      | again following =>
          have shorter : next.rest.length < here.rest.length := proceeds.2
          exact inductionHypothesis following next proceeds.1 (by omega)
      | finished found => exact proceeds

/-- The bound of a loop suffices if every round but the last one passes a
character. -/
theorem runs_repeating {round : State → Parser (Round State Result)}
    (invariant : State → Cursor → Prop) {state : State}
    (initial : invariant state cursor)
    (step : ∀ state here, invariant state here →
      Runs text (round state) here (Round.Proceeds invariant after here)) :
    Runs text (repeating state round) cursor after :=
  runs_iterate step _ state cursor initial (Nat.lt_succ_self _)

/-- A round passes a character, or at least `count` of them if it is the last
one. -/
abbrev Round.Passes (count : Nat) (here : Cursor) :
    Round State Result → Cursor → Prop :=
  Round.Proceeds (fun _ next => Cursor.Moves 0 here next)
    (fun _ next => Cursor.Moves count here next) here

/-- A loop that only moves on. -/
theorem reads_repeating {round : State → Parser (Round State Result)}
    {state : State} (count : Nat) (stands : cursor.StandsIn text)
    (step : ∀ state here, here.StandsIn text → Cursor.Moves 0 cursor here →
      Runs text (round state) here (Round.Passes count here)) :
    Reads text count (repeating state round) cursor := by
  refine runs_repeating (fun _ here => Cursor.Moves 0 cursor here) (.refl cursor)
    fun state here reached => ?_
  refine (step state here (stands.after reached) reached).mono
    fun outcome next proceeds => ?_
  cases outcome with
  | again following => exact ⟨reached.further proceeds.1, proceeds.2⟩
  | finished found => exact reached.onTo proceeds

end Parser

end VelocityScript.Script
