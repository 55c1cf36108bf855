import VelocityScript.Script.Grammar.Nested

/-!
# What parsers give

A parser is described by what its results satisfy wherever it succeeds.  A
sequence of parsers inherits this from its last one, a loop from an invariant
of its rounds.
-/

namespace VelocityScript.Script.Parser

variable {Result Other State : Type}

/-- A sequence succeeds when its first parser does, and then the one that
follows. -/
theorem bind_eq_ok {parser : Parser Result} {continued : Result → Parser Other}
    {cursor next : Cursor} {result : Other} :
    (parser >>= continued) cursor = .ok (result, next) ↔
      ∃ first between, parser cursor = .ok (first, between) ∧
        continued first between = .ok (result, next) := by
  have unfolded : (parser >>= continued) cursor =
      (parser cursor).bind fun outcome => continued outcome.1 outcome.2 := rfl
  rw [unfolded]
  cases ran : parser cursor with
  | error error => simp [Except.bind]
  | ok outcome =>
      constructor
      · intro continues
        exact ⟨outcome.1, outcome.2, rfl, continues⟩
      · rintro ⟨first, between, same, continues⟩
        cases same
        exact continues

theorem discard_eq_ok {parser : Parser Result} {cursor next : Cursor}
    {nothing : Unit} :
    discard parser cursor = .ok (nothing, next) ↔
      ∃ result, parser cursor = .ok (result, next) := by
  have unfolded : discard parser cursor =
      (parser cursor).bind fun outcome => .ok ((), outcome.2) := rfl
  rw [unfolded]
  cases parser cursor with
  | error error => simp [Except.bind]
  | ok outcome =>
      obtain ⟨result, final⟩ := outcome
      simp [Except.bind]

/-- Every result of a parser satisfies a condition. -/
def Gives (parser : Parser Result) (holds : Result → Prop) : Prop :=
  ∀ cursor result next, parser cursor = .ok (result, next) → holds result

theorem gives_pure {holds : Result → Prop} {result : Result}
    (held : holds result) : Gives (pure result) holds := by
  intro cursor found next same
  cases same
  exact held

theorem gives_fail (problem : SyntaxProblem) (holds : Result → Prop) :
    Gives (fail problem) holds := by
  intro cursor result next same
  cases same

theorem gives_failAt (problem : SyntaxProblem) (span : Span)
    (holds : Result → Prop) : Gives (failAt problem span) holds := by
  intro cursor result next same
  cases same

theorem gives_pure_bind {holds : Other → Prop} {result : Result}
    {continued : Result → Parser Other}
    (continues : Gives (continued result) holds) :
    Gives (pure result >>= continued) holds := by
  intro cursor found next ran
  obtain ⟨first, between, same, ranOn⟩ := bind_eq_ok.mp ran
  cases same
  exact continues cursor found next ranOn

/-- Whatever the first parser of a sequence gives, the one that follows decides
the result. -/
theorem gives_bind {holds : Other → Prop} {parser : Parser Result}
    {continued : Result → Parser Other}
    (continues : ∀ result, Gives (continued result) holds) :
    Gives (parser >>= continued) holds := by
  intro cursor result next ran
  obtain ⟨first, between, _, ranOn⟩ := bind_eq_ok.mp ran
  exact continues first between result next ranOn

/-- The parser that follows can rely on what the first one gives. -/
theorem Gives.bind {holds : Result → Prop} {after : Other → Prop}
    {parser : Parser Result} {continued : Result → Parser Other}
    (gives : Gives parser holds)
    (continues : ∀ result, holds result → Gives (continued result) after) :
    Gives (parser >>= continued) after := by
  intro cursor result next ran
  obtain ⟨first, between, ranFirst, ranOn⟩ := bind_eq_ok.mp ran
  exact continues first (gives cursor first between ranFirst) between result
    next ranOn

theorem gives_ite {holds : Result → Prop} {condition : Prop}
    [Decidable condition] {parser other : Parser Result}
    (gives : Gives parser holds) (otherGives : Gives other holds) :
    Gives (if condition then parser else other) holds := by
  split
  · exact gives
  · exact otherGives

/-- A step that is taken only under a condition, and whose result is not
used. -/
theorem gives_when {holds : Other → Prop} {condition : Prop}
    [Decidable condition] {step : Parser Unit} {continued : Unit → Parser Other}
    (continues : Gives (continued ()) holds) :
    Gives (if condition then step >>= continued else continued ()) holds := by
  split
  · exact gives_bind fun _ => continues
  · exact continues

theorem Gives.mono {holds weaker : Result → Prop} {parser : Parser Result}
    (gives : Gives parser holds)
    (weaken : ∀ result, holds result → weaker result) : Gives parser weaker :=
  fun cursor result next ran => weaken result (gives cursor result next ran)

/-- What an outcome of a round satisfies: the invariant, or what the loop
gives. -/
def Round.Satisfies (invariant : State → Cursor → Prop)
    (after : Result → Cursor → Prop) : Round State Result → Cursor → Prop
  | .again state, cursor => invariant state cursor
  | .finished result, cursor => after result cursor

/-- What holds before every round, and after the last one, holds of the loop.
The invariant may speak of the cursor as well. -/
theorem iterate_satisfies {round : State → Parser (Round State Result)}
    {invariant : State → Cursor → Prop} {after : Result → Cursor → Prop}
    (step : ∀ state cursor outcome next, invariant state cursor →
      round state cursor = .ok (outcome, next) →
        Round.Satisfies invariant after outcome next) :
    ∀ (bound : Nat) (state : State) (cursor : Cursor) (result : Result)
      (next : Cursor), invariant state cursor →
        iterate round bound state cursor = .ok (result, next) →
          after result next := by
  intro bound
  induction bound with
  | zero =>
      intro state cursor result next _ ran
      cases ran
  | succ bound inductionHypothesis =>
      intro state cursor result next holds ran
      rw [iterate, bind_eq_ok] at ran
      obtain ⟨outcome, between, ranRound, ranOn⟩ := ran
      have satisfied := step state cursor outcome between holds ranRound
      cases outcome with
      | again following =>
          exact inductionHypothesis following between result next satisfied
            ranOn
      | finished found =>
          cases ranOn
          exact satisfied

theorem repeating_satisfies {round : State → Parser (Round State Result)}
    (invariant : State → Cursor → Prop) (after : Result → Cursor → Prop)
    (step : ∀ state cursor outcome next, invariant state cursor →
      round state cursor = .ok (outcome, next) →
        Round.Satisfies invariant after outcome next)
    {state : State} {cursor next : Cursor} {result : Result}
    (holds : invariant state cursor)
    (ran : repeating state round cursor = .ok (result, next)) :
    after result next := by
  rw [repeating, bind_eq_ok] at ran
  obtain ⟨found, between, gotten, ranOn⟩ := ran
  cases gotten
  exact iterate_satisfies step _ state cursor result next holds ranOn

/-- A round leads to the invariant, or to what the loop gives. -/
def Round.Keeps (invariant : State → Prop) (holds : Result → Prop) :
    Round State Result → Prop
  | .again state => invariant state
  | .finished result => holds result

/-- A loop whose invariant speaks of its state only. -/
theorem gives_repeating (invariant : State → Prop) (holds : Result → Prop)
    {round : State → Parser (Round State Result)} {state : State}
    (initial : invariant state)
    (step : ∀ state, invariant state →
      Gives (round state) (Round.Keeps invariant holds)) :
    Gives (repeating state round) holds := by
  intro cursor result next ran
  refine repeating_satisfies (fun state _ => invariant state)
    (fun result _ => holds result) ?_ initial ran
  intro state cursor outcome next holding ranRound
  have satisfied := step state holding cursor outcome next ranRound
  cases outcome with
  | again following => exact satisfied
  | finished found => exact satisfied

/-! ## Lists of items -/

/-- What a round of a list does where an item comes next. -/
def itemRound (closing : Punctuator) (item : Parser Result)
    (items : List Result) : Parser (Round (List Result) (List Result)) := do
  let items := items ++ [← item]
  if ← eat .comma then
    return .again items
  else
    expect closing
    return .finished items

theorem gives_itemRound {closing : Punctuator} {item : Parser Result}
    {holds : Result → Prop} {items : List Result}
    (held : ∀ result ∈ items, holds result) (gives : Gives item holds) :
    Gives (itemRound closing item items)
      (Round.Keeps (fun results => ∀ result ∈ results, holds result)
        fun results => ∀ result ∈ results, holds result) := by
  refine gives.bind fun result holding => ?_
  have extended : ∀ found ∈ items ++ [result], holds found :=
    List.forall_mem_append.mpr ⟨held, List.forall_mem_singleton.mpr holding⟩
  refine gives_bind fun comma => ?_
  split
  · exact gives_pure extended
  · exact gives_bind fun _ => gives_pure extended

theorem gives_commaSeparated {closing : Punctuator} {item : Parser Result}
    {holds : Result → Prop} (gives : Gives item holds) :
    Gives (commaSeparated closing item) fun results =>
      ∀ result ∈ results, holds result := by
  refine gives_repeating (fun results => ∀ result ∈ results, holds result) _
    (List.forall_mem_nil holds) ?_
  intro results held
  refine gives_bind fun closed => ?_
  split
  · exact gives_pure held
  · exact gives_itemRound held gives

theorem gives_commaSeparatedOrHoles {closing : Punctuator}
    {hole : Nat → Parser Result} {item : Parser Result}
    {holds : Result → Prop} (holeGives : ∀ start, Gives (hole start) holds)
    (gives : Gives item holds) :
    Gives (commaSeparatedOrHoles closing hole item) fun results =>
      ∀ result ∈ results, holds result := by
  refine gives_repeating (fun results => ∀ result ∈ results, holds result) _
    (List.forall_mem_nil holds) ?_
  intro results held
  refine gives_bind fun start => gives_bind fun closed => ?_
  split
  · exact gives_pure held
  · refine gives_bind fun missing => ?_
    split
    · exact (holeGives start).bind fun result holding =>
        gives_pure (List.forall_mem_append.mpr
          ⟨held, List.forall_mem_singleton.mpr holding⟩)
    · exact gives_itemRound held gives

end VelocityScript.Script.Parser
