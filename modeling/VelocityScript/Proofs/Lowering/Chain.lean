import VelocityScript.Proofs.Lowering.Accounting
import VelocityScript.Proofs.Lowering.Adequacy
import VelocityScript.Proofs.Lowering.Variables

/-!
# Chains of branches

A branch whose other side is a branch again is a chain, with a link for each of the
conditions.  It is lowered link by link, the condition before what it guards, to one
directive: the clauses follow the links, and what the conditions need runs in front
of them all.
-/

namespace VelocityScript.Lowering

open Script

/-- A condition with the statement that it guards, and where the branch with them
stands. -/
structure Link where
  condition : Expression
  consequent : Statement
  placement : Placement

/-- The other side of a branch: the links after it, and what runs when none of
their conditions holds. -/
def elseBranches : List Link → Option Statement → Option Statement
  | [], otherwise => otherwise
  | link :: others, otherwise =>
      some (.branch link.condition link.consequent
        (elseBranches others otherwise) link.placement)

/-- The statement that is a chain of some links. -/
def Link.chain (first : Link) (others : List Link) (otherwise : Option Statement) :
    Statement :=
  .branch first.condition first.consequent (elseBranches others otherwise)
    first.placement

/-- The clause of a link, from what its condition and its statement are lowered
to. -/
def Link.clause (link : Link) (condition : Template.Expression)
    (elements : List Template.Element) : Template.Clause :=
  .mk condition.interpolated (.mk elements (some link.consequent.span))
    (some link.consequent.span)

/-- `LowersChain target state links otherwise clauses block hoisted final` means
that lowering the links one after the other from `state`, and at last what runs
otherwise, gives these clauses and this block and ends in `final`, and that the
conditions need the directives `hoisted`, in this order. -/
inductive LowersChain (target : Target) :
    State → List Link → Option Statement → List Template.Clause →
      Option Template.Block → List Template.Element → State → Prop
  | nothing {state : State} :
      LowersChain target state [] none [] none [] state
  | otherwise {state final : State} {source : Statement}
      {elements : List Template.Element} :
      (lowerStatement target source).run state = (elements, final) →
      LowersChain target state [] (some source) []
        (some (.mk elements (some source.span))) [] final
  | link {state middle later final : State} {link : Link} {others : List Link}
      {otherwise : Option Statement} {condition : Template.Expression}
      {clauses : List Template.Clause} {block : Option Template.Block}
      {hoisted elements rest : List Template.Element} :
      (collecting (lowerExpression target link.condition)).run state =
        ((some condition, hoisted), middle) →
      (lowerStatement target link.consequent).run middle = (elements, later) →
      LowersChain target later others otherwise clauses block rest final →
      LowersChain target state (link :: others) otherwise
        (link.clause condition elements :: clauses) block (hoisted ++ rest) final

section Chains

variable {target : Target} {others : List Link} {otherwise : Option Statement}
variable {first next : Nat} {effect : Effect} {state : State}
variable {links : List Link} {clauses : List Template.Clause}
variable {block : Option Template.Block} {hoisted : List Template.Element}
variable {final : State}

/-- No clause is lost, and none is added. -/
theorem LowersChain.length_eq
    (lowered : LowersChain target state links otherwise clauses block hoisted final) :
    clauses.length = links.length := by
  induction lowered with
  | nothing => rfl
  | otherwise _ => rfl
  | link _ _ _ inductionHypothesis =>
      rw [List.length_cons, List.length_cons, inductionHypothesis]

/-- There is a block for what runs otherwise exactly where that is there. -/
theorem LowersChain.isSome_eq
    (lowered : LowersChain target state links otherwise clauses block hoisted final) :
    block.isSome = otherwise.isSome := by
  induction lowered with
  | nothing => rfl
  | otherwise _ => rfl
  | link _ _ _ inductionHypothesis => exact inductionHypothesis

theorem Effect.collected_append (before after : Effect) :
    (before ++ after).collected = before.collected ++ after.collected := rfl

/-- A statement has placed its directives when it ends. -/
theorem Yields.collected_eq {source : Statement} {elements : List Template.Element}
    (yielded : Yields target (.statement source) first elements next effect) :
    effect.collected = effect := by
  have placed : effect.hoisted = [] := yielded.hoisted_eq_nil rfl
  ext1
  · rfl
  · rfl
  · exact placed.symm

theorem Yields.run_statement {source : Statement}
    {elements : List Template.Element}
    (yielded : Yields target (.statement source) first elements next effect)
    (counted : state.temporaries = first) :
    (lowerStatement target source).run state =
      (elements, state.after next effect.collected) := by
  rw [yielded.collected_eq]
  exact ends_some_iff.mp yielded.ends state counted

/-- A link is lowered first, and the others from where that ends. -/
theorem Yields.lowersLink {link : Link} {parts : BranchParts}
    (yielded : Yields target
      (.branch link.condition link.consequent (elseBranches others otherwise))
      first parts next effect)
    (counted : state.temporaries = first)
    (othersLowered : ∀ {first : Nat} {rest : BranchRest} {effect : Effect}
      {state : State},
      Yields target (.alternative (elseBranches others otherwise)) first rest next
        effect →
      state.temporaries = first →
        LowersChain target state others otherwise rest.others rest.otherwise
          effect.hoisted (state.after next effect.collected)) :
    LowersChain target state (link :: others) otherwise
      (parts.first :: parts.others) parts.otherwise effect.hoisted
      (state.after next effect.collected) := by
  cases yielded with
  | @branch _ _ _ _ second third _ _ elements rest before between after derived
      consequent alternative =>
      let middle := state.after second before.collected
      let later := middle.after third between.collected
      have conditionRan := derived.ends.collected state counted
      have consequentRan : (lowerStatement target link.consequent).run middle =
          (elements, later) := consequent.run_statement rfl
      have restRan : LowersChain target later others otherwise rest.others
          rest.otherwise after.hoisted (later.after next after.collected) :=
        othersLowered alternative rfl
      -- The directives of the guarded statement stand in its own block, so the
      -- chain collects those of the condition only.
      have placed : between.hoisted = [] := consequent.hoisted_eq_nil rfl
      have hoisted : (before ++ between ++ after).hoisted =
          before.hoisted ++ after.hoisted := by
        rw [Effect.append_hoisted, Effect.append_hoisted, placed, List.append_nil]
      have ends : state.after next (before ++ between ++ after).collected =
          later.after next after.collected := by
        simp only [later, middle, State.after_after, Effect.collected_append,
          Effect.append_assoc]
      rw [hoisted, ends]
      exact .link conditionRan consequentRan restRan

/-- What follows the first link of a chain is lowered link by link. -/
theorem Yields.lowersRest {rest : BranchRest}
    (yielded : Yields target (.alternative (elseBranches others otherwise)) first
      rest next effect)
    (lastNotBranch : ∀ last ∈ otherwise, isBranch last = false)
    (counted : state.temporaries = first) :
    LowersChain target state others otherwise rest.others rest.otherwise
      effect.hoisted (state.after next effect.collected) := by
  induction others generalizing first rest effect state with
  | nil =>
      cases otherwise with
      | none =>
          cases yielded with
          | noAlternative =>
              subst counted
              have ends : state.after state.temporaries (∅ : Effect).collected =
                  state := state.after_empty
              rw [ends]
              exact .nothing
      | some last =>
          have notBranch := lastNotBranch last rfl
          cases yielded with
          | chained parts => cases notBranch
          | otherwise _ statement =>
              have placed : effect.hoisted = [] := statement.hoisted_eq_nil rfl
              rw [placed]
              exact .otherwise (statement.run_statement counted)
  | cons link others inductionHypothesis =>
      cases yielded with
      | chained parts =>
          apply parts.lowersLink counted
          intro first rest effect state alternative counted
          exact inductionHypothesis alternative counted
      | otherwise notBranch _ =>
          -- A link is a branch, which is never what runs otherwise.
          cases notBranch

/-- A chain whose lowering makes no report becomes one directive.  In front of it
stand the empty lines, and then what its conditions need, in their order.  It has a
clause for each link, in their order, and the block of what runs otherwise. -/
theorem chain_lowers_to_one_directive {link : Link}
    (lastNotBranch : ∀ last ∈ otherwise, isBranch last = false)
    (silent : ((lowerStatement target (link.chain others otherwise)).run
      state).2.reports = state.reports) :
    ∃ clause clauses block hoisted final,
      (lowerStatement target (link.chain others otherwise)).run state =
        (blankLines link.placement ++ hoisted ++
          [.branch clause clauses block (some link.placement.span)], final) ∧
      LowersChain target state (link :: others) otherwise (clause :: clauses) block
        hoisted final := by
  obtain ⟨next, effect, ends, yielded⟩ :=
    (statement_accounts target (link.chain others otherwise)).finishes state silent
  generalize (lowerStatement target (link.chain others otherwise)).run state = run
    at ends yielded ⊢
  rcases run with ⟨elements, final⟩
  cases ends
  cases yielded with
  | branching parts =>
      refine ⟨_, _, _, _, _, rfl, ?_⟩
      apply parts.lowersLink rfl
      intro first rest effect state alternative counted
      exact alternative.lowersRest lastNotBranch counted

end Chains

/-- A chain of three links after two temporaries.  The last two conditions each put
a sum into a temporary, and those stand in front of the directive. -/
theorem chain_lowers_to_one_directive_sums :
    let span : Span := ⟨0, 0⟩
    let placement : Placement := ⟨span, 0⟩
    let read : String → Expression := fun name => .identifier ⟨name, span, .variableName⟩
    let sum : Expression :=
      .array [.binary .add (read "x") (.number "1" span) span] span
    let shown : String → Statement := fun name => .expression (read name) placement
    let link : Link := ⟨read "x", shown "one", placement⟩
    let others : List Link :=
      [⟨sum, shown "two", placement⟩,
        ⟨.binary .equal (read "x") sum span, shown "three", placement⟩]
    let otherwise : Option Statement := some (shown "many")
    let state : State := { temporaries := 2 }
    (∀ last ∈ otherwise, isBranch last = false) ∧
      ((lowerStatement .appsync (link.chain others otherwise)).run
        state).2.reports = state.reports ∧
      ∃ clause clauses block hoisted final,
        (lowerStatement .appsync (link.chain others otherwise)).run state =
          (blankLines link.placement ++ hoisted ++
            [.branch clause clauses block (some link.placement.span)], final) ∧
        LowersChain .appsync state (link :: others) otherwise (clause :: clauses)
          block hoisted final ∧
        hoisted.length = 2 ∧ clauses.length = 2 ∧ block.isSome = true := by
  intro span placement read sum shown link others otherwise state
  have notBranch : ∀ last ∈ otherwise, isBranch last = false := by
    intro last member
    have same : shown "many" = last := Option.some.inj member
    rw [← same]
    rfl
  have silent : ((lowerStatement .appsync (link.chain others otherwise)).run
      state).2.reports = state.reports :=
    List.isEmpty_iff.mp (by decide +kernel)
  obtain ⟨clause, clauses, block, hoisted, final, ran, lowered⟩ :=
    chain_lowers_to_one_directive notBranch silent
  have count : ((lowerStatement .appsync (link.chain others otherwise)).run
      state).1.length = 3 := by
    decide +kernel
  rw [ran] at count
  have clauseCount : clauses.length = 2 := Nat.succ.inj lowered.length_eq
  refine ⟨notBranch, silent, clause, clauses, block, hoisted, final, ran, lowered,
    ?_, clauseCount, lowered.isSome_eq⟩
  simpa [blankLines, link, placement] using count

end VelocityScript.Lowering
