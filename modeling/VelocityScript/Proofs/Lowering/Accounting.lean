import VelocityScript.Proofs.Lowering.StatementDerivation

/-!
# Statements account for what they leave out

A step *accounts* for what it does when it only adds reports, and has done all
of its work where it added none.  The steps of the lowering of statements all
account, with `Yields` as the relation of finished work.
-/

namespace VelocityScript.Lowering

open Script

section Steps

variable {Result Other : Type}

/-- The reports of a step only grow, and where they do not grow the step ends
in a result and an effect that satisfy `post`. -/
structure Accounts (post : Nat → Result → Nat → Effect → Prop)
    (step : Lower Result) : Prop where
  grows : Extends step
  finishes : ∀ state : State,
    (step.run state).2.reports = state.reports →
      ∃ next effect, (step.run state).2 = state.after next effect ∧
        post state.temporaries (step.run state).1 next effect

/-- The postcondition of a step that ends at once. -/
def Returned (result : Result) (first : Nat) (actual : Result) (next : Nat)
    (effect : Effect) : Prop :=
  actual = result ∧ next = first ∧ effect = ∅

/-- The postcondition of an optional step whose results satisfy `post`. -/
def Present (post : Nat → Result → Nat → Effect → Prop) (first : Nat)
    (actual : Option Result) (next : Nat) (effect : Effect) : Prop :=
  ∃ result, actual = some result ∧ post first result next effect

theorem accounts_pure (result : Result) :
    Accounts (Returned result) (pure result) where
  grows := extends_pure result
  finishes state _ :=
    ⟨state.temporaries, ∅, by rw [State.after_empty]; rfl, rfl, rfl, rfl⟩

/-- A step that complains never finishes. -/
theorem accounts_note {post : Nat → Result → Nat → Effect → Prop}
    (complaint : Complaint) (span : Span) (result : Result) :
    Accounts post (do
      note complaint span
      return result) where
  grows := fun state => List.prefix_append state.reports [⟨complaint, span⟩]
  finishes := by
    intro state silent
    have grown : state.reports ++ [⟨complaint, span⟩] = state.reports := silent
    simp at grown

theorem accounts_of_settles {step : Lower (Option Result)}
    {post : Nat → Result → Nat → Effect → Prop}
    (settled : ∀ first, Settles first (post first) step) :
    Accounts (Present post) step where
  grows := extends_of_settles settled
  finishes := by
    intro state silent
    rcases settled state.temporaries state rfl with
      ⟨result, next, effect, ran, holds⟩ | ⟨final, report, others, ran, added⟩
    · rw [ran]
      exact ⟨next, effect, rfl, result, rfl, holds⟩
    · rw [ran, added] at silent
      simp at silent

/-- The postcondition of two steps in sequence. -/
def Sequence (post : Nat → Result → Nat → Effect → Prop)
    (later : Result → Nat → Other → Nat → Effect → Prop) (first : Nat)
    (other : Other) (next : Nat) (effect : Effect) : Prop :=
  ∃ result middle before after,
    post first result middle before ∧ later result middle other next after ∧
      effect = before ++ after

/-- Where the reports of two steps in sequence do not grow, neither step adds
any. -/
theorem Accounts.bind {step : Lower Result} {continued : Result → Lower Other}
    {post : Nat → Result → Nat → Effect → Prop}
    {later : Result → Nat → Other → Nat → Effect → Prop}
    (accounted : Accounts post step)
    (continuedAccounts : ∀ result, Accounts (later result) (continued result)) :
    Accounts (Sequence post later) (step >>= continued) where
  grows := accounted.grows.bind fun result => (continuedAccounts result).grows
  finishes := by
    intro state silent
    rw [run_bind] at silent ⊢
    have grown := accounted.grows state
    have grownLater :=
      (continuedAccounts (step.run state).1).grows (step.run state).2
    rw [silent] at grownLater
    have unchanged : (step.run state).2.reports = state.reports :=
      grownLater.eq_of_length_le grown.length_le
    obtain ⟨middle, before, ran, holds⟩ := accounted.finishes state unchanged
    obtain ⟨next, after, ranLater, holdsLater⟩ :=
      (continuedAccounts (step.run state).1).finishes (step.run state).2
        (silent.trans unchanged.symm)
    refine ⟨next, before ++ after, ?_, _, middle, before, after, holds, ?_, rfl⟩
    · rw [ranLater, ran, State.after_after]
    · rw [ran] at holdsLater ⊢
      exact holdsLater

theorem Accounts.weaken {step : Lower Result}
    {post weaker : Nat → Result → Nat → Effect → Prop}
    (accounted : Accounts post step)
    (implies : ∀ first result next effect,
      post first result next effect → weaker first result next effect) :
    Accounts weaker step where
  grows := accounted.grows
  finishes := by
    intro state silent
    obtain ⟨next, effect, ran, holds⟩ := accounted.finishes state silent
    exact ⟨next, effect, ran, implies _ _ _ _ holds⟩

/-- A result of a step passed through a function. -/
theorem Accounts.map {step : Lower Result}
    {post : Nat → Result → Nat → Effect → Prop} {build : Result → Other}
    {final : Nat → Other → Nat → Effect → Prop}
    (accounted : Accounts post step)
    (implies : ∀ first result next effect,
      post first result next effect → final first (build result) next effect) :
    Accounts final (do
      let result ← step
      return build result) := by
  refine (accounted.bind fun result => accounts_pure (build result)).weaken ?_
  rintro first _ _ _ ⟨result, next, effect, _, holds, ⟨rfl, rfl, rfl⟩, rfl⟩
  rw [Effect.append_empty]
  exact implies _ _ _ _ holds

/-- The postcondition of a step whose directives are collected. -/
def Collected (post : Nat → Result → Nat → Effect → Prop) (first : Nat)
    (actual : Result × List Template.Element) (next : Nat)
    (remaining : Effect) : Prop :=
  ∃ result effect, actual = (result, effect.hoisted) ∧
    remaining = effect.collected ∧ post first result next effect

/-- Collecting the directives of a step takes them out of its effect. -/
theorem accounts_collecting {step : Lower Result}
    {post : Nat → Result → Nat → Effect → Prop} (accounted : Accounts post step) :
    Accounts (Collected post) (collecting step) where
  grows := fun state => accounted.grows { state with hoisted := [] }
  finishes := by
    intro state silent
    obtain ⟨next, effect, ran, holds⟩ :=
      accounted.finishes { state with hoisted := [] } silent
    refine ⟨next, effect.collected, ?_, _, effect, ?_, rfl, holds⟩
    · rw [run_collecting, ran]
      simp [State.after]
    · rw [run_collecting, ran]
      rfl

end Steps

theorem Task.accounts (target : Target) (task : Task) :
    Accounts (Present (Derives target task)) (task.run target) :=
  accounts_of_settles (task_settled target task)

/-! ## Statements without statements inside -/

theorem evaluation_accounts (target : Target) (source : Expression) :
    Accounts (Yields target (.evaluation source))
      (lowerEvaluation target source) := by
  unfold lowerEvaluation
  split
  · next operator place value span =>
      refine (accounts_collecting (Task.accounts target
        (.expression (.assignment operator place value span)))).map ?_
      rintro first _ next _ ⟨_, effect, rfl, rfl, result, rfl, derived⟩
      exact .assignment derived
  · exact accounts_note _ _ _
  · next notAssignment notBinary =>
      have alone : standsAlone source = true := by
        unfold standsAlone
        split
        · exact (notAssignment _ _ _ _ rfl).elim
        · exact (notBinary _ _ _ _ rfl).elim
        · rfl
      refine ((accounts_collecting
        (Task.accounts target (.expression source))).bind fun collected =>
          (?_ : Accounts (fun first elements next effect =>
          ∀ result, collected.1 = some result →
            ∃ reference, result.reference? = some reference ∧
              Returned (collected.2 ++ standalone target source reference) first
                elements next effect) _)).weaken ?_
      · obtain ⟨lowered, hoisted⟩ := collected
        cases lowered with
        | none =>
            refine (accounts_pure hoisted).weaken ?_
            intro _ _ _ _ _ result absent
            cases absent
        | some result =>
            dsimp only
            split
            · exact accounts_note _ _ _
            · next reference converted =>
                refine (accounts_pure _).weaken ?_
                rintro first _ _ _ finished _ ⟨⟩
                exact ⟨reference, converted, finished⟩
      · rintro first _ _ _
          ⟨_, middle, _, _, ⟨_, effect, rfl, rfl, result, rfl, derived⟩,
            finished, rfl⟩
        obtain ⟨reference, converted, rfl, rfl, rfl⟩ := finished result rfl
        rw [Effect.append_empty]
        exact .standalone alone derived converted

theorem result_accounts (target : Target) (returned : Option Expression) :
    Accounts (Yields target (.result returned))
      (lowerResult target returned) := by
  cases returned with
  | none =>
      refine (accounts_pure []).weaken ?_
      rintro first _ _ _ ⟨rfl, rfl, rfl⟩
      exact .noResult
  | some source =>
      refine ((accounts_collecting (Task.accounts target (.value source))).bind
        fun collected => accounts_pure _).weaken ?_
      rintro first _ _ _
        ⟨_, _, _, _, ⟨_, effect, rfl, rfl, value, rfl, derived⟩,
          ⟨rfl, rfl, rfl⟩, rfl⟩
      rw [Effect.append_empty]
      exact .result derived

theorem declaration_accounts (target : Target) (declared : Declaration) :
    Accounts (Yields target (.declaration declared))
      (lowerDeclaration target declared) := by
  unfold lowerDeclaration
  split
  · next uninitialised =>
      refine (accounts_pure []).weaken ?_
      rintro first _ _ _ ⟨rfl, rfl, rfl⟩
      exact .uninitialised uninitialised
  · next initial initialised =>
      split
      · next name named =>
          refine ((Task.accounts target (.name name.name name.span)).bind
            fun place =>
              (accounts_collecting
                (Task.accounts target (.expression initial))).bind
                fun collected => (?_ : Accounts
                  (fun first elements next effect =>
                    ∀ placed value, place = some placed →
                      collected.1 = some value →
                        Returned
                          (collected.2 ++
                            [.assign (.named (.ofIdentifier placed))
                              value.interpolated (some declared.span)])
                          first elements next effect) _)).weaken ?_
          · obtain ⟨lowered, hoisted⟩ := collected
            cases place with
            | none =>
                refine (accounts_pure hoisted).weaken ?_
                rintro _ _ _ _ _ placed value ⟨⟩
            | some placed =>
                cases lowered with
                | none =>
                    refine (accounts_pure hoisted).weaken ?_
                    rintro _ _ _ _ _ placed value _ ⟨⟩
                | some value =>
                    refine (accounts_pure _).weaken ?_
                    rintro first _ _ _ finished _ _ ⟨⟩ ⟨⟩
                    exact finished
          · rintro first _ _ _
              ⟨_, middle, before, _, ⟨placed, rfl, nameDerived⟩,
                ⟨_, next, _, _, ⟨_, after, rfl, rfl, value, rfl, derived⟩,
                  finished, rfl⟩,
                rfl⟩
            obtain ⟨rfl, rfl, rfl⟩ := finished placed value rfl rfl
            rw [Effect.append_empty]
            exact .initialised named initialised nameDerived derived
      · exact accounts_note _ _ _

theorem declarations_account (target : Target) :
    ∀ declared : List Declaration,
      Accounts (Yields target (.declarations declared))
        (lowerDeclarations target declared)
  | [] => by
      refine (accounts_pure []).weaken ?_
      rintro first _ _ _ ⟨rfl, rfl, rfl⟩
      exact .noDeclarations
  | declaration :: others => by
      refine ((declaration_accounts target declaration).bind fun elements =>
        (declarations_account target others).bind fun rest =>
          accounts_pure (elements ++ rest)).weaken ?_
      rintro first _ _ _
        ⟨elements, middle, before, _, yielded,
          ⟨rest, next, after, _, othersYielded, ⟨rfl, rfl, rfl⟩, rfl⟩, rfl⟩
      rw [Effect.append_empty]
      exact .moreDeclarations yielded othersYielded

theorem accounts_temporary (origin : Template.Origin) :
    Accounts
      (fun first made next effect =>
        made = temporaryVariable first origin ∧ next = first + 1 ∧ effect = ∅)
      (temporary origin) where
  grows state := List.prefix_refl state.reports
  finishes state _ := by
    refine ⟨state.temporaries + 1, ∅, ?_, rfl, rfl, rfl⟩
    simp [temporary, State.after]
    rfl

theorem entryPattern_accounts (target : Target)
    (elements : List BindingElement) (span : Span) :
    Accounts (Present (Yields target (.loopPattern (.array elements span))))
      (lowerEntryPattern elements span) := by
  unfold lowerEntryPattern
  split
  · exact accounts_note _ _ _
  · split
    · exact accounts_note _ _ _
    · next key value names =>
        refine ((accounts_temporary (some span)).bind fun entry =>
          (Task.accounts target (.name key.name key.span)).bind fun keyName =>
            (?_ : Accounts
              (fun first result next effect => ∀ placed, keyName = some placed →
                ∃ valueName,
                  result = some (entry,
                    [entryPart entry placed "key" key.span,
                      entryPart entry valueName "value" value.span,
                      .newLine]) ∧
                    Derives target (.name value.name value.span) first valueName
                      next effect) _)).weaken ?_
        · cases keyName with
          | none =>
              refine (accounts_pure none).weaken ?_
              rintro _ _ _ _ _ placed ⟨⟩
          | some keyPlaced =>
              refine ((Task.accounts target (.name value.name value.span)).bind
                fun valueName => (?_ : Accounts
                  (fun first result next effect =>
                    ∀ placed, valueName = some placed →
                      Returned
                        (some (entry,
                          [entryPart entry keyPlaced "key" key.span,
                            entryPart entry placed "value" value.span,
                            .newLine]))
                        first result next effect) _)).weaken ?_
              · cases valueName with
                | none =>
                    refine (accounts_pure none).weaken ?_
                    rintro _ _ _ _ _ placed ⟨⟩
                | some placed =>
                    refine (accounts_pure _).weaken ?_
                    rintro first _ _ _ finished _ ⟨⟩
                    exact finished
              · rintro first _ _ _
                  ⟨_, next, effect, _, ⟨placed, rfl, derived⟩, finished, rfl⟩ _ ⟨⟩
                obtain ⟨rfl, rfl, rfl⟩ := finished placed rfl
                rw [Effect.append_empty]
                exact ⟨placed, rfl, derived⟩
        · rintro first _ _ _
            ⟨_, _, _, _, ⟨rfl, rfl, rfl⟩,
              ⟨_, middle, before, _, ⟨keyPlaced, rfl, keyDerived⟩, finished, rfl⟩,
              rfl⟩
          obtain ⟨valuePlaced, rfl, valueDerived⟩ := finished keyPlaced rfl
          rw [Effect.empty_append]
          exact ⟨_, rfl, .entry names keyDerived valueDerived⟩

theorem loopPattern_accounts (target : Target) (pattern : BindingName) :
    Accounts (Present (Yields target (.loopPattern pattern)))
      (lowerLoopPattern pattern) := by
  cases pattern with
  | identifier name =>
      refine (Task.accounts target (.name name.name name.span)).map ?_
      rintro first _ next effect ⟨placed, rfl, derived⟩
      exact ⟨_, rfl, .item derived⟩
  | array elements span => exact entryPattern_accounts target elements span
  | object properties span => exact accounts_note _ _ _

/-! ## Statements -/

/-- A branch accounts when its parts do. -/
theorem branch_accounts {target : Target} {consequent : Statement}
    {alternative : Option Statement} (condition : Expression)
    (consequentAccounts : Accounts (Yields target (.statement consequent))
      (lowerStatement target consequent))
    (alternativeAccounts :
      Accounts (Present (Yields target (.alternative alternative)))
        (lowerAlternative target alternative)) :
    Accounts (Present (Yields target (.branch condition consequent alternative)))
      (lowerBranch (lowerExpression target condition)
        (lowerStatement target consequent) consequent.span
        (lowerAlternative target alternative)) := by
  refine ((Task.accounts target (.expression condition)).bind fun result =>
    consequentAccounts.bind fun elements =>
      alternativeAccounts.bind fun rest => accounts_pure _).weaken ?_
  rintro first _ _ _
    ⟨_, second, before, _, ⟨result, rfl, derived⟩,
      ⟨elements, third, between, _, yielded,
        ⟨_, next, after, _, ⟨rest, rfl, restYielded⟩, ⟨rfl, rfl, rfl⟩, rfl⟩,
        rfl⟩,
      rfl⟩
  rw [Effect.append_empty, ← Effect.append_assoc]
  exact ⟨_, rfl, .branch derived yielded restYielded⟩

/-- The other side of a branch, where it is no branch. -/
theorem otherwise_accounts {target : Target} {source : Statement}
    (notBranch : isBranch source = false)
    (accounted : Accounts (Yields target (.statement source))
      (lowerStatement target source)) :
    Accounts (Present (Yields target (.alternative (some source))))
      (lowerAlternative target (some source)) := by
  rw [lowerAlternative_of_not_branch target notBranch]
  exact accounted.map
    fun _ _ _ _ yielded => ⟨_, rfl, .otherwise notBranch yielded⟩

mutual

theorem statement_accounts (target : Target) :
    ∀ source : Statement,
      Accounts (Yields target (.statement source)) (lowerStatement target source)
  | .block statements placement =>
      (statements_account target statements).map
        fun _ _ _ _ yielded => .block yielded
  | .expression evaluated placement =>
      (evaluation_accounts target evaluated).map
        fun _ _ _ _ yielded => .evaluation yielded
  | .branch condition consequent alternative placement => by
      have accounted := branch_accounts condition
        (statement_accounts target consequent)
        (alternative_accounts target alternative)
      refine ((accounts_collecting accounted).bind fun collected =>
        accounts_pure _).weaken ?_
      rintro first _ _ _
        ⟨_, next, _, _, ⟨_, effect, rfl, rfl, parts, rfl, yielded⟩,
          ⟨rfl, rfl, rfl⟩, rfl⟩
      rw [Effect.append_empty]
      exact .branching yielded
  | .loop (.expression assigned) iterable body placement =>
      accounts_note _ _ _
  | .loop (.declaration declared) iterable body placement => by
      refine ((loopPattern_accounts target declared.name).bind fun pattern =>
        (accounts_collecting (Task.accounts target (.value iterable))).bind
          fun collected =>
            (statement_accounts target body).bind fun elements =>
              accounts_pure _).weaken ?_
      rintro first _ _ _
        ⟨_, second, before, _, ⟨⟨item, opening⟩, rfl, patternYielded⟩,
          ⟨_, third, _, _, ⟨_, between, rfl, rfl, value, rfl, derived⟩,
            ⟨elements, next, after, _, bodyYielded, ⟨rfl, rfl, rfl⟩, rfl⟩,
            rfl⟩,
          rfl⟩
      rw [Effect.append_empty, ← Effect.append_assoc]
      exact .looping patternYielded derived bodyYielded
  | .result returned placement =>
      (result_accounts target returned).map
        fun _ _ _ _ yielded => .returning yielded
  | .declarations keyword declared placement =>
      (declarations_account target declared).map
        fun _ _ _ _ yielded => .declaring yielded
  | .other kind placement => accounts_note _ _ _

theorem statements_account (target : Target) :
    ∀ sources : List Statement,
      Accounts (Yields target (.statements sources))
        (lowerStatements target sources)
  | [] => by
      refine (accounts_pure []).weaken ?_
      rintro first _ _ _ ⟨rfl, rfl, rfl⟩
      exact .noStatements
  | source :: others => by
      refine ((statement_accounts target source).bind fun elements =>
        (statements_account target others).bind fun rest =>
          accounts_pure (elements ++ rest)).weaken ?_
      rintro first _ _ _
        ⟨elements, middle, before, _, yielded,
          ⟨rest, next, after, _, othersYielded, ⟨rfl, rfl, rfl⟩, rfl⟩, rfl⟩
      rw [Effect.append_empty]
      exact .moreStatements yielded othersYielded

theorem alternative_accounts (target : Target) :
    ∀ source : Option Statement,
      Accounts (Present (Yields target (.alternative source)))
        (lowerAlternative target source)
  | none => by
      refine (accounts_pure _).weaken ?_
      rintro first _ _ _ ⟨rfl, rfl, rfl⟩
      exact ⟨_, rfl, .noAlternative⟩
  | some (.branch condition consequent alternative placement) => by
      refine (branch_accounts condition (statement_accounts target consequent)
        (alternative_accounts target alternative)).map ?_
      rintro first _ next effect ⟨parts, rfl, yielded⟩
      exact ⟨_, rfl, .chained yielded⟩
  | some (.block statements placement) =>
      otherwise_accounts rfl
        (statement_accounts target (.block statements placement))
  | some (.expression evaluated placement) =>
      otherwise_accounts rfl
        (statement_accounts target (.expression evaluated placement))
  | some (.loop header iterable body placement) =>
      otherwise_accounts rfl
        (statement_accounts target (.loop header iterable body placement))
  | some (.result returned placement) =>
      otherwise_accounts rfl
        (statement_accounts target (.result returned placement))
  | some (.declarations keyword declared placement) =>
      otherwise_accounts rfl
        (statement_accounts target (.declarations keyword declared placement))
  | some (.other kind placement) =>
      otherwise_accounts rfl
        (statement_accounts target (.other kind placement))

end

/-- Every step of the lowering of statements accounts for what it leaves
out. -/
theorem passage_accounts (target : Target) :
    ∀ passage : Passage,
      Accounts (Present (Yields target passage)) (passage.run target)
  | .evaluation source =>
      (evaluation_accounts target source).map
        fun _ _ _ _ yielded => ⟨_, rfl, yielded⟩
  | .result returned =>
      (result_accounts target returned).map
        fun _ _ _ _ yielded => ⟨_, rfl, yielded⟩
  | .declaration declared =>
      (declaration_accounts target declared).map
        fun _ _ _ _ yielded => ⟨_, rfl, yielded⟩
  | .declarations declared =>
      (declarations_account target declared).map
        fun _ _ _ _ yielded => ⟨_, rfl, yielded⟩
  | .loopPattern pattern => loopPattern_accounts target pattern
  | .branch condition consequent rest =>
      branch_accounts condition (statement_accounts target consequent)
        (alternative_accounts target rest)
  | .alternative source => alternative_accounts target source
  | .statement source =>
      (statement_accounts target source).map
        fun _ _ _ _ yielded => ⟨_, rfl, yielded⟩
  | .statements sources =>
      (statements_account target sources).map
        fun _ _ _ _ yielded => ⟨_, rfl, yielded⟩

end VelocityScript.Lowering
