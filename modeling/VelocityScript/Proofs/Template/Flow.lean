import Mathlib.Data.List.Basic
import VelocityScript.Template.Tree

/-!
# Paths through templates

The control structure of a template, apart from what its elements are: steps
that are taken one after the other, choices between two ways to go on, and
bodies that are taken any number of times.  A path is the list of the steps
that are taken when every choice and every number of rounds has been fixed.

The main result decides for all paths at once whether a step of one kind is
ever followed by a step of another kind.
-/

namespace VelocityScript.Template

/-- The control structure of a template over steps of any type. -/
inductive Flow (Step : Type) where
  | simple (step : Step)
  | either (taken others : List (Flow Step))
  | repeated (body : List (Flow Step))

namespace Flow

variable {Step Other : Type}

/-- `Path flows steps` means that `steps` are taken on some way through
`flows`. -/
inductive Path : List (Flow Step) → List Step → Prop
  | nil : Path [] []
  | simple {step : Step} {rest : List (Flow Step)} {steps : List Step} :
      Path rest steps → Path (.simple step :: rest) (step :: steps)
  | taken {taken others rest : List (Flow Step)} {first second : List Step} :
      Path taken first → Path rest second →
      Path (.either taken others :: rest) (first ++ second)
  | others {taken others rest : List (Flow Step)} {first second : List Step} :
      Path others first → Path rest second →
      Path (.either taken others :: rest) (first ++ second)
  | left {body rest : List (Flow Step)} {steps : List Step} :
      Path rest steps → Path (.repeated body :: rest) steps
  | again {body rest : List (Flow Step)} {first second : List Step} :
      Path body first → Path (.repeated body :: rest) second →
      Path (.repeated body :: rest) (first ++ second)

mutual

/-- The steps of a control structure, in the order of the template. -/
def steps : Flow Step → List Step
  | .simple step => [step]
  | .either taken others => stepsOf taken ++ stepsOf others
  | .repeated body => stepsOf body

def stepsOf : List (Flow Step) → List Step
  | [] => []
  | flow :: rest => flow.steps ++ stepsOf rest

end

mutual

/-- The same control structure over other steps. -/
def map (change : Step → Other) : Flow Step → Flow Other
  | .simple step => .simple (change step)
  | .either taken others => .either (mapAll change taken) (mapAll change others)
  | .repeated body => .repeated (mapAll change body)

def mapAll (change : Step → Other) : List (Flow Step) → List (Flow Other)
  | [] => []
  | flow :: rest => flow.map change :: mapAll change rest

end

@[simp]
theorem stepsOf_append (first second : List (Flow Step)) :
    stepsOf (first ++ second) = stepsOf first ++ stepsOf second := by
  induction first with
  | nil => rfl
  | cons flow rest inductionHypothesis =>
      simp only [List.cons_append, stepsOf, inductionHypothesis,
        List.append_assoc]

@[simp]
theorem mapAll_append (change : Step → Other)
    (first second : List (Flow Step)) :
    mapAll change (first ++ second) =
      mapAll change first ++ mapAll change second := by
  induction first with
  | nil => rfl
  | cons flow rest inductionHypothesis =>
      simp only [List.cons_append, mapAll, inductionHypothesis]

mutual

theorem steps_map (change : Step → Other) :
    ∀ flow : Flow Step, (flow.map change).steps = flow.steps.map change
  | .simple _ => rfl
  | .either taken others => by
      rw [map, steps, steps, stepsOf_mapAll, stepsOf_mapAll, List.map_append]
  | .repeated body => by
      rw [map, steps, steps, stepsOf_mapAll]

@[simp]
theorem stepsOf_mapAll (change : Step → Other) :
    ∀ flows : List (Flow Step),
      stepsOf (mapAll change flows) = (stepsOf flows).map change
  | [] => rfl
  | flow :: rest => by
      rw [mapAll, stepsOf, stepsOf, steps_map, stepsOf_mapAll, List.map_append]

end

mutual

theorem map_map {Third : Type} (change : Step → Other) (again : Other → Third) :
    ∀ flow : Flow Step, (flow.map change).map again = flow.map (again ∘ change)
  | .simple _ => rfl
  | .either taken others => by
      rw [map, map, map, mapAll_mapAll, mapAll_mapAll]
  | .repeated body => by
      rw [map, map, map, mapAll_mapAll]

@[simp]
theorem mapAll_mapAll {Third : Type} (change : Step → Other)
    (again : Other → Third) :
    ∀ flows : List (Flow Step),
      mapAll again (mapAll change flows) = mapAll (again ∘ change) flows
  | [] => rfl
  | flow :: rest => by
      rw [mapAll, mapAll, mapAll, map_map, mapAll_mapAll]

end

mutual

theorem map_id : ∀ flow : Flow Step, flow.map id = flow
  | .simple _ => rfl
  | .either taken others => by rw [map, mapAll_id, mapAll_id]
  | .repeated body => by rw [map, mapAll_id]

@[simp]
theorem mapAll_id : ∀ flows : List (Flow Step), mapAll id flows = flows
  | [] => rfl
  | flow :: rest => by rw [mapAll, map_id, mapAll_id]

end

/-! ## Paths -/

theorem Path.subset {flows : List (Flow Step)} {taken : List Step}
    (path : Path flows taken) : taken ⊆ stepsOf flows := by
  induction path with
  | nil => exact List.nil_subset _
  | simple _ restSubset => exact List.cons_subset_cons _ restSubset
  | taken _ _ firstSubset restSubset =>
      intro step member
      simp only [stepsOf, steps, List.mem_append] at member ⊢
      exact member.imp (fun here => Or.inl (firstSubset here))
        (fun later => restSubset later)
  | others _ _ firstSubset restSubset =>
      intro step member
      simp only [stepsOf, steps, List.mem_append] at member ⊢
      exact member.imp (fun here => Or.inr (firstSubset here))
        (fun later => restSubset later)
  | left _ restSubset => exact List.subset_append_of_subset_right _ restSubset
  | again _ _ firstSubset restSubset =>
      exact List.append_subset.mpr
        ⟨List.subset_append_of_subset_left _ firstSubset, restSubset⟩

/-- A way through one control structure, and a way through those after it. -/
theorem Path.before {flow : Flow Step} {rest : List (Flow Step)}
    {first second : List Step} (path : Path [flow] first)
    (following : Path rest second) : Path (flow :: rest) (first ++ second) := by
  generalize single : [flow] = flows at path
  induction path with
  | nil => cases single
  | simple rest =>
      cases single
      cases rest
      exact .simple following
  | taken path rest =>
      cases single
      cases rest
      rw [List.append_nil]
      exact .taken path following
  | others path rest =>
      cases single
      cases rest
      rw [List.append_nil]
      exact .others path following
  | left rest =>
      cases single
      cases rest
      exact .left following
  | again path _ _ inductionHypothesis =>
      cases single
      rw [List.append_assoc]
      exact .again path (inductionHypothesis rfl)

mutual

/-- Every step of a control structure is taken on some way through it. -/
theorem exists_path_of_mem_steps {step : Step} :
    ∀ flow : Flow Step, step ∈ flow.steps →
      ∃ taken, Path [flow] taken ∧ step ∈ taken
  | .simple found, member => ⟨[found], .simple .nil, member⟩
  | .either taken others, member => by
      rcases List.mem_append.mp member with here | there
      · obtain ⟨steps, path, within⟩ := exists_path_of_mem taken here
        exact ⟨_, .taken path .nil, List.mem_append_left _ within⟩
      · obtain ⟨steps, path, within⟩ := exists_path_of_mem others there
        exact ⟨_, .others path .nil, List.mem_append_left _ within⟩
  | .repeated body, member => by
      obtain ⟨steps, path, within⟩ := exists_path_of_mem body member
      exact ⟨_, .again path (.left .nil), List.mem_append_left _ within⟩

theorem exists_path_of_mem {step : Step} :
    ∀ flows : List (Flow Step), step ∈ stepsOf flows →
      ∃ taken, Path flows taken ∧ step ∈ taken
  | [], member => by cases member
  | flow :: rest, member => by
      rcases List.mem_append.mp member with here | later
      · obtain ⟨first, path, within⟩ := exists_path_of_mem_steps flow here
        obtain ⟨second, following⟩ := exists_path rest
        exact ⟨_, path.before following, List.mem_append_left _ within⟩
      · obtain ⟨first, path⟩ := exists_path_single flow
        obtain ⟨second, following, within⟩ := exists_path_of_mem rest later
        exact ⟨_, path.before following, List.mem_append_right _ within⟩

theorem exists_path_single : ∀ flow : Flow Step, ∃ taken, Path [flow] taken
  | .simple step => ⟨[step], .simple .nil⟩
  | .either taken _ => by
      obtain ⟨steps, path⟩ := exists_path taken
      exact ⟨_, .taken path .nil⟩
  | .repeated _ => ⟨[], .left .nil⟩

/-- There is always a way through. -/
theorem exists_path : ∀ flows : List (Flow Step), ∃ taken, Path flows taken
  | [] => ⟨[], .nil⟩
  | flow :: rest => by
      obtain ⟨first, path⟩ := exists_path_single flow
      obtain ⟨second, following⟩ := exists_path rest
      exact ⟨_, path.before following⟩

end

/-- The paths over other steps are the same paths, with the steps changed. -/
theorem path_mapAll_iff (change : Step → Other) {flows : List (Flow Step)}
    {taken : List Other} :
    Path (mapAll change flows) taken ↔
      ∃ original, Path flows original ∧ original.map change = taken := by
  constructor
  · intro path
    generalize changed : mapAll change flows = others at path
    induction path generalizing flows with
    | nil =>
        cases flows with
        | nil => exact ⟨[], .nil, rfl⟩
        | cons flow rest => cases changed
    | simple path inductionHypothesis =>
        match flows, changed with
        | .simple step :: rest, rfl =>
            obtain ⟨original, found, rfl⟩ := inductionHypothesis rfl
            exact ⟨step :: original, .simple found, rfl⟩
    | taken path following inductionHypothesis restHypothesis =>
        match flows, changed with
        | .either taken others :: rest, rfl =>
            obtain ⟨first, found, rfl⟩ := inductionHypothesis rfl
            obtain ⟨second, foundRest, rfl⟩ := restHypothesis rfl
            exact ⟨_, .taken found foundRest, List.map_append⟩
    | others path following inductionHypothesis restHypothesis =>
        match flows, changed with
        | .either taken others :: rest, rfl =>
            obtain ⟨first, found, rfl⟩ := inductionHypothesis rfl
            obtain ⟨second, foundRest, rfl⟩ := restHypothesis rfl
            exact ⟨_, .others found foundRest, List.map_append⟩
    | left path inductionHypothesis =>
        match flows, changed with
        | .repeated body :: rest, rfl =>
            obtain ⟨original, found, rfl⟩ := inductionHypothesis rfl
            exact ⟨original, .left found, rfl⟩
    | again path following inductionHypothesis restHypothesis =>
        match flows, changed with
        | .repeated body :: rest, rfl =>
            obtain ⟨first, found, rfl⟩ := inductionHypothesis rfl
            obtain ⟨second, foundRest, rfl⟩ := restHypothesis
              (show mapAll change (.repeated body :: rest) = _ from rfl)
            exact ⟨_, .again found foundRest, List.map_append⟩
  · rintro ⟨original, path, rfl⟩
    induction path with
    | nil => exact .nil
    | simple _ changedRest => exact .simple changedRest
    | taken _ _ changedFirst changedRest =>
        rw [List.map_append]
        exact .taken changedFirst changedRest
    | others _ _ changedFirst changedRest =>
        rw [List.map_append]
        exact .others changedFirst changedRest
    | left _ changedRest => exact .left changedRest
    | again _ _ changedFirst changedRest =>
        rw [List.map_append]
        exact .again changedFirst changedRest

/-! ## Steps that end a path -/

variable (ends acts : Step → Bool)

mutual

/-- Whether no way through a control structure takes a step that acts after one
that ends it.  A body that is repeated would be taken again after such a
step. -/
def closes : Flow Step → Bool
  | .simple _ => true
  | .either taken others => closesAll taken && closesAll others
  | .repeated body => !(stepsOf body).any ends

/-- Whether no way through several control structures takes a step that acts
after one that ends it. -/
def closesAll : List (Flow Step) → Bool
  | [] => true
  | flow :: rest =>
      flow.closes && (!flow.steps.any ends || !(stepsOf rest).any acts) &&
        closesAll rest

end

/-- On a path nothing acts after a step that ends it. -/
abbrev EndsThere (taken : List Step) : Prop :=
  taken.Pairwise fun earlier later => ends earlier = true → acts later = false

variable {ends acts}

theorem endsThere_append {first second : List Step} :
    EndsThere ends acts (first ++ second) ↔
      EndsThere ends acts first ∧ EndsThere ends acts second ∧
        ∀ earlier ∈ first, ends earlier = true →
          ∀ later ∈ second, acts later = false := by
  rw [EndsThere, List.pairwise_append]
  exact and_congr_right fun _ => and_congr_right fun _ =>
    ⟨fun holds earlier inFirst ending later inSecond =>
      holds earlier inFirst later inSecond ending,
    fun holds earlier inFirst later inSecond ending =>
      holds earlier inFirst ending later inSecond⟩

theorem closesAll_append (first second : List (Flow Step)) :
    closesAll ends acts (first ++ second) =
      (closesAll ends acts first &&
        (!(stepsOf first).any ends || !(stepsOf second).any acts) &&
          closesAll ends acts second) := by
  induction first with
  | nil => rfl
  | cons flow rest inductionHypothesis =>
      simp only [List.cons_append, closesAll, stepsOf, stepsOf_append,
        List.any_append, inductionHypothesis]
      grind

theorem not_any_iff {taken : List Step} {condition : Step → Bool} :
    (!taken.any condition) = true ↔ ∀ step ∈ taken, condition step = false := by
  simp

theorem closesAll_cons_iff {flow : Flow Step} {rest : List (Flow Step)} :
    closesAll ends acts (flow :: rest) = true ↔
      flow.closes ends acts = true ∧
        (∀ earlier ∈ flow.steps, ends earlier = true →
          ∀ later ∈ stepsOf rest, acts later = false) ∧
        closesAll ends acts rest = true := by
  rw [closesAll, Bool.and_eq_true, Bool.and_eq_true, Bool.or_eq_true,
    not_any_iff, not_any_iff, and_assoc]
  refine and_congr_right fun _ => and_congr_left fun _ => ?_
  constructor
  · rintro (none | quiet) earlier member ending
    · rw [none earlier member] at ending
      cases ending
    · exact quiet
  · intro holds
    by_cases found : ∃ earlier ∈ flow.steps, ends earlier = true
    · obtain ⟨earlier, member, ending⟩ := found
      exact Or.inr (holds earlier member ending)
    · refine Or.inl fun earlier member => ?_
      exact Bool.eq_false_iff.mpr fun ending =>
        found ⟨earlier, member, ending⟩

/-- Every way through control structures that close ends where it should. -/
theorem Path.endsThere {flows : List (Flow Step)} {taken : List Step}
    (path : Path flows taken) (closed : closesAll ends acts flows = true) :
    EndsThere ends acts taken := by
  induction path with
  | nil => exact .nil
  | simple following restEnds =>
      obtain ⟨-, apart, closedRest⟩ := closesAll_cons_iff.mp closed
      refine List.pairwise_cons.mpr ⟨fun later member ending => ?_,
        restEnds closedRest⟩
      exact apart _ List.mem_cons_self ending later (following.subset member)
  | taken path following firstEnds restEnds =>
      obtain ⟨closedHere, apart, closedRest⟩ := closesAll_cons_iff.mp closed
      obtain ⟨closedTaken, -⟩ := Bool.and_eq_true_iff.mp closedHere
      refine endsThere_append.mpr ⟨firstEnds closedTaken, restEnds closedRest,
        fun earlier member ending later memberLater => ?_⟩
      exact apart earlier (List.mem_append_left _ (path.subset member)) ending
        later (following.subset memberLater)
  | others path following firstEnds restEnds =>
      obtain ⟨closedHere, apart, closedRest⟩ := closesAll_cons_iff.mp closed
      obtain ⟨-, closedOthers⟩ := Bool.and_eq_true_iff.mp closedHere
      refine endsThere_append.mpr ⟨firstEnds closedOthers, restEnds closedRest,
        fun earlier member ending later memberLater => ?_⟩
      exact apart earlier (List.mem_append_right _ (path.subset member)) ending
        later (following.subset memberLater)
  | left _ restEnds =>
      exact restEnds (closesAll_cons_iff.mp closed).2.2
  | again path _ firstEnds restEnds =>
      obtain ⟨closedHere, -, -⟩ := closesAll_cons_iff.mp closed
      have unending := not_any_iff.mp closedHere
      have never : ∀ earlier ∈ _, ends earlier = true → False :=
        fun earlier member ending => by
          have told := unending earlier (path.subset member)
          rw [ending] at told
          cases told
      refine endsThere_append.mpr ⟨?_, restEnds closed,
        fun earlier member ending => (never earlier member ending).elim⟩
      exact List.Pairwise.imp_of_mem
        (fun member _ _ ending => (never _ member ending).elim)
        (List.pairwise_of_forall (R := fun _ _ => True) fun _ _ => trivial)

mutual

/-- A control structure closes where every way through it ends where it
should. -/
theorem closes_of_paths (both : ∀ step, ends step = true → acts step = true) :
    ∀ flow : Flow Step,
      (∀ taken, Path [flow] taken → EndsThere ends acts taken) →
        flow.closes ends acts = true
  | .simple _, _ => rfl
  | .either taken others, paths => by
      refine Bool.and_eq_true_iff.mpr ⟨?_, ?_⟩
      · refine closesAll_of_paths both taken fun steps path => ?_
        exact (endsThere_append.mp (paths _ (.taken path .nil))).1
      · refine closesAll_of_paths both others fun steps path => ?_
        exact (endsThere_append.mp (paths _ (.others path .nil))).1
  | .repeated body, paths => by
      refine not_any_iff.mpr fun step member => ?_
      obtain ⟨taken, path, within⟩ := exists_path_of_mem body member
      -- Two rounds: the step of the first one is followed by itself.
      have twice := paths _ (.again path (.again path (.left .nil)))
      refine Bool.eq_false_iff.mpr fun ending => ?_
      have silent := (endsThere_append.mp twice).2.2 step within ending step
        (List.mem_append_left _ within)
      rw [both step ending] at silent
      cases silent

theorem closesAll_of_paths
    (both : ∀ step, ends step = true → acts step = true) :
    ∀ flows : List (Flow Step),
      (∀ taken, Path flows taken → EndsThere ends acts taken) →
        closesAll ends acts flows = true
  | [], _ => rfl
  | flow :: rest, paths => by
      have split : ∀ first second, Path [flow] first → Path rest second →
          EndsThere ends acts (first ++ second) :=
        fun first second path following => paths _ (path.before following)
      refine closesAll_cons_iff.mpr ⟨?_, ?_, ?_⟩
      · obtain ⟨second, following⟩ := exists_path rest
        exact closes_of_paths both flow fun first path =>
          (endsThere_append.mp (split first second path following)).1
      · intro earlier member ending later memberLater
        obtain ⟨first, path, within⟩ := exists_path_of_mem_steps flow member
        obtain ⟨second, following, withinRest⟩ :=
          exists_path_of_mem rest memberLater
        exact (endsThere_append.mp (split first second path following)).2.2
          earlier within ending later withinRest
      · obtain ⟨first, path⟩ := exists_path_single flow
        exact closesAll_of_paths both rest fun second following =>
          (endsThere_append.mp (split first second path following)).2.1

end

/-- Whether all paths end where they should can be read off the control
structures. -/
theorem closesAll_iff (both : ∀ step, ends step = true → acts step = true)
    {flows : List (Flow Step)} :
    closesAll ends acts flows = true ↔
      ∀ taken, Path flows taken → EndsThere ends acts taken :=
  ⟨fun closed _ path => path.endsThere closed, closesAll_of_paths both flows⟩

end Flow

/-! ## The control structure of a template -/

mutual

/-- The control structure of an element.  The clauses of a branch are tried one
after the other. -/
def Element.flow : Element → Flow Element
  | .branch first others otherwise _ =>
      .either first.flows (clauseFlows others (otherwiseFlows otherwise))
  | .loop _ _ body _ => .repeated body.flows
  | element => .simple element

def Block.flows : Block → List (Flow Element)
  | .mk elements _ => flowsOf elements

def Clause.flows : Clause → List (Flow Element)
  | .mk _ body _ => body.flows

def flowsOf : List Element → List (Flow Element)
  | [] => []
  | element :: others => element.flow :: flowsOf others

def otherwiseFlows : Option Block → List (Flow Element)
  | none => []
  | some block => block.flows

/-- The clauses of a branch, where `otherwise` is what is left when none of
them applies. -/
def clauseFlows : List Clause → List (Flow Element) → List (Flow Element)
  | [], otherwise => otherwise
  | clause :: others, otherwise =>
      [.either clause.flows (clauseFlows others otherwise)]

end

@[simp]
theorem flowsOf_append (first second : List Element) :
    flowsOf (first ++ second) = flowsOf first ++ flowsOf second := by
  induction first with
  | nil => rfl
  | cons element others inductionHypothesis =>
      simp only [List.cons_append, flowsOf, inductionHypothesis]

/-- Whether an element only lays out the template. -/
def Element.isLayout : Element → Bool
  | .newLine => true
  | _ => false

/-- Whether elements do no more than lay out the template. -/
def areIdle (elements : List Element) : Bool :=
  (Flow.stepsOf (flowsOf elements)).all Element.isLayout

@[simp]
theorem areIdle_append (first second : List Element) :
    areIdle (first ++ second) = (areIdle first && areIdle second) := by
  rw [areIdle, flowsOf_append, Flow.stepsOf_append, List.all_append]
  rfl

end VelocityScript.Template
