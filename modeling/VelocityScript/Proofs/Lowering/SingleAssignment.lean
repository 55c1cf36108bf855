import VelocityScript.Proofs.Lowering.Allotment

/-!
# Temporaries are set once and read where they are visible

The directives of a statement stand in front of it, in its own block: those of
every condition of a chain of branches in front of the whole chain, and those of
an iterable in front of the loop.  So a temporary is set once, before anything
reads it, in the block in which it is read or in one around it, and this holds
of the template of a function as a whole.
-/

namespace VelocityScript.Lowering

open Script

namespace Encloses

variable {first middle next : Nat} {before after elements : List Template.Element}

theorem append (firstEncloses : Encloses first middle before)
    (secondEncloses : Encloses middle next after) :
    Encloses first next (before ++ after) := by
  refine (Allots.append firstEncloses secondEncloses).replace ?_ ?_ ?_
  · intro number
    rw [Template.visitElements_append]
  · rw [Template.visitElements_append]
    exact List.Subset.refl _
  · intro visible bound
    refine Template.ordinary_strayReadsOf_append
      (firstEncloses.follows visible bound) ?_
    exact fun later _ _ => secondEncloses.follows later (List.nil_subset later)

theorem spaced (encloses : Encloses first next elements)
    (placement : Placement) :
    Encloses first next (blankLines placement ++ elements) := by
  refine append (.alone ?_ fun visible => ?_) encloses
  · rw [visitElements_blankLines]
    exact Template.ordinary_nil
  · unfold blankLines
    induction placement.leadingNewlines - 1 with
    | zero => exact Template.ordinary_nil
    | succ count inductionHypothesis => exact inductionHypothesis

end Encloses

namespace AllotsReads

variable {first next : Nat} {directives : List Template.Element}

/-- The directives are all there is. -/
theorem done (allots : AllotsReads first next directives []) :
    Encloses first next directives := by
  rw [← List.append_nil directives]
  refine Allots.placed allots (fun _ => rfl) (fun _ member => member) ?_
  exact fun _ _ => Template.ordinary_nil

theorem newLine {reads : List String}
    (allots : AllotsReads first next directives reads) :
    AllotsReads first next (directives ++ [.newLine]) reads := by
  have line : AllotsReads next next [.newLine] [] :=
    { counted := Nat.le_refl next
      single := fun number => (share_self next number).symm
      used := fun number low high =>
        absurd (Nat.lt_of_le_of_lt low high) (Nat.lt_irrefl _)
      closed := fun _ => Template.ordinary_nil
      follows := fun _ _ => Template.ordinary_nil }
  have both := allots.append line
  rw [List.append_nil] at both
  exact both

/-- A value after the directives. -/
theorem emitted {value : Template.Value}
    (allots : AllotsReads first next directives (value.visit .reads)) :
    Encloses first next (directives ++ [.emit value]) := by
  refine Allots.placed allots ?_ ?_ ?_
  · intro number
    rw [Template.visitElements_singleton, Template.Element.visit,
      value.visit_eq_nil Template.Visitor.targets_barren]
  · intro number member
    rw [Template.visitElements_singleton]
    exact member
  · intro visible bound
    rw [Template.strayReadsOf_singleton]
    exact allots.follows visible bound

/-- A value after the directives, on a line of its own. -/
theorem emittedLine {value : Template.Value}
    (allots : AllotsReads first next directives (value.visit .reads)) :
    Encloses first next (directives ++ [.emit value, .newLine]) := by
  have line : Encloses next next [.newLine] :=
    .alone Template.ordinary_nil fun _ => Template.ordinary_nil
  have both := allots.emitted.append line
  rw [List.append_assoc] at both
  exact both

/-- A variable that takes a value after the directives. -/
theorem declared {variableName : Template.Variable}
    {value : Template.Expression}
    (allots : AllotsReads first next directives (value.visit .reads))
    (ordinary : Template.isTemporary variableName.name.text = false)
    (origin : Template.Origin) :
    Encloses first next
      (directives ++ [.assign (.named variableName) value origin]) := by
  have unset : Template.Ordinary
      ((Template.Place.named variableName).visit .targets) :=
    Template.ordinary_cons.mpr ⟨ordinary, Template.ordinary_nil⟩
  refine (allots.assign unset (List.Subset.refl _) (List.nil_subset _) ?_
    origin).done
  intro number member
  rw [List.append_nil]
  exact member

/-- The elements of a reference that stands as a statement read no more and no
less than the reference. -/
theorem standalone {reference : Template.Reference}
    (allots : AllotsReads first next directives
      (reference.path.visit .reads)) (target : Target) (source : Expression) :
    Encloses first next
      (directives ++ Lowering.standalone target source reference) := by
  unfold Lowering.standalone
  split
  · cases target with
    | appsync =>
        have utility : "util" ∈ ownNames := by decide
        refine emittedLine ?_
        simp only [Template.Value.visit, Template.Path.visit,
          Template.visitValues, Template.Reference.value, List.append_nil]
        exact (AllotsReads.ordinary first
          (ordinary_of_mem_ownNames utility).2).append allots
    | apigateway =>
        have discarded : "discard" ∈ ownNames := by decide
        exact declared allots (ordinary_of_mem_ownNames discarded).2 _
  · exact emittedLine allots

end AllotsReads

/-- The clauses of a branch and the block after them. -/
abbrev AllotsRest (first next : Nat) (directives : List Template.Element)
    (others : List Template.Clause) (otherwise : Option Template.Block) : Prop :=
  Allots first next directives
    (Template.visitClauses .targets others ++
      Template.visitOtherwise .targets otherwise)
    (Template.visitClauses .reads others ++
      Template.visitOtherwise .reads otherwise)
    fun visible =>
      Template.strayReadsOfClauses visible others ++
        Template.strayReadsOfOtherwise visible otherwise

/-- The directives of a condition stand before those of the clauses after
it. -/
theorem AllotsRest.cons {first second third next : Nat}
    {before after elements : List Template.Element}
    {condition : Template.Expression} {others : List Template.Clause}
    {otherwise : Option Template.Block}
    (conditionAllots : AllotsReads first second before (condition.visit .reads))
    (encloses : Encloses second third elements)
    (restAllots : AllotsRest third next after others otherwise)
    (blockOrigin origin : Template.Origin) :
    AllotsRest first next (before ++ after)
      (.mk condition (.mk elements blockOrigin) origin :: others) otherwise := by
  have all := (Allots.append conditionAllots encloses).append restAllots
  have unset := condition.visit_eq_nil Template.Visitor.targets_barren
  simp only [List.append_nil, List.nil_append, List.append_assoc] at all
  simp only [AllotsRest, Template.visitClauses, Template.Clause.visit,
    Template.Block.visit, Template.strayReadsOfClauses,
    Template.Clause.strayReads, Template.Block.strayReads, unset,
    List.nil_append, List.append_assoc]
  exact all

/-- A branch after the directives of its conditions. -/
theorem AllotsRest.branched {first next : Nat}
    {directives : List Template.Element} {clause : Template.Clause}
    {others : List Template.Clause} {otherwise : Option Template.Block}
    (allots : AllotsRest first next directives (clause :: others) otherwise)
    (origin : Template.Origin) :
    Encloses first next
      (directives ++ [.branch clause others otherwise origin]) := by
  refine Allots.placed allots ?_ ?_ ?_
  · intro number
    rw [Template.visitElements_singleton]
    rfl
  · intro number member
    rw [Template.visitElements_singleton]
    exact member
  · intro visible bound
    rw [Template.strayReadsOf_singleton]
    exact allots.follows visible bound

/-- The variable of a loop, and the elements that its body starts with. -/
abbrev AllotsPattern (first next : Nat) (item : Template.Variable)
    (opening : List Template.Element) : Prop :=
  Allots first next [] (item.name.text :: Template.visitElements .targets opening)
    (Template.visitElements .reads opening) fun visible =>
      Template.strayReadsOf (item.name.text :: visible) opening

/-- A loop after the directives of its iterable. -/
theorem AllotsPattern.looped {first second third next : Nat}
    {item : Template.Variable} {iterable : Template.Value}
    {opening directives elements : List Template.Element}
    (patternAllots : AllotsPattern first second item opening)
    (iterableAllots :
      AllotsReads second third directives (iterable.visit .reads))
    (encloses : Encloses third next elements)
    (blockOrigin origin : Template.Origin) :
    Encloses first next
      (directives ++
        [.loop item iterable (.mk (opening ++ elements) blockOrigin) origin]) := by
  have all := (Allots.append patternAllots iterableAllots).append encloses
  have unset := iterable.visit_eq_nil Template.Visitor.targets_barren
  rw [List.nil_append, List.append_nil] at all
  refine all.placed ?_ ?_ ?_
  · intro number
    simp only [Template.visitElements_singleton, Template.Element.visit, unset,
      Template.Block.visit, Template.visitElements_append, List.append_nil]
    rfl
  · intro number member
    simp only [Template.visitElements_singleton, Template.Element.visit,
      Template.Block.visit, Template.visitElements_append, List.mem_append]
      at member ⊢
    grind
  · intro visible bound
    have before := Template.ordinary_append.mp (all.follows visible bound)
    obtain ⟨opens, iterates⟩ := Template.ordinary_append.mp before.1
    rw [Template.strayReadsOf_singleton]
    refine Template.ordinary_append.mpr ⟨iterates, ?_⟩
    -- The body sees more than stands before the loop, so what it reads is taken
    -- from the body itself and not from the steps together.
    refine Template.ordinary_strayReadsOf_append opens fun later _ _ => ?_
    exact encloses.follows later (List.nil_subset later)

/-- The pattern of an entry makes the temporary that it takes apart. -/
theorem allotsPattern_entry {first : Nat} {keyName valueName : Template.Identifier}
    (keyOrdinary : Template.isTemporary keyName.text = false)
    (valueOrdinary : Template.isTemporary valueName.text = false)
    (origin : Template.Origin) (keySpan valueSpan : Span) :
    AllotsPattern first (first + 1) (temporaryVariable first origin)
      [entryPart (temporaryVariable first origin) keyName "key" keySpan,
        entryPart (temporaryVariable first origin) valueName "value" valueSpan,
        .newLine] where
  counted := Nat.le_succ first
  single number := by
    have parts : Template.Ordinary [keyName.text, valueName.text] :=
      Template.ordinary_cons.mpr ⟨keyOrdinary,
        Template.ordinary_cons.mpr ⟨valueOrdinary, Template.ordinary_nil⟩⟩
    have absent := List.count_eq_zero.mpr (parts.temporaryName_not_mem number)
    rw [← share_succ (Nat.le_refl first), share_self, ← count_temporaryName,
      ← absent, Nat.add_comm, ← List.count_append]
    rfl
  used number low high := by
    obtain rfl : first = number := Nat.le_antisymm low (Nat.lt_succ_iff.mp high)
    exact List.mem_cons_self
  closed _ := Template.ordinary_nil
  follows visible _ := by
    have taken : ∀ (later : List String) (place : Template.Identifier)
        (property : String) (span : Span),
        Template.temporaryName first ∈ later →
          (entryPart (temporaryVariable first origin) place property
            span).strayReads later = [] :=
      fun _ _ _ _ seen => Template.stray_singleton_of_mem seen
    have seen : Template.temporaryName first ∈
        (temporaryVariable first origin).name.text :: visible :=
      List.mem_cons_self
    simp only [Template.strayReadsOf, taken _ _ _ _ seen,
      taken _ _ _ _ (List.mem_append_right _ seen), Template.Element.strayReads,
      List.append_nil]
    exact Template.ordinary_nil

/-- Elements that have all temporaries of a range, and leave no directives to
those around them. -/
structure Contains (first next : Nat)
    (elements hoisted : List Template.Element) : Prop where
  nothing : hoisted = []
  encloses : Encloses first next elements

namespace Contains

variable {first middle next : Nat} {elements hoisted : List Template.Element}

theorem append {before after : List Template.Element} {earlier later : Effect}
    (firstContains : Contains first middle before earlier.hoisted)
    (secondContains : Contains middle next after later.hoisted) :
    Contains first next (before ++ after) (earlier ++ later).hoisted where
  nothing := by
    rw [Effect.append_hoisted, firstContains.nothing, secondContains.nothing]
    rfl
  encloses := Encloses.append firstContains.encloses secondContains.encloses

theorem none (first : Nat) : Contains first first [] [] :=
  ⟨rfl, .alone Template.ordinary_nil fun _ => Template.ordinary_nil⟩

theorem spaced (contains : Contains first next elements hoisted)
    (placement : Placement) :
    Contains first next (blankLines placement ++ elements) hoisted :=
  ⟨contains.nothing, Encloses.spaced contains.encloses placement⟩

end Contains

/-- Where the temporaries of a step are.  Only branches leave directives to
those around them. -/
def Passage.Allots (first next : Nat) : (passage : Passage) → passage.Result →
    List Template.Element → Prop
  | .evaluation _, elements, hoisted | .result _, elements, hoisted
  | .declaration _, elements, hoisted | .declarations _, elements, hoisted
  | .statement _, elements, hoisted | .statements _, elements, hoisted =>
      Contains first next elements hoisted
  | .loopPattern _, (item, opening), hoisted =>
      hoisted = [] ∧ AllotsPattern first next item opening
  | .branch _ _ _, parts, hoisted =>
      AllotsRest first next hoisted (parts.first :: parts.others) parts.otherwise
  | .alternative _, rest, hoisted =>
      AllotsRest first next hoisted rest.others rest.otherwise

/-- A derivation of statements has the temporaries that it makes. -/
theorem Yields.allots {target : Target} {passage : Passage} {first next : Nat}
    {result : passage.Result} {effect : Effect}
    (yielded : Yields target passage first result next effect)
    (unreserved : Unreserved passage.names) :
    passage.Allots first next result effect.hoisted := by
  induction yielded with
  | assignment derived =>
      cases derived with
      | assignment combined left right placed =>
          simp only [Passage.names, Expression.names, unreserved_append]
            at unreserved
          obtain ⟨unset, both⟩ := left.allots_sides unreserved.1 placed
            (left.allots unreserved.1) (right.allots unreserved.2)
          refine ⟨rfl, (both.assign unset (reads_assignment _ _ _ _)
            (List.nil_subset _) ?_ _).done⟩
          -- The result is dropped, so the directive has to read what it read.
          -- Only a variable as a whole is not read, and it is no temporary.
          intro number member
          rw [List.append_nil]
          rcases List.mem_append.mp member with inPlace | inRight
          · rw [reads_place_reference] at inPlace
            rcases List.mem_append.mp inPlace with read | set
            · exact List.mem_append_left _ read
            · exact absurd set (unset.temporaryName_not_mem number)
          · exact List.mem_append_right _
              (reads_right_subset_assignedValue _ _ _ _ inRight)
  | standalone alone derived referred =>
      have allots := derived.allots unreserved
      simp only [Task.visit,
        ← Template.visit_of_reference? reads_valueless referred] at allots
      exact ⟨rfl, allots.standalone target _⟩
  | noResult => exact Contains.none _
  | result derived =>
      have allots := derived.allots unreserved
      refine ⟨rfl, ?_⟩
      split
      · next none =>
          rw [List.isEmpty_iff.mp none] at allots
          exact allots.emitted
      · exact allots.newLine.emitted
  | uninitialised absent => exact Contains.none _
  | @initialised _ name _ _ _ _ _ _ _ _ named valued place derived =>
      simp only [Passage.names, Declaration.allNames, named, valued,
        namesOfOption, unreserved_append] at unreserved
      have ordinary : Template.isTemporary (bareName name.name) = false :=
        unreserved.1 name.name List.mem_cons_self
      obtain ⟨-, rfl, rfl, rfl⟩ := place.name_inversion
      have allots := (derived.allots unreserved.2).interpolated
      refine ⟨rfl, allots.declared ?_ _⟩
      exact ordinary
  | noDeclarations => exact Contains.none _
  | moreDeclarations declaration others declarationAllots othersAllot =>
      simp only [Passage.names, namesOfDeclarations, List.flatMap_cons,
        unreserved_append] at unreserved
      exact Contains.append (declarationAllots unreserved.1)
        (othersAllot unreserved.2)
  | @item name _ _ _ _ derived =>
      have ordinary : Template.isTemporary (bareName name.name) = false :=
        unreserved name.name List.mem_cons_self
      obtain ⟨-, rfl, rfl, rfl⟩ := derived.name_inversion
      refine ⟨rfl, .alone ?_ fun _ => Template.ordinary_nil⟩
      exact Template.ordinary_cons.mpr ⟨ordinary, Template.ordinary_nil⟩
  | @entry elements span key value first middle next keyName valueName _ _ named
      keyDerived valueDerived =>
      simp only [Passage.names, names_of_entryNames? named, unreserved_cons]
        at unreserved
      obtain ⟨-, rfl, rfl, rfl⟩ := keyDerived.name_inversion
      obtain ⟨-, rfl, rfl, rfl⟩ := valueDerived.name_inversion
      refine ⟨rfl, allotsPattern_entry ?_ ?_ (some span) key.span value.span⟩
      · exact unreserved.1
      · exact unreserved.2.1
  | branch condition consequent alternative consequentAllots restAllots =>
      simp only [Passage.names, unreserved_append] at unreserved
      have allots := (condition.allots unreserved.1.1).interpolated
      obtain ⟨none, encloses⟩ := consequentAllots unreserved.1.2
      rw [Effect.append_hoisted, Effect.append_hoisted, none, List.append_nil]
      exact AllotsRest.cons allots encloses (restAllots unreserved.2) _ _
  | noAlternative =>
      exact .alone Template.ordinary_nil fun _ => Template.ordinary_nil
  | chained parts partsAllot => exact partsAllot unreserved
  | otherwise notBranch statement statementAllots =>
      obtain ⟨none, encloses⟩ := statementAllots unreserved
      rw [none]
      exact encloses
  | block statements statementsAllot => exact (statementsAllot unreserved).spaced _
  | evaluation evaluated evaluatedAllots =>
      exact (evaluatedAllots unreserved).spaced _
  | branching parts partsAllot =>
      rw [List.append_assoc]
      refine Contains.spaced ⟨rfl, ?_⟩ _
      exact AllotsRest.branched (partsAllot unreserved) _
  | looping pattern iterable body patternAllots bodyAllots =>
      simp only [Passage.names, Statement.names, LoopHeader.names,
        Declaration.allNames, unreserved_append] at unreserved
      obtain ⟨none, patternAllots⟩ := patternAllots unreserved.1.1.1
      obtain ⟨nothing, encloses⟩ := bodyAllots unreserved.2
      have allots := iterable.allots unreserved.1.2
      rw [List.append_assoc]
      refine Contains.spaced ⟨?_, ?_⟩ _
      · simp [none, nothing]
      · exact AllotsPattern.looped patternAllots allots encloses _ _
  | returning returned returnedAllots => exact (returnedAllots unreserved).spaced _
  | declaring declared declaredAllot => exact (declaredAllot unreserved).spaced _
  | noStatements => exact Contains.none _
  | moreStatements statement others statementAllots othersAllot =>
      simp only [Passage.names, namesOfStatements, unreserved_append]
        at unreserved
      exact Contains.append (statementAllots unreserved.1)
        (othersAllot unreserved.2)

/-! ## Templates -/

theorem encloses_assign_own {name : String} {value : Template.Expression}
    (own : name ∈ ownNames) (allots : AllotsReads 0 0 [] (value.visit .reads)) :
    Encloses 0 0 [.assign (.named ⟨⟨name, none⟩, none⟩) value none] := by
  refine allots.declared ?_ none
  exact (ordinary_of_mem_ownNames own).2

/-- The prelude has no temporaries. -/
theorem encloses_prelude (state : State) : Encloses 0 0 (prelude state) := by
  have nothing : Encloses 0 0 [] :=
    .alone Template.ordinary_nil fun _ => Template.ordinary_nil
  have line : Encloses 0 0 [.newLine] :=
    .alone Template.ordinary_nil fun _ => Template.ordinary_nil
  have escape : "esc" ∈ ownNames := by decide
  have stringClass : Catalogue.stringClass ∈ ownNames := by decide
  have escapes : Encloses 0 0 escapePrelude := by
    refine Encloses.append (encloses_assign_own escape ?_) line
    exact .nothing 0
  have classes : Encloses 0 0 stringClassPrelude := by
    refine Encloses.append (encloses_assign_own stringClass ?_)
      (Encloses.append (encloses_assign_own stringClass ?_) line)
    · exact .nothing 0
    · exact .ordinary 0 (ordinary_of_mem_ownNames stringClass).2
  have first : Encloses 0 0
      (if state.needsEscape then escapePrelude else []) := by
    split
    · exact escapes
    · exact nothing
  have second : Encloses 0 0
      (if state.needsStringClass then stringClassPrelude else []) := by
    split
    · exact classes
    · exact nothing
  exact Encloses.append first second

/-- The template of a function has the temporaries that its lowering makes. -/
theorem FunctionYields.encloses {target : Target}
    {function : FunctionDeclaration} {file : Template.File}
    (yielded : FunctionYields target function file)
    (unreserved : Unreserved function.names) :
    Encloses 0 (temporaryCount target function) file.block.elements := by
  cases yielded with
  | body complaint bodied statements =>
      rw [temporaryCount_eq complaint bodied statements]
      simp only [FunctionDeclaration.names, bodied] at unreserved
      have contained : Contains _ _ _ _ := statements.allots unreserved
      exact Encloses.append (encloses_prelude _) contained.encloses

/-- A temporary of a template is one that was made. -/
theorem FunctionYields.temporary {target : Target}
    {function : FunctionDeclaration} {file : Template.File}
    (yielded : FunctionYields target function file)
    (unreserved : Unreserved function.names) {name : String}
    (member : name ∈ file.visit .names)
    (told : Template.isTemporary name = true) :
    ∃ number, number < temporaryCount target function ∧
      name = Template.temporaryName number := by
  cases yielded.comesFrom member with
  | script listed valid =>
      rw [unreserved _ listed] at told
      cases told
  | @temporary number low high => exact ⟨number, high, rfl⟩
  | own listed =>
      rw [(ordinary_of_mem_ownNames listed).2] at told
      cases told

/-- A function without names of temporaries, lowered without reports, has a
template in which every temporary that was made is set exactly once, by a
directive or by a loop, and is read.  No other temporary stands in it, and
temporaries are read only where they are visible: after the directive that sets
them, in the same block or in blocks inside it, or in the body of the loop that
sets them. -/
theorem temporaries_set_once_and_read_where_visible {target : Target}
    {function : FunctionDeclaration} (unreserved : Unreserved function.names)
    (silent : (lowerFunction target function).2 = []) :
    ∃ file, (lowerFunction target function).1 = some file ∧
      (∀ number, number < temporaryCount target function →
        (file.visit .targets).count (Template.temporaryName number) = 1 ∧
          Template.temporaryName number ∈ file.visit .reads) ∧
      (∀ name ∈ file.visit .names, Template.isTemporary name = true →
        ∃ number, number < temporaryCount target function ∧
          name = Template.temporaryName number) ∧
      Template.Ordinary (file.block.strayReads []) := by
  obtain ⟨⟨name, ⟨elements, _⟩, _⟩, lowered, yielded⟩ :=
    functionYields_of_reports_eq_nil silent
  have encloses := yielded.encloses unreserved
  refine ⟨_, lowered, fun number made => ⟨?_, ?_⟩, ?_, ?_⟩
  · have counted := encloses.single number
    rw [share, if_pos ⟨Nat.zero_le number, made⟩] at counted
    exact counted
  · exact encloses.used number (Nat.zero_le number) made
  · exact fun name member told => yielded.temporary unreserved member told
  · exact encloses.follows [] (List.nil_subset [])

/-- A loop over the entries of a sum has two temporaries: the loop sets one, and
a directive before it the other. -/
theorem temporaries_set_once_and_read_where_visible_entries :
    let span : Span := ⟨0, 0⟩
    let named := fun name => Identifier.mk name span .variableName
    let pattern := BindingName.array
      [.bound (.identifier (named "k")), .bound (.identifier (named "$v"))] span
    let sum := Expression.binary .add (.identifier (named "a"))
      (.identifier (named "b")) span
    let function : FunctionDeclaration :=
      { name := none
        modifiers := [.exported]
        parameters := []
        body := some
          { statements :=
              [.loop (.declaration ⟨pattern, none, span⟩) sum
                (.result (some (.identifier (named "$v"))) ⟨span, 0⟩) ⟨span, 0⟩]
            span }
        isGenerator := false
        span }
    (Unreserved function.names ∧ (lowerFunction .appsync function).2 = [] ∧
      temporaryCount .appsync function = 2) ∧
      ∃ file, (lowerFunction .appsync function).1 = some file ∧
        (∀ number, number < temporaryCount .appsync function →
          (file.visit .targets).count (Template.temporaryName number) = 1 ∧
            Template.temporaryName number ∈ file.visit .reads) ∧
        (∀ name ∈ file.visit .names, Template.isTemporary name = true →
          ∃ number, number < temporaryCount .appsync function ∧
            name = Template.temporaryName number) ∧
        Template.Ordinary (file.block.strayReads []) := by
  intro span named pattern sum function
  have unreserved : Unreserved function.names := by
    decide
  have silent : (lowerFunction .appsync function).2 = [] := by
    decide +kernel
  have counted : temporaryCount .appsync function = 2 := by
    decide +kernel
  exact ⟨⟨unreserved, silent, counted⟩,
    temporaries_set_once_and_read_where_visible unreserved silent⟩

end VelocityScript.Lowering
