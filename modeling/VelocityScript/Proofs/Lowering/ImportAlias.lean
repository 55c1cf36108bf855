import VelocityScript.Proofs.Lowering.Capture
import VelocityScript.Proofs.Lowering.Relocation
import VelocityScript.Proofs.Lowering.Renaming

/-!
# Templates of scripts with an alias

A script without reports has none where a helper is imported under an alias.  Its
templates differ only where the alias is read as a value.
-/

namespace VelocityScript.Lowering

open Script

variable {old new : String} {change : String → String} {scope other : Scope}
variable {mentioned : List Identifier}

/-- A function without reports has none with the alias, and the two templates
are counterparts. -/
theorem lowerFunction_rename (target : Target)
    (valid : Template.isValidIdentifier new = true)
    (renames : Renames old new change scope other) {function : FunctionDeclaration}
    (fresh : new ∉ parameterNames function.parameters ++ function.names)
    (among : ((function.rename change).resolve other).reach.mentioned ⊆ mentioned)
    (clean : (lowerFunction target (function.resolve scope)).2 = []) :
    (lowerFunction target ((function.rename change).resolve other)).2 = [] ∧
      Option.Rel (FileCounterpart (aliasSites old new mentioned))
        (lowerFunction target (function.resolve scope)).1
        (lowerFunction target ((function.rename change).resolve other)).1 := by
  obtain ⟨file, -, yielded⟩ := functionYields_of_reports_eq_nil clean
  have same := match_renameFunction renames fresh
    ⟨yielded.leavesBehind.valid, among⟩
  obtain ⟨files, states⟩ := parallel_function (aliasing_agrees target valid) same
    {} {} ⟨rfl, rfl, rfl, rfl, .nil⟩
  exact ⟨states.reports.symm.trans clean, files⟩

theorem implements_rename (change : String → String) (scope other : Scope)
    (name : Option String) (item : Item) :
    implements name ((item.rename change).resolve other) =
      implements name (item.resolve scope) := by
  cases item with
  | function declared =>
      obtain ⟨_, _, _, body, _, _⟩ := declared
      cases body <;> rfl
  | _ => rfl

/-- Whether an implementation follows does not depend on names. -/
theorem any_implements_rename (change : String → String) (scope other : Scope)
    (name : Option String) (items : List Item) :
    (items.map fun item => (item.rename change).resolve other).any
        (implements name) =
      (items.map (Item.resolve scope)).any (implements name) := by
  rw [List.any_map, List.any_map]
  exact congrArg items.any (funext (implements_rename change scope other name))

theorem forall₂_toList_append {Result : Type} {related : Result → Result → Prop}
    {here there : Option Result} {hereOthers thereOthers : List Result}
    (first : Option.Rel related here there)
    (others : List.Forall₂ related hereOthers thereOthers) :
    List.Forall₂ related (here.toList ++ hereOthers)
      (there.toList ++ thereOthers) := by
  cases first with
  | none => exact others
  | some results => exact .cons results others

/-- There are no reports, and the templates are counterparts. -/
structure CleanCounterpart (sites : Sites) (here there : Outcome) : Prop where
  reports : there.reports = []
  files : List.Forall₂ (FileCounterpart sites) here.files there.files

theorem CleanCounterpart.function {target : Target} {sites : Sites}
    {here there : FunctionDeclaration} {hereOthers thereOthers : List Item}
    (names : here.name = there.name) (bodies : here.body.isNone = there.body.isNone)
    (implemented : ∀ name,
      hereOthers.any (implements name) = thereOthers.any (implements name))
    (lowered : (lowerFunction target here).2 = [] →
      (lowerFunction target there).2 = [] ∧
        Option.Rel (FileCounterpart sites) (lowerFunction target here).1
          (lowerFunction target there).1)
    (rest : (lowerItems target hereOthers).reports = [] →
      CleanCounterpart sites (lowerItems target hereOthers)
        (lowerItems target thereOthers))
    (clean : (lowerItems target (.function here :: hereOthers)).reports = []) :
    CleanCounterpart sites (lowerItems target (.function here :: hereOthers))
      (lowerItems target (.function there :: thereOthers)) := by
  simp only [lowerItems, names, bodies, implemented] at clean ⊢
  split at clean
  · next omitted =>
      rw [if_pos omitted, if_pos omitted]
      exact rest clean
  · next kept =>
      rw [if_neg kept, if_neg kept]
      obtain ⟨silent, othersSilent⟩ := List.append_eq_nil_iff.mp clean
      obtain ⟨reports, files⟩ := lowered silent
      obtain ⟨otherReports, otherFiles⟩ := rest othersSilent
      exact ⟨List.append_eq_nil_iff.mpr ⟨reports, otherReports⟩,
        forall₂_toList_append files otherFiles⟩

theorem lowerItems_rename (target : Target)
    (valid : Template.isValidIdentifier new = true)
    (renames : Renames old new change scope other) :
    ∀ items : List Item, new ∉ items.flatMap Item.names →
      (∀ function,
        Item.function function ∈
            items.map (fun item => (item.rename change).resolve other) →
          function.reach.mentioned ⊆ mentioned) →
      (lowerItems target (items.map (Item.resolve scope))).reports = [] →
        CleanCounterpart (aliasSites old new mentioned)
          (lowerItems target (items.map (Item.resolve scope)))
          (lowerItems target
            (items.map fun item => (item.rename change).resolve other))
  | [], _, _, _ => ⟨rfl, .nil⟩
  | item :: others, fresh, among, clean => by
      obtain ⟨itemFresh, othersFresh⟩ := fresh_append fresh
      have rest := lowerItems_rename target valid renames others othersFresh
        fun function member => among function (List.mem_cons_of_mem _ member)
      cases item with
      | imports declared => exact rest clean
      | typeDeclaration span => exact rest clean
      | statement content => cases clean
      | function declared =>
          have bodies : (declared.resolve scope).body.isNone =
              ((declared.rename change).resolve other).body.isNone := by
            simp only [FunctionDeclaration.rename, FunctionDeclaration.resolve,
              Option.isNone_map]
          exact .function rfl bodies
            (fun name => (any_implements_rename change scope other name others).symm)
            (lowerFunction_rename target valid renames itemFresh
              (among _ List.mem_cons_self))
            rest clean

/-- Imports leave nothing in the templates. -/
theorem lowerItems_imports (target : Target) (declared : ImportDeclaration)
    (after : List Item) :
    ∀ before : List Item,
      lowerItems target (before ++ .imports declared :: after) =
        lowerItems target (before ++ after)
  | [] => rfl
  | .imports _ :: others => lowerItems_imports target declared after others
  | .typeDeclaration _ :: others => lowerItems_imports target declared after others
  | .statement content :: others => by
      have rest := lowerItems_imports target declared after others
      simp only [List.cons_append, lowerItems, rest]
  | .function function :: others => by
      have rest := lowerItems_imports target declared after others
      simp only [List.cons_append, lowerItems, rest, List.any_append,
        List.any_cons, implements, Bool.false_or]

theorem lowerItems_items (target : Target) (place : NamedImport) (bound : String)
    {revise : Item → Item} (same : ∀ declared, revise (.imports declared) =
      .imports declared) :
    lowerItems target ((place.items bound).map revise) =
      lowerItems target ((place.before ++ place.after).map revise) := by
  rw [NamedImport.items, List.map_append, List.map_cons, same,
    lowerItems_imports, List.map_append]

/-- A script without reports has none with an alias, and its templates have
counterparts. -/
theorem lowerModule_aliased (target : Target) (place : NamedImport)
    {nickname : String} (valid : Template.isValidIdentifier nickname = true)
    (fresh : nickname ∉ place.script.names)
    (clean : (lowerModule target place.script.resolve).reports = []) :
    CleanCounterpart
      (aliasSites place.exported nickname
        (place.aliased nickname).resolve.mentioned)
      (lowerModule target place.script.resolve)
      (lowerModule target (place.aliased nickname).resolve) := by
  have resolved : (place.aliased nickname).resolve.items =
      (place.items nickname).map fun item =>
        (item.rename (place.change nickname)).resolve (place.aliased nickname).scope :=
    List.map_map
  have others : place.before ++ place.after ⊆ place.items nickname :=
    List.append_subset.mpr
      ⟨List.subset_append_left _ _,
        List.subset_append_of_subset_right _ (List.subset_cons_self _ _)⟩
  have original : lowerModule target place.script.resolve =
      lowerItems target
        ((place.before ++ place.after).map (Item.resolve place.script.scope)) :=
    lowerItems_items target place place.exported fun _ => rfl
  have aliased : lowerModule target (place.aliased nickname).resolve =
      lowerItems target
        ((place.before ++ place.after).map fun item =>
          (item.rename (place.change nickname)).resolve
            (place.aliased nickname).scope) := by
    rw [lowerModule, resolved]
    exact lowerItems_items target place nickname fun _ => rfl
  rw [original] at clean ⊢
  rw [aliased]
  refine lowerItems_rename target valid (place.renames fresh) _
    (fun member => fresh (place.otherNames_subset member)) ?_ clean
  intro function member named mentioned
  have inScript : Item.function function ∈ (place.aliased nickname).resolve.items := by
    rw [resolved]
    exact List.map_subset _ others member
  exact List.mem_flatMap.mpr ⟨.function function, inScript, mentioned⟩

/-- Every name that a script without reports mentions is in a variable of one of
its templates. -/
theorem exists_file_with_variable {target : Target} {script : Module}
    (silent : (lowerModule target script).reports = []) {named : Identifier}
    (mentions : named ∈ script.mentioned) :
    ∃ file ∈ (lowerModule target script).files,
      (location target named.toVariable).root ∈ file.visit .variables := by
  obtain ⟨item, member, reached⟩ := List.mem_flatMap.mp mentions
  cases item with
  | function function =>
      have bodied : function.body.isNone = false := by
        cases bodied : function.body with
        | some body => rfl
        | none =>
            simp only [FunctionDeclaration.reach, bodied] at reached
            cases reached
      obtain ⟨file, produced, yielded⟩ :=
        exists_file_of_mem_items bodied script.items silent member
      exact ⟨file, produced, yielded.leavesBehind.mentioned reached⟩
  | _ => cases reached

/-- An alias that is read is a variable of a template. -/
theorem exists_file_with_alias {target : Target} {script : Module}
    (silent : (lowerModule target script).reports = [])
    {exported nickname : String} (read : IsRead exported nickname script.mentioned) :
    ∃ file ∈ (lowerModule target script).files,
      bareName nickname ∈ file.visit .variables := by
  obtain ⟨span, moduleName, kind, mentions⟩ := read
  obtain ⟨file, produced, found⟩ := exists_file_with_variable silent mentions
  have located : location target ⟨nickname, .helper moduleName exported kind⟩ =
      .plain (bareName nickname) := if_neg fun both => nomatch both.2
  refine ⟨file, produced, ?_⟩
  rw [Identifier.toVariable, located] at found
  exact found

theorem mem_variables_of_same_up_to_origins {here there : List Template.File}
    (same : here.map Template.File.withoutOrigins =
      there.map Template.File.withoutOrigins) {name : String}
    (found : ∃ file ∈ here, name ∈ file.visit .variables) :
    ∃ file ∈ there, name ∈ file.visit .variables := by
  obtain ⟨file, produced, variableFound⟩ := found
  have moved := @List.mem_map_of_mem _ _ _ _ Template.File.withoutOrigins produced
  rw [same] at moved
  obtain ⟨other, otherProduced, otherMoved⟩ := List.mem_map.mp moved
  refine ⟨other, otherProduced, ?_⟩
  rw [← other.visit_withoutOrigins Template.variables_valueless, otherMoved,
    file.visit_withoutOrigins Template.variables_valueless]
  exact variableFound

/-- A script without reports has none where a helper is imported under an alias.
Up to origins, its templates differ only in the names of the variables that the
alias is read as.  So they are the same where the alias is not read, or is the
name of the export but for a leading `$`; and where none of them has a variable
called like the alias, they are the same only if it is not read. -/
theorem alias_shows_only_where_read (target : Target) (place : NamedImport)
    {nickname : String} {renamed : Module}
    (valid : Template.isValidIdentifier nickname = true)
    (fresh : nickname ∉ place.script.names)
    (isRenamed : renamed.withoutSpans = (place.aliased nickname).withoutSpans)
    (clean : (lowerModule target place.script.resolve).reports = []) :
    let original := lowerModule target place.script.resolve
    let aliased := lowerModule target (place.aliased nickname).resolve
    let mentioned := (place.aliased nickname).resolve.mentioned
    let outcome := lowerModule target renamed.resolve
    outcome.reports = [] ∧
      outcome.files.map Template.File.withoutOrigins =
        aliased.files.map Template.File.withoutOrigins ∧
      List.Forall₂ (FileCounterpart (aliasSites place.exported nickname mentioned))
        original.files aliased.files ∧
      (bareName nickname = bareName place.exported ∨
          ¬IsRead place.exported nickname mentioned →
        outcome.files.map Template.File.withoutOrigins =
          original.files.map Template.File.withoutOrigins) ∧
      ((∀ file ∈ original.files, bareName nickname ∉ file.visit .variables) →
        outcome.files.map Template.File.withoutOrigins =
          original.files.map Template.File.withoutOrigins →
        ¬IsRead place.exported nickname mentioned) := by
  intro original aliased mentioned outcome
  obtain ⟨silent, files⟩ := lowerModule_aliased target place valid fresh clean
  obtain ⟨upToPlaces, reports⟩ := lowerModule_eq_up_to_places target isRenamed
  refine ⟨reports.mpr silent, upToPlaces, files, fun hidden => ?_,
    fun unused same read => ?_⟩
  · have equal : original.files = aliased.files := by
      rw [← List.forall₂_eq_eq_eq]
      exact files.imp fun _ _ related => related.eq (aliasSites_uniform hidden)
    rw [equal]
    exact upToPlaces
  · obtain ⟨file, produced, found⟩ :=
      mem_variables_of_same_up_to_origins (upToPlaces.symm.trans same)
        (exists_file_with_alias silent read)
    exact unused file produced found

/-- A helper is called by an alias, in a text that is longer by the alias. -/
theorem alias_shows_only_where_read_call :
    let span : Span := ⟨0, 0⟩
    let placement : Placement := ⟨span, 0⟩
    let list : Identifier := ⟨"list", span, .unresolved⟩
    let call := Expression.call (.identifier ⟨"add", span, .unresolved⟩)
      [.identifier list, .number "1" span] .unknown span
    let place : NamedImport :=
      { before := []
        moduleName := Catalogue.collections
        earlier := [.named "clear" "clear"]
        exported := "add"
        later := []
        span
        after :=
          [.function
            { name := none
              modifiers := [.exported]
              parameters := [⟨.identifier list, false, span⟩]
              body := some ⟨[.expression call placement], span⟩
              isGenerator := false
              span }]
        isHelper := by decide +kernel }
    let renamed := (place.aliased "plus").relocate fun span =>
      ⟨span.start, span.stop + 8⟩
    (Template.isValidIdentifier "plus" = true ∧ "plus" ∉ place.script.names ∧
        renamed.withoutSpans = (place.aliased "plus").withoutSpans ∧
        (lowerModule .apigateway place.script.resolve).reports = []) ∧
      (lowerModule .apigateway renamed.resolve).reports = [] ∧
      (lowerModule .apigateway renamed.resolve).files.map
          Template.File.withoutOrigins =
        (lowerModule .apigateway place.script.resolve).files.map
          Template.File.withoutOrigins ∧
      (lowerModule .apigateway renamed.resolve).files.map (·.render {}) =
        ["## Function: default\n#set($discard = $\x7blist.add(1)\x7d)\n"] := by
  intro span placement list call place renamed
  have valid : Template.isValidIdentifier "plus" = true := by decide
  have fresh : "plus" ∉ place.script.names := by decide +kernel
  have clean : (lowerModule .apigateway place.script.resolve).reports = [] := by
    decide +kernel
  have isRenamed : renamed.withoutSpans = (place.aliased "plus").withoutSpans := rfl
  obtain ⟨silent, -, -, same, -⟩ :=
    alias_shows_only_where_read .apigateway place valid fresh isRenamed clean
  have unread : ¬IsRead "add" "plus" (place.aliased "plus").resolve.mentioned := by
    have others : ∀ named ∈ (place.aliased "plus").resolve.mentioned,
        named.name ≠ "plus" := by
      decide +kernel
    rintro ⟨_, _, _, member⟩
    exact others _ member rfl
  exact ⟨⟨valid, fresh, isRenamed, clean⟩, silent, same (.inr unread),
    by decide +kernel⟩

/-- The string class is read by its alias, and the template sets it under the
name of the export. -/
theorem alias_of_string_class_shows :
    let span : Span := ⟨0, 0⟩
    let placement : Placement := ⟨span, 0⟩
    let parts : Identifier := ⟨"parts", span, .unresolved⟩
    let method := Expression.member (.identifier ⟨"String", span, .unresolved⟩)
      ⟨"join", span, .unresolved⟩ false span
    let call := Expression.call method
      [.string "," span, .identifier parts] .unknown span
    let place : NamedImport :=
      { before := []
        moduleName := Catalogue.collections
        earlier := []
        exported := "String"
        later := []
        span
        after :=
          [.function
            { name := none
              modifiers := [.exported]
              parameters := [⟨.identifier parts, false, span⟩]
              body := some ⟨[.result (some call) placement], span⟩
              isGenerator := false
              span }]
        isHelper := by decide +kernel }
    let prelude :=
      "## Function: default\n#set($String = \"\")\n" ++
        "#set($String = $\x7bString.class\x7d)\n\n"
    (Template.isValidIdentifier "S" = true ∧ "S" ∉ place.script.names ∧
        (lowerModule .apigateway place.script.resolve).reports = []) ∧
      (lowerModule .apigateway place.script.resolve).files.map (·.render {}) =
        [prelude ++ "$\x7bString.join(\",\", $parts)\x7d"] ∧
      (lowerModule .apigateway (place.aliased "S").resolve).files.map
          (·.render {}) =
        [prelude ++ "$\x7bS.join(\",\", $parts)\x7d"] := by
  decide +kernel

end VelocityScript.Lowering
