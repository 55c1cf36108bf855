import VelocityScript.Proofs.Template.Contents
import VelocityScript.Template.Check
import VelocityScript.Transpile

/-!
# Reads that the check reports

Every name of a template plays a part where it stands: a directive sets it, a
reference or an access reads it as a variable, or it is a property, a method or an
identifier by itself.  The check reports each name of a temporary that no directive
visited before it sets, whatever part it plays, as long as it is not set itself.
So it reports the bad reads and nothing else exactly if all these names are read.
-/

namespace VelocityScript.Template

/-- The part that a name plays: a directive sets it, it is read as a variable, it
is an expression by itself, or it stands behind a dot. -/
inductive Role where
  | assigned
  | read
  | bare
  | member
  deriving DecidableEq

/-- A name with its part and the kinds of the directives around it, the outermost
first. -/
structure Occurrence where
  name : String
  role : Role
  trail : List Kind
  deriving DecidableEq

namespace Occurrence

def within (directive : Kind) (occurrence : Occurrence) : Occurrence :=
  { occurrence with trail := directive :: occurrence.trail }

/-- The report of a temporary that is read before it is set. -/
def finding (occurrence : Occurrence) : Finding :=
  ⟨.unassignedTemporary occurrence.name, occurrence.trail⟩

end Occurrence

/-- Collects all names with their parts. -/
def Visitor.occurrences : Visitor Occurrence where
  read name := [⟨name, .read, []⟩]
  member name := [⟨name, .member, []⟩]
  assigned name := [⟨name, .assigned, []⟩]

/-- The names of an expression.  A path reads its first name, unless it is nothing
but this name. -/
def Expression.occurrences : Expression → List Occurrence
  | .ofPath (.name identifier) => [⟨identifier.text, .bare, []⟩]
  | .ofPath path => path.visit .occurrences
  | .ofValue value => value.visit .occurrences
  | .binary left _ right _ => left.occurrences ++ right.occurrences
  | .unary _ operand _ => operand.occurrences
  | .parenthesized inner _ => inner.occurrences

mutual

/-- The names of an element in the order in which it is carried out: a value comes
before the place that it is given to, and an iterable before the variable. -/
def Element.occurrences : Element → List Occurrence
  | .assign place value _ =>
      (value.occurrences ++ place.visit .occurrences).map
        (.within .setDirective)
  | .branch first others otherwise _ =>
      (first.occurrences ++ occurrencesOfClauses others ++
        occurrencesOfOtherwise otherwise).map (.within .ifDirective)
  | .loop item iterable body _ =>
      (iterable.visit .occurrences ++
        ⟨item.name.text, .assigned, []⟩ :: body.occurrences).map
          (.within .foreachDirective)
  | .emit value => value.visit .occurrences
  | .text _ _ | .newLine => []

def Block.occurrences : Block → List Occurrence
  | .mk elements _ => occurrencesOf elements

def Clause.occurrences : Clause → List Occurrence
  | .mk condition body _ => condition.occurrences ++ body.occurrences

/-- The names of several elements. -/
def occurrencesOf : List Element → List Occurrence
  | [] => []
  | element :: others => element.occurrences ++ occurrencesOf others

def occurrencesOfClauses : List Clause → List Occurrence
  | [] => []
  | clause :: others => clause.occurrences ++ occurrencesOfClauses others

/-- The names of the block that is taken when no condition holds. -/
def occurrencesOfOtherwise : Option Block → List Occurrence
  | none => []
  | some block => block.occurrences

end

/-- One of some names is the given one and set there. -/
def IsSetBy (earlier : List Occurrence) (name : String) : Prop :=
  ∃ occurrence ∈ earlier,
    occurrence.role = .assigned ∧ occurrence.name = name

instance (earlier : List Occurrence) (name : String) :
    Decidable (IsSetBy earlier name) :=
  inferInstanceAs (Decidable (∃ occurrence ∈ earlier, _))

/-- Of some names behind others, the temporaries that are used where nothing before
them sets them. -/
def unsetUses (earlier : List Occurrence) :
    List Occurrence → List Occurrence
  | [] => []
  | occurrence :: others =>
      let later := unsetUses (earlier ++ [occurrence]) others
      if occurrence.role ≠ .assigned ∧ isTemporary occurrence.name = true ∧
          ¬ IsSetBy earlier occurrence.name then
        occurrence :: later
      else
        later

/-- The temporaries of a template that are used where no directive before them
sets them. -/
def File.unsetUses (file : File) : List Occurrence :=
  Template.unsetUses [] file.block.occurrences

/-- The temporaries of a template that are read as variables where no directive
before them sets them. -/
def File.unsetReads (file : File) : List Occurrence :=
  file.unsetUses.filter (·.role = .read)

def Finding.isUnassigned (finding : Finding) : Bool :=
  match finding.fault with
  | .unassignedTemporary _ => true
  | .invalidIdentifier _ => false

/-- The reports on temporaries, in the order of the check. -/
def File.unassigned (file : File) : List Finding :=
  file.check.filter Finding.isUnassigned

/-! ## Reports on names -/

namespace CheckContext

/-- What the check reports at a name that is not set there. -/
def report (context : CheckContext) (occurrence : Occurrence) : List Finding :=
  if occurrence.role ≠ .assigned ∧ isTemporary occurrence.name = true ∧
      occurrence.name ∉ context.assigned then
    [⟨.unassignedTemporary occurrence.name, context.trail ++ occurrence.trail⟩]
  else
    []

/-- What is set after a name. -/
def note (context : CheckContext) (occurrence : Occurrence) : CheckContext :=
  if occurrence.role = .assigned then
    { context with assigned := occurrence.name :: context.assigned }
  else
    context

def reports (context : CheckContext) : List Occurrence → List Finding
  | [] => []
  | occurrence :: others =>
      context.report occurrence ++ (context.note occurrence).reports others

variable {context : CheckContext}

/-- What is set says all about the context behind some names. -/
theorem foldl_note_eq (occurrences : List Occurrence) :
    occurrences.foldl note context =
      { context with assigned := (occurrences.foldl note context).assigned } := by
  have trail : (occurrences.foldl note context).trail = context.trail := by
    induction occurrences generalizing context with
    | nil => rfl
    | cons occurrence others inductionHypothesis =>
        rw [List.foldl_cons, inductionHypothesis, note]
        split <;> rfl
  rw [← trail]

theorem reports_append (first second : List Occurrence) :
    context.reports (first ++ second) =
      context.reports first ++ (first.foldl note context).reports second := by
  induction first generalizing context with
  | nil => rfl
  | cons occurrence others inductionHypothesis =>
      rw [List.cons_append, reports, inductionHypothesis, reports,
        List.append_assoc]
      rfl

theorem note_enter (directive : Kind) (occurrence : Occurrence) :
    (context.enter directive).note occurrence =
      (context.note (occurrence.within directive)).enter directive := by
  unfold note
  split <;> split
  · rfl
  · contradiction
  · contradiction
  · rfl

/-- Inside a directive a name is reported with one more kind on its trail. -/
theorem reports_enter (directive : Kind) (occurrences : List Occurrence) :
    (context.enter directive).reports occurrences =
      context.reports (occurrences.map (.within directive)) := by
  induction occurrences generalizing context with
  | nil => rfl
  | cons occurrence others inductionHypothesis =>
      have here : (context.enter directive).report occurrence =
          context.report (occurrence.within directive) := by
        simp only [report, enter, Occurrence.within, List.append_assoc,
          List.singleton_append]
        rfl
      rw [reports, List.map_cons, reports, here, note_enter,
        inductionHypothesis]

theorem foldl_note_enter (directive : Kind) (occurrences : List Occurrence) :
    (occurrences.foldl note (context.enter directive)).assigned =
      ((occurrences.map (.within directive)).foldl note context).assigned := by
  induction occurrences generalizing context with
  | nil => rfl
  | cons occurrence others inductionHypothesis =>
      rw [List.foldl_cons, List.map_cons, List.foldl_cons, note_enter,
        inductionHypothesis]

/-- What is found and what is set after some names is what these names give. -/
structure Accounts (context : CheckContext) (occurrences : List Occurrence)
    (found : List Finding) (set : List String) : Prop where
  found : found.filter Finding.isUnassigned = context.reports occurrences
  set : (occurrences.foldl note context).assigned = set

namespace Accounts

variable {first second : List Occurrence} {found more : List Finding}
  {set later : List String}

theorem nil : context.Accounts [] [] context.assigned :=
  ⟨rfl, rfl⟩

/-- Names that stand one after the other. -/
theorem append (before : context.Accounts first found set)
    (after : CheckContext.Accounts { context with assigned := set } second more
      later) :
    context.Accounts (first ++ second) (found ++ more) later := by
  have behind : first.foldl CheckContext.note context =
      { context with assigned := (first.foldl CheckContext.note context).assigned } :=
    foldl_note_eq first
  rw [before.set] at behind
  constructor
  · rw [List.filter_append, before.found, after.found, reports_append, behind]
  · rw [List.foldl_append, behind, after.set]

/-- Names in a directive. -/
theorem enter {directive : Kind}
    (inside : (context.enter directive).Accounts first found set) :
    context.Accounts (first.map (.within directive)) found set where
  found := by rw [inside.found, reports_enter]
  set := by rw [← inside.set, foldl_note_enter]

end Accounts

theorem filter_checkName (name : Identifier) :
    (context.checkName name).filter Finding.isUnassigned = [] := by
  unfold checkName
  split <;> rfl

/-- Reading a name reports it, whatever part it plays. -/
theorem accounts_checkRead (name : Identifier) (role : Role)
    (used : role ≠ .assigned) :
    context.Accounts [⟨name.text, role, []⟩] (context.checkRead name)
      context.assigned where
  found := by
    have report : context.reports [⟨name.text, role, []⟩] =
        if isTemporary name.text && !context.assigned.contains name.text then
          [⟨.unassignedTemporary name.text, context.trail⟩]
        else
          [] := by
      rw [reports, reports, List.append_nil, CheckContext.report]
      simp only [used, ne_eq, not_false_eq_true, true_and, List.append_nil,
        Bool.and_eq_true, Bool.not_eq_true', List.contains_eq_mem,
        decide_eq_false_iff_not]
    rw [checkRead, List.filter_append, filter_checkName, List.nil_append, report]
    split <;> rfl
  set := by
    rw [List.foldl_cons, List.foldl_nil, note, if_neg used]

theorem accounts_assign (name : Identifier) :
    context.Accounts [⟨name.text, .assigned, []⟩] (context.checkName name)
      (context.assign name).assigned where
  found := filter_checkName name
  set := rfl

end CheckContext

/-! ## Reports on templates -/

open CheckContext (Accounts accounts_checkRead accounts_assign)

mutual

theorem Path.accounts (context : CheckContext) : (path : Path) →
    context.Accounts (path.visit .occurrences) (path.check context)
      context.assigned
  | .name identifier => accounts_checkRead identifier .read nofun
  | .property base name _ =>
      (base.accounts context).append (accounts_checkRead name .member nofun)
  | .index base subscript _ =>
      (base.accounts context).append (subscript.accounts context)
  | .call base method _ arguments _ =>
      ((base.accounts context).append (accounts_checkRead method .member nofun)).append
        (accounts_values context arguments)

theorem Value.accounts (context : CheckContext) : (value : Value) →
    context.Accounts (value.visit .occurrences) (value.check context)
      context.assigned
  | .reference path _ => path.accounts context
  | .number _ _ | .string _ _ _ | .boolean _ _ => .nil
  | .template _ spans _ => accounts_spans context spans
  | .list elements _ => accounts_values context elements
  | .range first last _ => (first.accounts context).append (last.accounts context)
  | .map entries _ => accounts_entries context entries

theorem RangeBound.accounts (context : CheckContext) : (bound : RangeBound) →
    context.Accounts (bound.visit .occurrences) (bound.check context)
      context.assigned
  | .number _ _ => .nil
  | .reference path _ => path.accounts context

theorem accounts_values (context : CheckContext) : (values : List Value) →
    context.Accounts (visitValues .occurrences values)
      (checkValues context values) context.assigned
  | [] => .nil
  | value :: others =>
      (value.accounts context).append (accounts_values context others)

theorem accounts_spans (context : CheckContext) : (spans : List TemplateSpan) →
    context.Accounts (visitSpans .occurrences spans) (checkSpans context spans)
      context.assigned
  | [] => .nil
  | .mk value _ _ :: others =>
      (value.accounts context).append (accounts_spans context others)

theorem accounts_entries (context : CheckContext) : (entries : List MapEntry) →
    context.Accounts (visitEntries .occurrences entries)
      (checkEntries context entries) context.assigned
  | [] => .nil
  | .mk name value _ :: others =>
      ((name.accounts context).append (value.accounts context)).append
        (accounts_entries context others)

end

theorem Expression.accounts (expression : Expression)
    (context : CheckContext) :
    context.Accounts expression.occurrences (expression.check context)
      context.assigned := by
  induction expression with
  | ofPath path =>
      cases path with
      | name identifier => exact accounts_checkRead identifier .bare nofun
      | property base name origin => exact Path.accounts context _
      | index base subscript origin => exact Path.accounts context _
      | call base method calleeOrigin arguments origin =>
          exact Path.accounts context _
  | ofValue value => exact value.accounts context
  | binary left operator right origin inLeft inRight => exact inLeft.append inRight
  | unary operator operand origin inOperand => exact inOperand
  | parenthesized inner origin inInner => exact inInner

theorem Place.accounts (place : Place) (context : CheckContext) :
    context.Accounts (place.visit .occurrences) (place.check context).1
      (place.check context).2 := by
  cases place with
  | named target => exact accounts_assign target.name
  | property base name accessOrigin origin =>
      exact Path.accounts context (.property base name accessOrigin)
  | index base subscript accessOrigin origin =>
      exact Path.accounts context (.index base subscript accessOrigin)

mutual

theorem Element.accounts (context : CheckContext) : (element : Element) →
    context.Accounts element.occurrences (element.check context).1
      (element.check context).2
  | .assign place value _ =>
      ((value.accounts _).append (place.accounts _)).enter
  | .branch first others otherwise _ =>
      (((first.accounts _).append (accounts_clauses _ others)).append
        (accounts_otherwise _ otherwise)).enter
  | .loop item iterable body _ => by
      have before := (iterable.accounts (context.enter .foreachDirective)).append
        (accounts_assign item.name)
      have whole := before.append (body.accounts _)
      rw [List.append_assoc] at whole
      exact whole.enter
  | .emit value => value.accounts context
  | .text _ _ => .nil
  | .newLine => .nil

theorem Block.accounts (context : CheckContext) : (block : Block) →
    context.Accounts block.occurrences (block.check context).1
      (block.check context).2
  | .mk elements _ => accounts_elements context elements

theorem Clause.accounts (context : CheckContext) : (clause : Clause) →
    context.Accounts clause.occurrences (clause.check context).1
      (clause.check context).2
  | .mk condition body _ => (condition.accounts context).append (body.accounts _)

theorem accounts_elements (context : CheckContext) :
    (elements : List Element) →
      context.Accounts (occurrencesOf elements) (checkElements context elements).1
        (checkElements context elements).2
  | [] => .nil
  | element :: others =>
      (element.accounts context).append (accounts_elements _ others)

theorem accounts_clauses (context : CheckContext) : (clauses : List Clause) →
    context.Accounts (occurrencesOfClauses clauses)
      (checkClauses context clauses).1 (checkClauses context clauses).2
  | [] => .nil
  | clause :: others =>
      (clause.accounts context).append (accounts_clauses _ others)

theorem accounts_otherwise (context : CheckContext) :
    (otherwise : Option Block) →
      context.Accounts (occurrencesOfOtherwise otherwise)
        (checkOtherwise context otherwise).1 (checkOtherwise context otherwise).2
  | none => .nil
  | some block => block.accounts context

end

/-! ## Unset uses -/

/-- Where a context has what is set by the names before, it reports the unset
uses. -/
theorem reports_eq_unsetUses {context : CheckContext}
    {earlier : List Occurrence} (start : context.trail = [])
    (known : ∀ name, name ∈ context.assigned ↔ IsSetBy earlier name)
    (occurrences : List Occurrence) :
    context.reports occurrences =
      (unsetUses earlier occurrences).map Occurrence.finding := by
  induction occurrences generalizing context earlier with
  | nil => rfl
  | cons occurrence others inductionHypothesis =>
      have isSetBy_append : ∀ name, IsSetBy (earlier ++ [occurrence]) name ↔
          IsSetBy earlier name ∨
            occurrence.role = .assigned ∧ occurrence.name = name := by
        intro name
        simp only [IsSetBy, List.mem_append, List.mem_singleton, or_and_right,
          exists_or, exists_eq_left]
      have later : (context.note occurrence).reports others =
          (unsetUses (earlier ++ [occurrence]) others).map Occurrence.finding := by
        unfold CheckContext.note
        split
        · next assigned =>
            refine inductionHypothesis start fun name => ?_
            rw [List.mem_cons, known name, isSetBy_append, or_comm]
            simp only [assigned, true_and, eq_comm]
        · next used =>
            refine inductionHypothesis start fun name => ?_
            rw [known name, isSetBy_append]
            simp only [used, false_and, or_false]
      simp only [CheckContext.reports, CheckContext.report, unsetUses, later,
        known occurrence.name, start, List.nil_append]
      split <;> rfl

theorem File.unassigned_eq (file : File) :
    file.unassigned = file.unsetUses.map Occurrence.finding := by
  have accounts := file.block.accounts ⟨[], []⟩
  have known : ∀ name : String, name ∈ [] ↔ IsSetBy [] name := by
    simp [IsSetBy]
  exact accounts.found.trans (reports_eq_unsetUses rfl known _)

/-- The reports on temporaries are, one for one and in the order in which the names
are visited, the uses of temporaries that nothing visited before sets, and each has
the directives around it.  No read of this kind is missed.  These uses are the
reads alone exactly if no property, no method and no identifier by itself is among
them. -/
theorem unset_reads_are_reported_iff (file : File) :
    file.unassigned = file.unsetUses.map Occurrence.finding ∧
    (file.unsetReads.map Occurrence.finding).Sublist file.unassigned ∧
    (file.unassigned = file.unsetReads.map Occurrence.finding ↔
      ∀ occurrence ∈ file.unsetUses, occurrence.role = .read) := by
  rw [file.unassigned_eq, File.unsetReads]
  refine ⟨rfl, (List.filter_sublist).map _, fun same => ?_, fun reads => ?_⟩
  · have lengths := congrArg List.length same
    rw [List.length_map, List.length_map] at lengths
    simpa using List.length_filter_eq_length_iff.mp lengths.symm
  · rw [List.filter_eq_self.mpr]
    simpa using reads

/-- A property that is called like a temporary is reported, though nothing reads
this temporary. -/
theorem property_is_reported_as_temporary :
    let source : SourceText :=
      ⟨"member.ts", "export function f(a) \x7b return a.local_0; \x7d"⟩
    let transpiled := transpile .apigateway source
    transpiled.diagnostics = [] ∧
      transpiled.render {} = [("f", "## Function: f\n$\x7ba.local_0\x7d")] ∧
      transpiled.files.map File.unsetReads = [[]] ∧
      transpiled.files.map File.check =
        [[⟨.unassignedTemporary "local_0", []⟩]] := by
  decide +kernel

end VelocityScript.Template
