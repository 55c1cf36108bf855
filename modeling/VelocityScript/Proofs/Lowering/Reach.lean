import VelocityScript.Lowering.Function

/-!
# What the lowering reaches

The lowering of a function goes through names, receivers and the texts of
template literals, and through the declarations and the expressions that stand
as statements.  It leaves out a helper that is called, since the call is
lowered by the name of the export, the arguments of a range after the second
one, and computed keys.
-/

namespace VelocityScript.Script

/-- What the lowering of a part of a script reaches: the names that stand for
something, the receivers, the texts of template literals, the names that
declarations give a value, and the expressions that stand as statements. -/
@[ext]
structure Reach where
  mentioned : List Identifier := []
  receivers : List Span := []
  texts : List String := []
  declared : List Identifier := []
  evaluated : List Expression := []

namespace Reach

instance : EmptyCollection Reach := ⟨{}⟩

instance : Append Reach where
  append first second :=
    { mentioned := first.mentioned ++ second.mentioned
      receivers := first.receivers ++ second.receivers
      texts := first.texts ++ second.texts
      declared := first.declared ++ second.declared
      evaluated := first.evaluated ++ second.evaluated }

@[simp]
theorem empty_mentioned : (∅ : Reach).mentioned = [] := rfl

@[simp]
theorem empty_receivers : (∅ : Reach).receivers = [] := rfl

@[simp]
theorem empty_texts : (∅ : Reach).texts = [] := rfl

@[simp]
theorem empty_declared : (∅ : Reach).declared = [] := rfl

@[simp]
theorem empty_evaluated : (∅ : Reach).evaluated = [] := rfl

variable (reach first second third : Reach)

@[simp]
theorem append_mentioned :
    (first ++ second).mentioned = first.mentioned ++ second.mentioned := rfl

@[simp]
theorem append_receivers :
    (first ++ second).receivers = first.receivers ++ second.receivers := rfl

@[simp]
theorem append_texts : (first ++ second).texts = first.texts ++ second.texts := rfl

@[simp]
theorem append_declared :
    (first ++ second).declared = first.declared ++ second.declared := rfl

@[simp]
theorem append_evaluated :
    (first ++ second).evaluated = first.evaluated ++ second.evaluated := rfl

@[simp]
theorem empty_append : ∅ ++ reach = reach := by
  ext1 <;> simp

@[simp]
theorem append_empty : reach ++ ∅ = reach := by
  ext1 <;> simp

/-- What is reached is among what something else reaches. -/
structure Within (reach whole : Reach) : Prop where
  mentioned : reach.mentioned ⊆ whole.mentioned
  receivers : reach.receivers ⊆ whole.receivers
  texts : reach.texts ⊆ whole.texts
  declared : reach.declared ⊆ whole.declared
  evaluated : reach.evaluated ⊆ whole.evaluated

namespace Within

variable {reach first second third}

theorem refl (reach : Reach) : reach.Within reach :=
  ⟨List.Subset.refl _, List.Subset.refl _, List.Subset.refl _,
    List.Subset.refl _, List.Subset.refl _⟩

theorem trans (inner : first.Within second) (outer : second.Within third) :
    first.Within third :=
  ⟨List.Subset.trans inner.mentioned outer.mentioned,
    List.Subset.trans inner.receivers outer.receivers,
    List.Subset.trans inner.texts outer.texts,
    List.Subset.trans inner.declared outer.declared,
    List.Subset.trans inner.evaluated outer.evaluated⟩

theorem inLeft (first second : Reach) : first.Within (first ++ second) :=
  ⟨List.subset_append_left _ _, List.subset_append_left _ _,
    List.subset_append_left _ _, List.subset_append_left _ _,
    List.subset_append_left _ _⟩

theorem inRight (first second : Reach) : second.Within (first ++ second) :=
  ⟨List.subset_append_right _ _, List.subset_append_right _ _,
    List.subset_append_right _ _, List.subset_append_right _ _,
    List.subset_append_right _ _⟩

theorem left (within : (first ++ second).Within reach) : first.Within reach :=
  (inLeft first second).trans within

theorem right (within : (first ++ second).Within reach) : second.Within reach :=
  (inRight first second).trans within

end Within

end Reach

mutual

def Expression.reach : Expression → Reach
  | .identifier named => { mentioned := [named] }
  | .receiver span => { receivers := [span] }
  | .number _ _ | .string _ _ | .boolean _ _ | .other _ _ => ∅
  | .template head parts _ => { texts := [head] } ++ reachOfParts parts
  | .array elements _ => reachOfAll elements
  | .object members _ => reachOfMembers members
  | .parenthesized inner _ => inner.reach
  | .unary _ operand _ => operand.reach
  | .binary _ left right _ => left.reach ++ right.reach
  | .assignment _ place value _ => place.reach ++ value.reach
  | .member object _ _ _ => object.reach
  | .index object subscript _ => object.reach ++ subscript.reach
  | .call callee arguments _ _ =>
      match Lowering.calleeForm callee with
      | .helper exported _ =>
          if exported = Catalogue.rangeHelper then reachOfBounds arguments
          else reachOfAll arguments
      | _ => callee.reach ++ reachOfAll arguments

/-- What the lowering of several expressions reaches. -/
def reachOfAll : List Expression → Reach
  | [] => ∅
  | source :: others => source.reach ++ reachOfAll others

/-- What the lowering of the arguments of a range reaches. -/
def reachOfBounds : List Expression → Reach
  | [] => ∅
  | [lowest] => lowest.reach
  | lowest :: highest :: _ => lowest.reach ++ highest.reach

def TemplatePart.reach : TemplatePart → Reach
  | .mk source literal => source.reach ++ { texts := [literal] }

def reachOfParts : List TemplatePart → Reach
  | [] => ∅
  | part :: others => part.reach ++ reachOfParts others

/-- What the lowering of a member of an object reaches.  A shorthand stands for
its name, and keys are not looked at. -/
def ObjectMember.reach : ObjectMember → Reach
  | .shorthand named => { mentioned := [named] }
  | .property _ value _ => value.reach
  | .other _ _ => ∅

def reachOfMembers : List ObjectMember → Reach
  | [] => ∅
  | member :: others => member.reach ++ reachOfMembers others

end

mutual

/-- Expressions declare nothing. -/
theorem declared_reach : ∀ source : Expression, source.reach.declared = []
  | .identifier _ | .receiver _ | .number _ _ | .string _ _ | .boolean _ _
  | .other _ _ => rfl
  | .template _ parts _ => declared_reachOfParts parts
  | .array elements _ => declared_reachOfAll elements
  | .object members _ => declared_reachOfMembers members
  | .parenthesized inner _ => declared_reach inner
  | .unary _ operand _ => declared_reach operand
  | .binary _ left right _ =>
      List.append_eq_nil_iff.mpr ⟨declared_reach left, declared_reach right⟩
  | .assignment _ place value _ =>
      List.append_eq_nil_iff.mpr ⟨declared_reach place, declared_reach value⟩
  | .member object _ _ _ => declared_reach object
  | .index object subscript _ =>
      List.append_eq_nil_iff.mpr ⟨declared_reach object, declared_reach subscript⟩
  | .call callee arguments _ _ => by
      have calleeSilent := declared_reach callee
      have allSilent := declared_reachOfAll arguments
      have boundsSilent := declared_reachOfBounds arguments
      unfold Expression.reach
      split
      · split
        · exact boundsSilent
        · exact allSilent
      · exact List.append_eq_nil_iff.mpr ⟨calleeSilent, allSilent⟩

theorem declared_reachOfAll :
    ∀ sources : List Expression, (reachOfAll sources).declared = []
  | [] => rfl
  | source :: others =>
      List.append_eq_nil_iff.mpr
        ⟨declared_reach source, declared_reachOfAll others⟩

theorem declared_reachOfBounds :
    ∀ sources : List Expression, (reachOfBounds sources).declared = []
  | [] => rfl
  | [lowest] => declared_reach lowest
  | lowest :: highest :: _ =>
      List.append_eq_nil_iff.mpr ⟨declared_reach lowest, declared_reach highest⟩

theorem declared_reachOfParts :
    ∀ parts : List TemplatePart, (reachOfParts parts).declared = []
  | [] => rfl
  | .mk source _ :: others =>
      List.append_eq_nil_iff.mpr
        ⟨List.append_eq_nil_iff.mpr ⟨declared_reach source, rfl⟩,
          declared_reachOfParts others⟩

theorem declared_reachOfMembers :
    ∀ members : List ObjectMember, (reachOfMembers members).declared = []
  | [] => rfl
  | .shorthand _ :: others => declared_reachOfMembers others
  | .property _ value _ :: others =>
      List.append_eq_nil_iff.mpr
        ⟨declared_reach value, declared_reachOfMembers others⟩
  | .other _ _ :: others => declared_reachOfMembers others

end

def reachOfOption : Option Expression → Reach
  | none => ∅
  | some source => source.reach

mutual

/-- The names in a pattern, in source order. -/
def BindingName.identifiers : BindingName → List Identifier
  | .identifier named => [named]
  | .array elements _ => elementIdentifiers elements
  | .object properties _ => patternIdentifiers properties

def elementIdentifiers : List BindingElement → List Identifier
  | [] => []
  | .hole :: others => elementIdentifiers others
  | .bound name :: others => name.identifiers ++ elementIdentifiers others

def patternIdentifiers : List BindingName → List Identifier
  | [] => []
  | name :: others => name.identifiers ++ patternIdentifiers others

end

/-- What the lowering of a declaration reaches.  Without an initial value it
declares nothing in the template. -/
def Declaration.reach (declared : Declaration) : Reach :=
  match declared.initial with
  | none => ∅
  | some initial =>
      { declared := declared.name.identifiers } ++ initial.reach

def reachOfDeclarations : List Declaration → Reach
  | [] => ∅
  | declared :: others => declared.reach ++ reachOfDeclarations others

/-- The names that the header of a loop declares. -/
def LoopHeader.identifiers : LoopHeader → List Identifier
  | .declaration declared => declared.name.identifiers
  | .expression _ => []

mutual

def Statement.reach : Statement → Reach
  | .block statements _ => reachOfStatements statements
  | .expression evaluated _ => { evaluated := [evaluated] } ++ evaluated.reach
  | .branch condition consequent alternative _ =>
      condition.reach ++ consequent.reach ++ reachOfAlternative alternative
  | .loop header iterable body _ =>
      { declared := header.identifiers } ++ iterable.reach ++ body.reach
  | .result returned _ => reachOfOption returned
  | .declarations _ declared _ => reachOfDeclarations declared
  | .other _ _ => ∅

/-- What the lowering of several statements reaches. -/
def reachOfStatements : List Statement → Reach
  | [] => ∅
  | statement :: others => statement.reach ++ reachOfStatements others

/-- What the lowering of the other side of a branch reaches. -/
def reachOfAlternative : Option Statement → Reach
  | none => ∅
  | some statement => statement.reach

end

def FunctionDeclaration.reach (function : FunctionDeclaration) : Reach :=
  match function.body with
  | none => ∅
  | some body => reachOfStatements body.statements

/-- The names that the functions of a script mention where they stand for
something, and not where a helper is called. -/
def Module.mentioned (script : Module) : List Identifier :=
  script.items.flatMap fun
    | .function declared => declared.reach.mentioned
    | _ => []

end VelocityScript.Script
