import Mathlib.Logic.Function.Basic
import VelocityScript.Proofs.Template.Temporary

/-!
# The meaning of templates

An interpretation says what literals, operators, accesses and calls make of the
values of their parts, and a store what every variable holds.  Together they
give every expression of a template its value, and every `#set` directive the
store after it.
-/

namespace VelocityScript.Template

/-- What the constructs of a template make of the values of their parts. -/
structure Interpretation (Datum : Type) where
  number : Double → Datum
  string : String → Quote → Datum
  boolean : Bool → Datum
  template : String → List (Datum × String) → Datum
  list : List Datum → Datum
  range : Datum → Datum → Datum
  map : List (Datum × Datum) → Datum
  property : Datum → String → Datum
  index : Datum → Datum → Datum
  call : Datum → String → List Datum → Datum
  binary : BinaryOperator → Datum → Datum → Datum
  unary : UnaryOperator → Datum → Datum
  withProperty : Datum → String → Datum → Datum
  withIndex : Datum → Datum → Datum → Datum

/-- What the variables hold. -/
abbrev Store (Datum : Type) := String → Datum

variable {Datum : Type} (interpretation : Interpretation Datum)

mutual

/-- The value that a path leads to. -/
def Path.evaluate (store : Store Datum) : Path → Datum
  | .name identifier => store identifier.text
  | .property base member _ =>
      interpretation.property (base.evaluate store) member.text
  | .index base subscript _ =>
      interpretation.index (base.evaluate store) (subscript.evaluate store)
  | .call base method _ arguments _ =>
      interpretation.call (base.evaluate store) method.text
        (evaluateValues store arguments)

def Value.evaluate (store : Store Datum) : Value → Datum
  | .reference path _ => path.evaluate store
  | .number value _ => interpretation.number value
  | .string text quote _ => interpretation.string text quote
  | .template head spans _ =>
      interpretation.template head (evaluateSpans store spans)
  | .boolean truth _ => interpretation.boolean truth
  | .list elements _ => interpretation.list (evaluateValues store elements)
  | .range first last _ =>
      interpretation.range (first.evaluate store) (last.evaluate store)
  | .map entries _ => interpretation.map (evaluateEntries store entries)

def RangeBound.evaluate (store : Store Datum) : RangeBound → Datum
  | .number value _ => interpretation.number value
  | .reference path _ => path.evaluate store

def evaluateValues (store : Store Datum) : List Value → List Datum
  | [] => []
  | value :: others => value.evaluate store :: evaluateValues store others

def evaluateSpans (store : Store Datum) :
    List TemplateSpan → List (Datum × String)
  | [] => []
  | .mk value literal _ :: others =>
      (value.evaluate store, literal) :: evaluateSpans store others

def evaluateEntries (store : Store Datum) :
    List MapEntry → List (Datum × Datum)
  | [] => []
  | .mk name value _ :: others =>
      (name.evaluate store, value.evaluate store) ::
        evaluateEntries store others

end

/-- The value of an expression.  Parentheses change nothing. -/
def Expression.evaluate (store : Store Datum) : Expression → Datum
  | .ofPath path => path.evaluate interpretation store
  | .ofValue value => value.evaluate interpretation store
  | .binary left operator right _ =>
      interpretation.binary operator (left.evaluate store) (right.evaluate store)
  | .unary operator operand _ =>
      interpretation.unary operator (operand.evaluate store)
  | .parenthesized inner _ => inner.evaluate store

/-- The store after a path gets a new value.  A property or an index is
replaced in what the path before it leads to; the result of a call cannot be
set. -/
def Path.write? (store : Store Datum) : Path → Datum → Option (Store Datum)
  | .name identifier, datum =>
      some (Function.update store identifier.text datum)
  | .property base member _, datum =>
      base.write? store
        (interpretation.withProperty (base.evaluate interpretation store)
          member.text datum)
  | .index base subscript _, datum =>
      base.write? store
        (interpretation.withIndex (base.evaluate interpretation store)
          (subscript.evaluate interpretation store) datum)
  | .call _ _ _ _ _, _ => none

/-- The store after some elements, if all of them are `#set` directives. -/
def execute? : List Element → Store Datum → Option (Store Datum)
  | [], store => some store
  | .assign place value _ :: others, store =>
      (place.reference.path.write? interpretation store
        (value.evaluate interpretation store)).bind (execute? others)
  | _ :: _, _ => none

theorem execute?_append (first second : List Element) (store : Store Datum) :
    execute? interpretation (first ++ second) store =
      (execute? interpretation first store).bind
        (execute? interpretation second) := by
  induction first generalizing store with
  | nil => rfl
  | cons element others inductionHypothesis =>
      cases element with
      | assign place value origin =>
          simp only [List.cons_append, execute?, Option.bind_assoc]
          congr 1
          funext middle
          exact inductionHypothesis middle
      | _ => rfl

variable {interpretation}

theorem execute?_append_of_some {first second : List Element}
    {store middle final : Store Datum}
    (ran : execute? interpretation first store = some middle)
    (ranOn : execute? interpretation second middle = some final) :
    execute? interpretation (first ++ second) store = some final := by
  rw [execute?_append, ran]
  exact ranOn

/-! ## The same node in other forms -/

@[simp]
theorem Expression.evaluate_interpolated (expression : Expression)
    (store : Store Datum) :
    expression.interpolated.evaluate interpretation store =
      expression.evaluate interpretation store := by
  cases expression <;> rfl

theorem Expression.evaluate_of_value? {expression : Expression} {value : Value}
    (found : expression.value? = some value) (store : Store Datum) :
    value.evaluate interpretation store =
      expression.evaluate interpretation store := by
  cases expression <;> cases found <;> rfl

theorem Expression.evaluate_of_path? {expression : Expression} {path : Path}
    (found : expression.path? = some path) (store : Store Datum) :
    path.evaluate interpretation store =
      expression.evaluate interpretation store := by
  cases expression <;> cases found
  rfl

/-! ## Stores that differ in temporaries -/

/-- The stores agree, except at temporaries whose number is allowed. -/
def AgreeExcept (allowed : Nat → Prop) (store other : Store Datum) : Prop :=
  ∀ name, (∀ number, allowed number → name ≠ temporaryName number) →
    store name = other name

namespace AgreeExcept

variable {allowed wider : Nat → Prop} {store middle final : Store Datum}

theorem refl (allowed : Nat → Prop) (store : Store Datum) :
    AgreeExcept allowed store store :=
  fun _ _ => rfl

theorem mono (agree : AgreeExcept allowed store final)
    (included : ∀ number, allowed number → wider number) :
    AgreeExcept wider store final := by
  intro name apart
  exact agree name fun number isAllowed => apart number (included number isAllowed)

theorem trans (agree : AgreeExcept allowed store middle)
    (agreeOn : AgreeExcept allowed middle final) :
    AgreeExcept allowed store final := by
  intro name apart
  rw [agree name apart, agreeOn name apart]

/-- A name that no temporary has is left alone. -/
theorem ordinary (agree : AgreeExcept allowed store final) {name : String}
    (notTemporary : isTemporary name = false) : store name = final name := by
  apply agree
  rintro number _ rfl
  rw [isTemporary_temporaryName] at notTemporary
  cases notTemporary

/-- A temporary whose number is not allowed is left alone. -/
theorem temporary (agree : AgreeExcept allowed store final) {number : Nat}
    (notAllowed : ¬ allowed number) :
    store (temporaryName number) = final (temporaryName number) := by
  apply agree
  intro other isAllowed same
  rw [temporaryName_injective same] at notAllowed
  exact notAllowed isAllowed

end AgreeExcept

/-- Setting a temporary changes nothing else. -/
theorem agreeExcept_update {allowed : Nat → Prop} {number : Nat}
    (isAllowed : allowed number) (store : Store Datum) (datum : Datum) :
    AgreeExcept allowed store
      (Function.update store (temporaryName number) datum) := by
  intro name apart
  rw [Function.update_of_ne (apart number isAllowed)]

/-! ## Numbers and records -/

/-- A value that is a natural number, or a record with one field more than
another value. -/
inductive Sample where
  | scalar (value : Nat)
  | record (name : String) (field rest : Sample)
  deriving DecidableEq

namespace Sample

/-- The number of a value; a record counts as zero. -/
def toNat : Sample → Nat
  | .scalar value => value
  | .record _ _ _ => 0

/-- The field that was set last under a name. -/
def property : Sample → String → Sample
  | .scalar _, _ => .scalar 0
  | .record found field rest, name =>
      if found = name then field else rest.property name

/-- The record of some values under their numbers, from `index` on. -/
def ofList (index : Nat) : List Sample → Sample
  | [] => .scalar 0
  | first :: others => .record (toString index) first (ofList (index + 1) others)

/-- Numbers add up and conjoin, and all other constructs leave records. -/
def arithmetic : Interpretation Sample where
  number value := .scalar (value.natural?.getD 0)
  string text _ := .scalar text.length
  boolean truth := .scalar truth.toNat
  template head spans :=
    spans.foldr (fun span rest => .record span.2 span.1 rest)
      (.scalar head.length)
  list := ofList 0
  range first last := .record "first" first (.record "last" last (.scalar 0))
  map entries :=
    entries.foldr (fun entry rest => .record (toString entry.1.toNat) entry.2 rest)
      (.scalar 0)
  property := property
  index base subscript := base.property (toString subscript.toNat)
  call base method arguments := .record method (ofList 0 arguments) base
  binary operator left right :=
    match operator with
    | .plus => .scalar (left.toNat + right.toNat)
    | .and => .scalar (min left.toNat right.toNat)
    | _ => .record operator.text left right
  unary operator operand := .record operator.text operand (.scalar 0)
  withProperty base name datum := .record name datum base
  withIndex base subscript datum :=
    .record (toString subscript.toNat) datum base

end Sample

end VelocityScript.Template
