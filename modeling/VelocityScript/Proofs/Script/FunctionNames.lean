import Mathlib.Data.List.TakeWhile
import VelocityScript.Proofs.Script.Continuations
import VelocityScript.Proofs.Script.Facing
import VelocityScript.Proofs.Script.Reading

/-!
# Names of functions

The name of a parsed function is a word: it starts like one and goes on to its
end.
-/

namespace VelocityScript.Script

open VelocityScript.Script.Parser

/-- The name of a function, if it has one, is a word. -/
def FunctionDeclaration.IsNamed (declared : FunctionDeclaration) : Prop :=
  ∀ name, declared.name = some name → isWord name.name = true

/-- The function of an item, if it is one, is named by a word. -/
def Item.IsNamed : Item → Prop
  | .function declared => declared.IsNamed
  | _ => True

theorem isWord_of_wordAtFront? {rest word : List Char}
    (found : wordAtFront? rest = some word) :
    isWord (String.ofList word) = true := by
  cases rest with
  | nil => cases found
  | cons first others =>
      rw [wordAtFront?] at found
      split at found
      · next starts =>
          injection found with same
          have again : (others.takeWhile isNamePart).takeWhile isNamePart =
              others.takeWhile isNamePart := List.takeWhile_idem
          rw [isWord, String.toList_ofList, ← same, wordAtFront?, if_pos starts,
            again, beq_iff_eq]
      · cases found

namespace Grammar

variable {nested : Nested}

theorem nameOf_gives (word : List Char) :
    Gives (nameOf word) fun identifier => identifier.name = String.ofList word :=
  gives_bind fun _ => gives_bind fun _ => gives_bind fun _ => gives_pure rfl

theorem identifier_isWord :
    Gives identifier fun identifier => isWord identifier.name = true := by
  refine gives_bind fun cursor => ?_
  dsimp only
  split
  · next word found =>
      apply gives_ite
      · exact gives_failAt _ _ _
      · refine (nameOf_gives word).mono fun identifier same => ?_
        rw [same]
        exact isWord_of_wordAtFront? found
  · exact gives_fail _ _

theorem functionEnd_isNamed (modifiers : List Modifier) (isGenerator : Bool)
    (start : Nat) {name : Option Identifier}
    (named : ∀ identifier, name = some identifier → isWord identifier.name = true) :
    Gives (functionEnd nested modifiers isGenerator start name)
      FunctionDeclaration.IsNamed := by
  refine gives_bind fun _ => gives_bind fun _ => gives_bind fun _ =>
    gives_bind fun cursor => ?_
  split
  · exact gives_bind fun _ => gives_pure_bind (gives_bind fun _ => gives_pure named)
  · exact gives_bind fun _ => gives_pure_bind (gives_bind fun _ => gives_pure named)

theorem function_isNamed (modifiers : List Modifier) (start : Nat) :
    Gives (function nested modifiers start) FunctionDeclaration.IsNamed := by
  refine gives_bind fun modifiers => gives_bind fun _ => gives_bind
    fun isGenerator => gives_bind fun cursor => ?_
  split
  · refine identifier_isWord.bind fun identifier word =>
      gives_pure_bind (functionEnd_isNamed _ _ _ ?_)
    intro name same
    injection same with same
    rw [← same]
    exact word
  · exact gives_pure_bind (functionEnd_isNamed _ _ _ nofun)

theorem exportedItem_isNamed (start leadingNewlines : Nat) :
    Gives (exportedItem nested start leadingNewlines) Item.IsNamed := by
  have statement (form : Placement → Statement) :
      Gives (exportedStatement form start leadingNewlines) Item.IsNamed :=
    gives_bind fun _ => gives_pure trivial
  refine gives_bind fun isDefault => gives_bind fun cursor => ?_
  split
  · exact (function_isNamed _ start).bind fun _ named => gives_pure named
  split
  · exact gives_bind fun _ => gives_bind fun _ => gives_pure trivial
  split
  · exact gives_bind fun _ => gives_bind fun _ => gives_when
      (gives_bind fun _ => statement _)
  split
  · exact gives_bind fun _ => gives_bind fun _ => statement _
  · exact gives_bind fun _ => statement _

theorem item_isNamed : Gives (item nested) Item.IsNamed := by
  refine gives_bind fun cursor => ?_
  split
  · exact gives_bind fun _ => gives_pure trivial
  refine gives_bind fun exported => ?_
  split
  · exact exportedItem_isNamed _ _
  split
  · exact (function_isNamed [] _).bind fun _ named => gives_pure named
  split
  · exact gives_bind fun _ => gives_bind fun _ => gives_pure trivial
  · exact gives_bind fun _ => gives_pure trivial

theorem items_areNamed :
    Gives (items nested) fun results => ∀ result ∈ results, result.IsNamed := by
  refine gives_repeating
    (fun results : List Item => ∀ result ∈ results, result.IsNamed) _
    (List.forall_mem_nil _) ?_
  intro results held
  refine gives_bind fun cursor => ?_
  split
  · exact gives_pure held
  · exact item_isNamed.bind fun result named => gives_pure
      (List.forall_mem_append.mpr ⟨held, List.forall_mem_singleton.mpr named⟩)

end Grammar

/-- All functions of a parsed script are named by words. -/
theorem parse_isNamed {text : String} {script : Module}
    (parsed : parse text = .ok script) :
    ∀ item ∈ script.items, item.IsNamed := by
  simp only [parse] at parsed
  split at parsed
  · next items next ran =>
      cases parsed
      exact Grammar.items_areNamed _ items next ran
  · cases parsed

end VelocityScript.Script
