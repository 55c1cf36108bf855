import VelocityScript.Proofs.Session.Storing
import VelocityScript.Session.Machine

/-!
# Doing deeds

What the actions of a run do on a machine where they succeed.  A run does its
deeds one after the other: the texts it prints and reports and its warnings come
in their order, and the files are those after all of its writes.
-/

namespace VelocityScript.Session

variable {Value Other : Type}

/-! ## Actions that succeed -/

/-- An action on a machine ends with a value and leaves the second machine. -/
def Succeeds (action : ExceptT ToolError (StateM Machine) Value)
    (before : Machine) (value : Value) (after : Machine) : Prop :=
  action.run.run before = (.ok value, after)

/-- An action after another one runs where that one has succeeded. -/
theorem run_bind_eq
    (action : ExceptT ToolError (StateM Machine) Other)
    (next : Other → ExceptT ToolError (StateM Machine) Value)
    (before : Machine) :
    (action >>= next).run.run before =
      match action.run.run before with
      | (.ok other, middle) => (next other).run.run middle
      | (.error error, middle) => (.error error, middle) := by
  simp only [ExceptT.run_bind, StateT.run_bind]
  generalize action.run.run before = outcome
  obtain ⟨result, middle⟩ := outcome
  cases result with
  | ok other => rfl
  | error error => rfl

theorem Succeeds.of_bind
    {action : ExceptT ToolError (StateM Machine) Other}
    {next : Other → ExceptT ToolError (StateM Machine) Value}
    {before after : Machine} {value : Value}
    (done : Succeeds (action >>= next) before value after) :
    ∃ other middle, Succeeds action before other middle ∧
      Succeeds (next other) middle value after := by
  unfold Succeeds at done
  rw [run_bind_eq] at done
  split at done
  · next other middle found => exact ⟨other, middle, found, done⟩
  · cases done

theorem succeeds_pure {given value : Value} {before after : Machine}
    (done : Succeeds (pure given) before value after) :
    value = given ∧ after = before := by
  cases done
  exact ⟨rfl, rfl⟩

theorem not_succeeds_throw {error : ToolError} {before after : Machine}
    {value : Value} : ¬ Succeeds (throw error) before value after :=
  nofun

/-- A step of the machine that every action may take. -/
theorem succeeds_lift {step : StateM Machine Value} {before after : Machine}
    {value : Value} (done : Succeeds (liftM step) before value after) :
    step.run before = (value, after) := by
  have ran : (liftM step : ExceptT ToolError (StateM Machine) Value).run.run before =
      (.ok (step.run before).1, (step.run before).2) := rfl
  unfold Succeeds at done
  rw [ran] at done
  cases done
  rfl

/-! ## Deeds -/

namespace Deed

/-- The text that a deed puts on the standard output. -/
def printed? : Deed → Option String
  | .print text => some text
  | _ => none

/-- The text that a deed puts on the standard error. -/
def reported? : Deed → Option String
  | .report text => some text
  | _ => none

/-- What a deed warns of. -/
def warned? : Deed → Option Warning
  | .warn warning => some warning
  | _ => none

/-- The path that a deed writes to, and what it writes there. -/
def written? : Deed → Option (String × String)
  | .write path content => some (path, content)
  | _ => none

end Deed

/-- What has changed on a machine on which all of some deeds are done. -/
structure Performed (deeds : List Deed) (before after : Machine) : Prop where
  output :
    after.output = before.output ++ String.join (deeds.filterMap Deed.printed?)
  errors :
    after.errors = before.errors ++ String.join (deeds.filterMap Deed.reported?)
  warnings : after.warnings = before.warnings ++ deeds.filterMap Deed.warned?
  store :
    FileStore.Written before.store (deeds.filterMap Deed.written?) after.store
  unstopped : ∀ error, Deed.stop error ∉ deeds

theorem Performed.nil (machine : Machine) : Performed [] machine machine where
  output := String.append_empty.symm
  errors := String.append_empty.symm
  warnings := (List.append_nil _).symm
  store := .nil machine.store
  unstopped := nofun

theorem Performed.cons {deed : Deed} {deeds : List Deed}
    {before middle after : Machine}
    (done : Succeeds (perform Machine.environment deed) before () middle)
    (rest : Performed deeds middle after) :
    Performed (deed :: deeds) before after := by
  cases deed with
  | print text =>
      cases succeeds_lift done
      exact
        { output := by
            simpa [Deed.printed?, String.append_assoc] using rest.output
          errors := rest.errors
          warnings := rest.warnings
          store := rest.store
          unstopped := by simpa using rest.unstopped }
  | report text =>
      cases succeeds_lift done
      exact
        { output := rest.output
          errors := by
            simpa [Deed.reported?, String.append_assoc] using rest.errors
          warnings := rest.warnings
          store := rest.store
          unstopped := by simpa using rest.unstopped }
  | warn warning =>
      cases succeeds_lift done
      exact
        { output := rest.output
          errors := rest.errors
          warnings := by
            simpa [Deed.warned?, Machine.warned] using rest.warnings
          store := rest.store
          unstopped := by simpa using rest.unstopped }
  | write path content =>
      obtain ⟨outcome, between, tried, ended⟩ := done.of_bind
      have ran : before.write path content = (outcome, between) :=
        succeeds_lift tried
      unfold Machine.write at ran
      split at ran
      · next store written =>
          cases ran
          cases ended
          exact
            { output := rest.output
              errors := rest.errors
              warnings := rest.warnings
              store := .cons written rest.store
              unstopped := by simpa using rest.unstopped }
      · cases ran
        cases ended
  | stop error => cases done

/-- A run that does all of its deeds has done each of them. -/
theorem performed_of_succeeds {deeds : List Deed} {before after : Machine}
    (done : Succeeds (performAll Machine.environment deeds) before () after) :
    Performed deeds before after := by
  induction deeds generalizing before with
  | nil =>
      cases done
      exact .nil _
  | cons deed deeds inductionHypothesis =>
      obtain ⟨_, middle, first, others⟩ := done.of_bind
      exact .cons first (inductionHypothesis others)

end VelocityScript.Session
