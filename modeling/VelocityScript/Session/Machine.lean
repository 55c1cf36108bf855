import VelocityScript.Session.Run

/-!
# Machines

Surroundings of a run as a value: files, the standard input, and what has been
printed and reported.  Warnings are lines of a log and are kept apart from the
reports, although both end up on the standard error.
-/

namespace VelocityScript.Session

/-- The state of a machine. -/
structure Machine where
  store : FileStore := {}
  input : Content := .text ""
  output : String := ""
  errors : String := ""
  warnings : List Warning := []

namespace Machine

/-- Writes a file of a machine.  A failed write changes nothing. -/
def write (path content : String) (machine : Machine) :
    Except FileError Unit × Machine :=
  match machine.store.write path content with
  | .ok store => (.ok (), { machine with store := store })
  | .error error => (.error error, machine)

/-- The machine with more warnings. -/
def warned (warnings : List Warning) (machine : Machine) : Machine :=
  { machine with warnings := machine.warnings ++ warnings }

@[simp]
theorem warned_nil (machine : Machine) : machine.warned [] = machine := by
  simp [warned]

@[simp]
theorem warned_warned (first second : List Warning) (machine : Machine) :
    (machine.warned first).warned second = machine.warned (first ++ second) := by
  simp [warned]

/-- A machine as the surroundings of a run. -/
def environment : Environment (StateM Machine) where
  isFile path machine := (machine.store.isFile path, machine)
  read path machine := (machine.store.read path, machine)
  readInput machine := (machine.input.read, machine)
  write path content machine := machine.write path content
  print text machine :=
    ((), { machine with output := machine.output ++ text })
  report text machine :=
    ((), { machine with errors := machine.errors ++ text })
  warn warning machine := ((), machine.warned [warning])

/-- Executes a command line on a machine. -/
def execute (texts : List String) (machine : Machine) : Ending × Machine :=
  (Session.execute environment texts).run machine

end Machine

end VelocityScript.Session
