import VelocityScript.Lowering.State

/-!
# Command line arguments

Arguments are read from left to right, and the first one that settles the
matter wins: a request for help or for the version, or a mistake.  An option
takes its value from the same argument, after `=`, or from the next one, which
must not look like an option itself.
-/

namespace VelocityScript.Session

/-- How diagnostics are reported. -/
inductive Format where
  | text
  | json
  deriving DecidableEq

def Format.ofText? (name : String) : Option Format :=
  [("text", Format.text), ("json", Format.json)].lookup name

/-- What the arguments ask for. -/
structure Arguments where
  files : List String := []
  target : Option Target := none
  outputFile : Option String := none
  outputDirectory : Option String := none
  indent : Option String := none
  noIndent : Bool := false
  stripComments : Bool := false
  format : Option Format := none
  validate : Bool := false
  settingsFile : Option String := none
  verbose : Bool := false
  deriving DecidableEq

/-- Options with a value. -/
inductive ValueOption where
  | target
  | outputFile
  | outputDirectory
  | indent
  | format
  | settingsFile
  deriving DecidableEq

/-- Options without a value. -/
inductive Switch where
  | noIndent
  | stripComments
  | validate
  | verbose
  | help
  | version
  deriving DecidableEq

/-- What an option name stands for. -/
inductive Choice where
  | valued (option : ValueOption)
  | switch (switch : Switch)
  deriving DecidableEq

/-- The options by their long names. -/
def longOptions : List (String × Choice) :=
  [("target", .valued .target), ("out-file", .valued .outputFile),
    ("out-dir", .valued .outputDirectory), ("indent", .valued .indent),
    ("no-indent", .switch .noIndent),
    ("strip-comments", .switch .stripComments), ("format", .valued .format),
    ("validate", .switch .validate), ("config", .valued .settingsFile),
    ("verbose", .switch .verbose), ("help", .switch .help),
    ("version", .switch .version)]

/-- The options by their letters. -/
def shortOptions : List (Char × Choice) :=
  [('t', .valued .target), ('c', .valued .settingsFile),
    ('v', .switch .verbose), ('h', .switch .help), ('V', .switch .version)]

/-- Why the arguments do not describe a run. -/
inductive Refusal where
  | help
  | version
  | mistake
  deriving DecidableEq

namespace Arguments

def once {Value : Type} (present : Option Value) (value : Value) :
    Except Refusal (Option Value) :=
  match present with
  | none => .ok (some value)
  | some _ => .error .mistake

/-- A switch that is turned on once. -/
def turnOn (present : Bool) : Except Refusal Bool :=
  if present then .error .mistake else .ok true

/-- A path, which has at least one character. -/
def path (text : String) : Except Refusal String :=
  if text.isEmpty then .error .mistake else .ok text

/-- A value with a name. -/
def named {Value : Type} (value : Option Value) : Except Refusal Value :=
  match value with
  | some value => .ok value
  | none => .error .mistake

def give (arguments : Arguments) (option : ValueOption) (text : String) :
    Except Refusal Arguments := do
  match option with
  | .target =>
      let target ← named (Target.ofText? text)
      return { arguments with target := ← once arguments.target target }
  | .outputFile =>
      let file ← path text
      return { arguments with
        outputFile := ← once arguments.outputFile file }
  | .outputDirectory =>
      let directory ← path text
      return { arguments with
        outputDirectory := ← once arguments.outputDirectory directory }
  | .indent =>
      return { arguments with indent := ← once arguments.indent text }
  | .format =>
      let format ← named (Format.ofText? text)
      return { arguments with format := ← once arguments.format format }
  | .settingsFile =>
      let file ← path text
      return { arguments with
        settingsFile := ← once arguments.settingsFile file }

def turn (arguments : Arguments) (switch : Switch) :
    Except Refusal Arguments := do
  match switch with
  | .noIndent =>
      return { arguments with noIndent := ← turnOn arguments.noIndent }
  | .stripComments =>
      return { arguments with
        stripComments := ← turnOn arguments.stripComments }
  | .validate =>
      return { arguments with validate := ← turnOn arguments.validate }
  | .verbose =>
      return { arguments with verbose := ← turnOn arguments.verbose }
  | .help => .error .help
  | .version => .error .version

/-- The arguments with one more source file. -/
def addFile (arguments : Arguments) (text : String) :
    Except Refusal Arguments := do
  return { arguments with files := arguments.files ++ [← path text] }

/-- Whether an argument is an option, and not a value.  A dash alone is a
value. -/
def looksLikeOption : List Char → Bool
  | '-' :: _ :: _ => true
  | _ => false

/-- The letters of an argument: switches, and an option with a value as the
last one.  The rest of the argument is the value; without a rest the option
still waits for it. -/
def letters (arguments : Arguments) :
    List Char → Except Refusal (Arguments × Option ValueOption)
  | [] => .ok (arguments, none)
  | letter :: rest =>
      match shortOptions.lookup letter with
      | none => .error .mistake
      | some (.switch switch) => do
          letters (← arguments.turn switch) rest
      | some (.valued option) =>
          match rest with
          | [] => .ok (arguments, some option)
          | '=' :: value => do
              return (← arguments.give option (String.ofList value), none)
          | value => do
              return (← arguments.give option (String.ofList value), none)

/-- An argument after two dashes. -/
def longArgument (arguments : Arguments) (text : List Char) :
    Except Refusal (Arguments × Option ValueOption) :=
  let name := String.ofList (text.takeWhile (· != '='))
  match longOptions.lookup name, text.dropWhile (· != '=') with
  | none, _ => .error .mistake
  | some (.switch switch), [] => do
      return (← arguments.turn switch, none)
  | some (.switch _), _ :: _ => .error .mistake
  | some (.valued option), [] => .ok (arguments, some option)
  | some (.valued option), _ :: value => do
      return (← arguments.give option (String.ofList value), none)

/-- Reads the arguments after an option that waits for its value, if any. -/
def readFrom (arguments : Arguments) (waiting : Option ValueOption) :
    List String → Except Refusal Arguments
  | [] =>
      match waiting with
      | none => .ok arguments
      | some _ => .error .mistake
  | text :: others =>
      match waiting, text.toList with
      | none, ['-', '-'] => others.foldlM addFile arguments
      | none, '-' :: '-' :: name => do
          let (arguments, waiting) ← longArgument arguments name
          readFrom arguments waiting others
      | none, '-' :: first :: rest => do
          let (arguments, waiting) ← letters arguments (first :: rest)
          readFrom arguments waiting others
      | none, _ => do
          readFrom (← arguments.addFile text) none others
      | some option, characters =>
          if looksLikeOption characters then
            .error .mistake
          else do
            readFrom (← arguments.give option text) none others

def read (texts : List String) : Except Refusal Arguments := do
  let arguments ← readFrom {} none texts
  if arguments.noIndent && arguments.indent.isSome then
    .error .mistake
  else
    return arguments

end Arguments

end VelocityScript.Session
