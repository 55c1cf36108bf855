import VelocityScript.Output.Path

/-!
# Where templates are written

The templates of a source file go below the output directory, at the place of
the source file relative to the directory that all source files share.
-/

namespace VelocityScript.Output

/-- The longest list of components that both lists start with. -/
def commonComponents : List Component → List Component → List Component
  | first :: others, other :: more =>
      if first = other then
        first :: commonComponents others more
      else
        []
  | _, _ => []

/-- The components of the directory of a path: all but the last one.  The root
has none. -/
def directoryComponents (path : List Component) : List Component :=
  match path.getLast? with
  | some .root => []
  | _ => path.dropLast

/-- The components of the deepest directory that holds all paths. -/
def sharedComponents : List (List Component) → List Component
  | [] => []
  | first :: others => others.foldl commonComponents (directoryComponents first)

/-- The deepest directory that holds all paths. -/
def baseDirectory (paths : List String) : String :=
  String.ofList
    (Path.ofComponents
      (sharedComponents (paths.map fun path => Path.components path.toList)))

/-- The place of a source file relative to the base, or its name if it does
not lie below the base. -/
def relativePath (base source : List Char) : List Char :=
  (Path.relative? base source).getD ((Path.fileName? source).getD source)

/-- The extension of template files. -/
def extension : List Char := ['v', 't', 'l']

/-- The paths of the templates of one source file.  A source whose only
function is the default one gives one file next to its own place; otherwise
each function gives a file in a directory named after the source. -/
def plan
    (outputDirectory base source : String) (names : List String) :
    List String :=
  let place := relativePath base.toList source.toList
  if names = ["default"] then
    [String.ofList
      (Path.join outputDirectory.toList (Path.withExtension place extension))]
  else
    let directory :=
      Path.join outputDirectory.toList (Path.withExtension place [])
    names.map fun name =>
      String.ofList (Path.join directory (name.toList ++ '.' :: extension))

end VelocityScript.Output
