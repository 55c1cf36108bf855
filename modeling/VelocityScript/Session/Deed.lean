import VelocityScript.Output.Plan
import VelocityScript.Session.Configuration
import VelocityScript.Session.Warning
import VelocityScript.Template.Check
import VelocityScript.Transpile

/-!
# What a run does for its sources

The deeds of a run follow from its configuration and its sources alone.  A
source that has diagnostics, or that fails a check which was asked for, gives
reports; every other source gives its templates.
-/

namespace VelocityScript.Session

/-- One step of a run.  After `stop` nothing more is done. -/
inductive Deed where
  | print (text : String)
  | report (text : String)
  | warn (warning : Warning)
  | write (path content : String)
  | stop (error : ToolError)
  deriving DecidableEq

/-- A source and the templates it gives. -/
structure Job where
  source : SourceText
  outcome : Transpiled

namespace Job

/-- Transpiles a source. -/
def ofSource (target : Target) (source : SourceText) : Job :=
  ⟨source, transpile target source⟩

/-- What the check of a template finds, with the name of its function. -/
def findings (job : Job) : List (String × Template.Finding) :=
  job.outcome.files.flatMap fun file =>
    file.check.map fun finding => (file.name, finding)

/-- Whether the templates of a source are used. -/
def isClean (configuration : Configuration) (job : Job) : Bool :=
  job.outcome.isClean && (!configuration.validate || job.findings.isEmpty)

/-- The line that reports a finding. -/
def findingLine (path name : String) (finding : Template.Finding) : String :=
  path ++ ": " ++ name ++ ": " ++ finding.fault.message ++ " [" ++
    String.intercalate " > " (finding.trail.map Template.Kind.text) ++ "] (" ++
    finding.fault.code ++ ")\n"

/-- The reports of a source that is not clean.  Diagnostics in JSON wait for
the end of the run. -/
def reports (configuration : Configuration) (job : Job) : List Deed :=
  if job.outcome.isClean then
    job.findings.map fun (name, finding) =>
      .report (findingLine job.source.path name finding)
  else
    match configuration.format with
    | .text =>
        job.outcome.diagnostics.map fun diagnostic =>
          .report (diagnostic.excerpt (textLines job.source.text))
    | .json => []

/-- The steps that put the templates of a source where they go. -/
def emissions (configuration : Configuration) (base : String) (job : Job) :
    List Deed :=
  let templates := job.outcome.render configuration.layout
  match configuration.destination with
  | .output => templates.map fun (_, template) => .print (template ++ "\n")
  | .file path =>
      match templates with
      | [] => [.warn (.noFunctions job.source.path)]
      | [(_, template)] => [.write path template]
      | _ => [.stop (.severalFunctions job.source.path templates.length)]
  | .directory directory =>
      List.zipWith (fun path (_, template) => .write path template)
        (Output.plan directory base job.source.path (templates.map Prod.fst))
        templates

/-- The steps for one source. -/
def deeds (configuration : Configuration) (base : String) (job : Job) :
    List Deed :=
  if job.isClean configuration then
    job.emissions configuration base
  else
    job.reports configuration

end Job

/-- The JSON report of all diagnostics, where that was asked for. -/
def finalReport (configuration : Configuration) (jobs : List Job) : List Deed :=
  match configuration.format with
  | .text => []
  | .json =>
      [.report
        (Diagnostic.report (jobs.flatMap (·.outcome.diagnostics)) ++ "\n")]

/-- The warnings for the imports of all sources. -/
def importDeeds (jobs : List Job) : List Deed :=
  jobs.flatMap fun job => (importWarnings job.source).map .warn

/-- The steps of a run.  All sources are transpiled before anything is done for
one of them. -/
def deeds (configuration : Configuration) (jobs : List Job) : List Deed :=
  let base := Output.baseDirectory (jobs.map (·.source.path))
  importDeeds jobs ++ jobs.flatMap (·.deeds configuration base) ++
    finalReport configuration jobs

end VelocityScript.Session
