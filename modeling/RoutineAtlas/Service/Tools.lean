import RoutineAtlas.Document.Encoding
import RoutineAtlas.Service.Parameters

/-
This file runs the tools of the service. A tool reads its tokens before it asks the atlas.
-/

namespace RoutineAtlas

/-- A token may be missing or unknown. -/
inductive ToolToken where
  | environment
  | action
  deriving DecidableEq, Repr

/-- This is the parameter that holds the token. -/
def ToolToken.label : ToolToken → String
  | .environment => "environment"
  | .action => "action"

/-- These are the accepted spellings of the token. -/
def ToolToken.accepted : ToolToken → String
  | .environment => environmentTokens
  | .action => actionTokens

/-- A tool fails because of a token, or because its query fails. -/
inductive ToolFault where
  | token (which : ToolToken) (typed : String)
  | query (fault : Fault)
  deriving DecidableEq, Repr

/-- The message about a token quotes it as it was typed. -/
def ToolFault.message : ToolFault → String
  | .token which typed =>
      "Invalid " ++ which.label ++ ": '" ++ typed ++ "'. Valid values: " ++ which.accepted
  | .query fault => fault.message

/-- A fault about a token is an input error. -/
def ToolFault.isInputError : ToolFault → Bool
  | .token _ _ => true
  | .query fault => fault.isInputError

/-- A missing token is read like an empty one. -/
def readEnvironmentToken (token : Option String) : Except ToolFault Environment :=
  let typed := token.getD ""
  (Environment.parse typed).mapError fun _ => .token .environment typed

/-- A missing token is read like an empty one. -/
def readAspectToken (token : Option String) : Except ToolFault RoutineAspect :=
  let typed := token.getD ""
  (RoutineAspect.parse typed).mapError fun _ => .token .action typed

/-- The query of a lookup has both tokens read, the environment first. -/
def FindParameters.query (parameters : FindParameters) : Except ToolFault RoutineQuery := do
  let environment ← readEnvironmentToken parameters.environment
  let aspect ← readAspectToken parameters.action
  pure { routine := parameters.routine, environment, root := parameters.root, aspect }

/-- The query of a search leaves out the vendor's routines if nothing is said. -/
def SearchParameters.query (parameters : SearchParameters) : Except ToolFault TableQuery := do
  let environment ← readEnvironmentToken parameters.environment
  pure {
    table := parameters.table
    environment
    root := parameters.root
    includeStandard := parameters.includeStandard.getD false
    maxResults := parameters.maxResults }

/-- This tool finds a routine. -/
def Atlas.findTool (atlas : Atlas) (host : Host) (parameters : FindParameters) :
    Except ToolFault (Answer RoutineFacts) × Atlas × Host :=
  match parameters.query with
  | .error fault => (.error fault, atlas, host)
  | .ok query =>
      let (answer, later) := atlas.answerRoutine host query
      (answer.mapError .query, later)

/-- This tool searches for a table. -/
def Atlas.searchTool (atlas : Atlas) (host : Host) (parameters : SearchParameters) :
    Except ToolFault (Answer (List UsageRow)) × Atlas :=
  match parameters.query with
  | .error fault => (.error fault, atlas)
  | .ok query =>
      let (answer, later) := atlas.answerTable host query
      (answer.mapError .query, later)

/-- The environments are told together with the state of the classifier. -/
structure AtlasReport where
  environments : List EnvironmentEntry
  classifier : Option ClassifierCounts
  deriving DecidableEq, Repr

/-- A report without the classifier has no field for it. -/
def AtlasReport.document (report : AtlasReport) : Except AccessFault Document := do
  let environments ← report.environments.mapM EnvironmentEntry.document
  pure (.record ([("environments", .list environments)] ++
    optionalField "classifier" (report.classifier.map ClassifierCounts.document)))

/-- This tool tells the environments, and learns the leads first if it is asked to. -/
def Atlas.environmentsTool (atlas : Atlas) (host : Host) (parameters : EnvironmentsParameters) :
    AtlasReport × Atlas :=
  let later := if parameters.discover then (atlas.discover host.tree).2 else atlas
  ({ environments := later.environments host.tree, classifier := some later.classifier.counts },
    later)

end RoutineAtlas
