import RoutineAtlas.CommandLine.Display
import RoutineAtlas.CommandLine.Guide
import RoutineAtlas.Configuration.Override

/-
This file runs the command line. Whatever is not found is told as an answer, and it leaves another
status than what fails.
-/

namespace RoutineAtlas

/-- The process ends well, fails, or ends without having found anything. -/
inductive ExitStatus where
  | success
  | failure
  | negative
  deriving DecidableEq, Repr

/-- This is the number of an exit status. -/
def ExitStatus.code : ExitStatus → Nat
  | .success => 0
  | .failure => 1
  | .negative => 2

/-- A process sees its arguments and variables, which need not be text, and its host. -/
structure CommandContext where
  host : Host
  processVariable : String → Option Bytes
  arguments : List Bytes

/-- A process writes output and error messages before it ends. A fault may have ended it. -/
structure CommandResult where
  status : ExitStatus
  output : String
  errors : String
  fault : Option Fault

/-- Colours are for those who insist on them. -/
def CommandContext.isColoured (context : CommandContext) : Bool :=
  ((context.processVariable "CLICOLOR_FORCE").bind readUtf8).any (· != "0")

/-- An answer is written, and it tells whether anything was found. -/
def CommandResult.answer (found : Bool) (output : String) : CommandResult where
  status := if found then .success else .negative
  output := output
  errors := ""
  fault := none

/-- Arguments that are refused leave the status of a negative answer and no output. -/
def CommandResult.refused : CommandResult where
  status := .negative
  output := ""
  errors := helpText none
  fault := none

/-- A fault is told on the error messages. -/
def faultLine (fault : Fault) : Page :=
  [[(Style.bold .red).piece "error", .plain (": " ++ fault.message)]]

/-- The fault of a file has a cause of its own. -/
def causeLine : Fault → Page
  | .access cause => [[.plain "  ", Style.dim.piece "caused by", .plain (": " ++ cause.message)]]
  | _ => []

/-- A process fails, and it may tell the cause of its fault. -/
def CommandResult.failed (isColoured tellsCause : Bool) (fault : Fault) : CommandResult where
  status := .failure
  output := ""
  errors := Page.write isColoured
    (faultLine fault ++ if tellsCause then causeLine fault else [])
  fault := some fault

/-- A document ends with a line feed. -/
def documentText (document : Document) : String :=
  document.wide ++ "\n"

/-- An answer is written as a document or as a text, and an answer without a document cannot be
written as one. -/
def CommandResult.told (found isJson : Bool) (document : Except AccessFault Document)
    (text : String) : Except Fault CommandResult :=
  if isJson then
    match document with
    | .ok written => .ok (.answer found (documentText written))
    | .error fault => .error (.access fault)
  else .ok (.answer found text)

/-- A request reads its tokens and asks the atlas. It leaves the host with its files. -/
def CommandRequest.perform (request : CommandRequest) (atlas : Atlas) (host : Host)
    (isJson isColoured : Bool) : Except Fault CommandResult × Host :=
  match request with
  | .routine name environmentToken root actionToken =>
      let asked : Except Fault RoutineQuery := do
        let environment ← Environment.parse environmentToken
        let aspect ← RoutineAspect.parse actionToken
        pure { routine := name, environment, root, aspect }
      match asked with
      | .error fault => (.error fault, host)
      | .ok query =>
          let (answered, _, later) := atlas.answerRoutine host query
          (answered.bind fun answer =>
            CommandResult.told answer.isPositive isJson (routineDocument answer)
              (answer.routineText isColoured),
            later)
  | .table name environmentToken root includeStandard maxResults =>
      let result : Except Fault CommandResult := do
        let environment ← Environment.parse environmentToken
        let asked : TableQuery :=
          { table := name, environment, root, includeStandard, maxResults }
        let answer ← (atlas.answerTable host asked).1
        CommandResult.told answer.isPositive isJson (tableDocument answer)
          (answer.tableText isColoured asked)
      (result, host)
  | .environments discover =>
      let report : AtlasReport := {
        environments := atlas.environments host.tree
        classifier :=
          if discover then some (atlas.discover host.tree).2.classifier.counts else none }
      (CommandResult.told true isJson report.document (report.text isColoured), host)

/-- The setting of a process is looked up by its variable. -/
def CommandContext.setting? (context : CommandContext) (setting : Setting) : Option Bytes :=
  context.processVariable setting.variable

/-- The arguments are read before the configuration, and the configuration before all else. -/
def CommandContext.run (context : CommandContext) : CommandResult × Host :=
  let host := context.host
  match Invocation.read context.arguments with
  | .error (.help level) => (.answer true (helpText level), host)
  | .error (.version level) => (.answer true (versionText level), host)
  | .error .refused => (.refused, host)
  | .ok invocation =>
      match Configuration.ofProcess host.tree context.setting? invocation.configuration with
      | .error fault => (.failed context.isColoured false fault, host)
      | .ok configuration =>
          match invocation.request.perform (.new configuration) host invocation.isJson
              context.isColoured with
          | (.error fault, later) => (.failed context.isColoured true fault, later)
          | (.ok result, later) => (result, later)

end RoutineAtlas
