import RoutineAtlas.Service.Tools

/-
This file answers the calls of a client. A tool call is answered with the tool's document as text,
and a call that cannot be served is answered with a code and a message.
-/

namespace RoutineAtlas

/-- A client calls a method with parameters. -/
structure ServiceCall where
  method : String
  parameters : Document

/-- A reply is a result or a refusal, which may give a reason beside its message. -/
inductive ServiceReply where
  | result (document : Document)
  | refusal (code : Int) (message : String) (reason : Option String := none)

/-- These parameters do not fit. -/
def invalidParameters : Int := -32602

/-- This method is not served. -/
def unknownMethod : Int := -32601

/-- The service failed on a call that fits. -/
def internalFailure : Int := -32603

/-- The reply is a record with one field. -/
def ServiceReply.document : ServiceReply → Document
  | .result document => .record [("result", document)]
  | .refusal code message reason =>
      .record [("error", .record ([("code", .number code), ("message", .text message)] ++
        optionalField "data" (reason.map fun text => .record [("reason", .text text)])))]

/-- A tool's fault is blamed on the parameters or on the service. -/
def ToolFault.reply (fault : ToolFault) : ServiceReply :=
  .refusal (if fault.isInputError then invalidParameters else internalFailure) fault.message

/-- The parameters of the tool could not be read. -/
def unreadableParameters : ServiceReply :=
  .refusal invalidParameters "failed to deserialize parameters"

/-- A tool's document is sent as the text of one content item. -/
def contentReply (document : Document) : ServiceReply :=
  .result (.record [
    ("content", .list [.record [("type", .text "text"), ("text", .text document.narrow)]]),
    ("isError", .bool false)])

/-- The service takes the blame for an answer that has no document. -/
def toolReply : Except AccessFault Document → ServiceReply
  | .ok document => contentReply document
  | .error fault =>
      .refusal internalFailure "fail to serialize response to json" (some fault.message)

/-- The service offers three tools. -/
inductive Tool where
  | environments
  | lookUpRoutine
  | answerTable
  deriving DecidableEq, Repr

/-- These are all tools in the order of their names. -/
def Tool.all : List Tool :=
  [.environments, .lookUpRoutine, .answerTable]

/-- This is the name under which a tool is called. -/
def Tool.label : Tool → String
  | .environments => "environments"
  | .lookUpRoutine => "find_routine"
  | .answerTable => "search_table"

/-- This is the tool of a name. -/
def Tool.named? (name : String) : Option Tool :=
  Tool.all.find? fun tool => tool.label == name

/-- A client is told what a tool is good for. -/
def Tool.description : Tool → String
  | .environments =>
      "Show the configured staging, production and standard roots, the classification cache " ++
        "size and the prefixes learned from the standard tree."
  | .lookUpRoutine =>
      "Locate a Protheus/ADVPL routine by name (e.g. U_PCMCTF43, MATA010) and classify it as " ++
        "standard or custom. The action selects extra output: locate, structure, report, " ++
        "source or git_status."
  | .answerTable =>
      "List routines that reference a table (e.g. SA1, PD3), ranked by usage category: browse, " ++
        "crud, query, report, integration, other. Standard routines are excluded unless " ++
        "include_standard is true."

/-- These are the tool's parameters in the order of their names. -/
def Tool.parameters : Tool → List String
  | .environments => ["discover"]
  | .lookUpRoutine => ["action", "environment", "root", "routine"]
  | .answerTable => ["environment", "include_standard", "max_results", "root", "table"]

/-- These parameters must be given. -/
def Tool.required : Tool → List String
  | .environments => []
  | .lookUpRoutine => ["routine"]
  | .answerTable => ["table"]

/-- A tool that requires nothing says so by a null. -/
def Tool.document (tool : Tool) : Document :=
  .record [("name", .text tool.label), ("description", .text tool.description),
    ("parameters", .texts tool.parameters),
    ("required", if tool.required.isEmpty then .null else .texts tool.required)]

/-- A tool reads its parameters before it runs. -/
def Atlas.runTool (atlas : Atlas) (host : Host) (tool : Tool) (parameters : Document) :
    ServiceReply × Atlas × Host :=
  match tool with
  | .lookUpRoutine =>
      match FindParameters.read parameters with
      | none => (unreadableParameters, atlas, host)
      | some asked =>
          match atlas.findTool host asked with
          | (.ok answer, later) => (toolReply (routineDocument answer), later)
          | (.error fault, later) => (fault.reply, later)
  | .answerTable =>
      match SearchParameters.read parameters with
      | none => (unreadableParameters, atlas, host)
      | some asked =>
          match atlas.searchTool host asked with
          | (.ok answer, later) => (toolReply (tableDocument answer), later, host)
          | (.error fault, later) => (fault.reply, later, host)
  | .environments =>
      match EnvironmentsParameters.read parameters with
      | none => (unreadableParameters, atlas, host)
      | some asked =>
          let (report, later) := atlas.environmentsTool host asked
          (toolReply report.document, later, host)

/-- The service introduces itself. -/
def introduction : Document :=
  .record [
    ("protocolVersion", .text "2024-11-05"),
    ("capabilities", .record [("tools", .record [])]),
    ("serverInfo", .record [("name", .text "sonda-mcp"), ("version", .text "0.1.0")]),
    ("instructions", .text
      ("Sonda locates Protheus/ADVPL routines and table usage in configured source trees. Use " ++
        "find_routine for one routine, search_table for a table, environments to check " ++
        "configuration."))]

/-- A tool call names the tool, and its arguments are a record that may be left out. -/
def Atlas.callTool (atlas : Atlas) (host : Host) (call : ServiceCall) :
    ServiceReply × Atlas × Host :=
  let refused := (ServiceReply.refusal unknownMethod call.method, atlas, host)
  match call.parameters with
  | .record fields =>
      match fields.lookup "name", fields.lookup "arguments" with
      | some (.text name), given =>
          let run (parameters : Document) : ServiceReply × Atlas × Host :=
            match Tool.named? name with
            | some tool => atlas.runTool host tool parameters
            | none => (.refusal invalidParameters "tool not found", atlas, host)
          match given with
          | none => run (.record [])
          | some .null => run (.record [])
          | some (.record parameters) => run (.record parameters)
          | some _ => refused
      | _, _ => refused
  | _ => refused

/-- Nothing is known that could complete a word. -/
def noCompletion : Document :=
  .record [("completion", .record [("values", .list [])])]

/-- A call is served by its method. What the service does not keep is answered by an empty list. -/
def Atlas.serve (atlas : Atlas) (host : Host) (call : ServiceCall) :
    ServiceReply × Atlas × Host :=
  let tell (document : Document) := (ServiceReply.result document, atlas, host)
  match call.method with
  | "initialize" => tell introduction
  | "ping" => tell (.record [])
  | "tools/list" => tell (.record [("tools", .list (Tool.all.map Tool.document))])
  | "tools/call" => atlas.callTool host call
  | "resources/list" => tell (.record [("resources", .list [])])
  | "resources/templates/list" => tell (.record [("resourceTemplates", .list [])])
  | "prompts/list" => tell (.record [("prompts", .list [])])
  | "completion/complete" => tell noCompletion
  | method => (.refusal unknownMethod method, atlas, host)

end RoutineAtlas
