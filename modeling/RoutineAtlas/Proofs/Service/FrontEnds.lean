import RoutineAtlas.CommandLine.Run
import RoutineAtlas.Proofs.Document.Reading
import RoutineAtlas.Proofs.Files.Listing
import RoutineAtlas.Proofs.Lookup.Time
import RoutineAtlas.Proofs.Lookup.Verdict
import RoutineAtlas.Proofs.Service.Envelope
import RoutineAtlas.Proofs.Service.Parameters
import RoutineAtlas.Service.Exchange
import Mathlib.Control.Monad.Basic

/-
This file compares the three front ends: the answers of an atlas, the command line and the tools of
the service. For one request they tell the same answer, or they fail for the same fault.
-/

namespace RoutineAtlas

/-- The tokens of a request for a routine are read, the environment first. -/
def askedRoutine (name environment : String) (root : Option PathName) (action : String) :
    Except Fault RoutineQuery := do
  let environment ← Environment.parse environment
  let aspect ← RoutineAspect.parse action
  pure { routine := name, environment, root, aspect }

/-- The token of a request for a table is read. -/
def askedTable (name environment : String) (root : Option PathName) (includeStandard : Bool)
    (maxResults : Option Nat) : Except Fault TableQuery := do
  let environment ← Environment.parse environment
  pure { table := name, environment, root, includeStandard, maxResults }

/-- The library answers a request for a routine once its tokens are read. -/
def Atlas.askRoutine (atlas : Atlas) (host : Host) (name environment : String)
    (root : Option PathName) (action : String) : Except Fault (Answer RoutineFacts) :=
  (askedRoutine name environment root action).bind fun query => (atlas.answerRoutine host query).1

/-- The library answers a request for a table once its token is read. -/
def Atlas.askTable (atlas : Atlas) (host : Host) (name environment : String)
    (root : Option PathName) (includeStandard : Bool) (maxResults : Option Nat) :
    Except Fault (Answer (List UsageRow)) :=
  (askedTable name environment root includeStandard maxResults).bind fun query =>
    (atlas.answerTable host query).1

/-- The library answers a request for a routine the same way at any time. -/
theorem Atlas.askRoutine_at (atlas : Atlas) (host : Host) (instant : Int)
    (name environment : String) (root : Option PathName) (action : String) :
    (∃ fault, atlas.askRoutine host name environment root action = .error fault ∧
      atlas.askRoutine (host.at instant) name environment root action = .error fault) ∨
    ∃ answer other, atlas.askRoutine host name environment root action = .ok answer ∧
      atlas.askRoutine (host.at instant) name environment root action = .ok other ∧
      answer.SameButForTime other := by
  rw [Atlas.askRoutine, Atlas.askRoutine]
  cases askedRoutine name environment root action with
  | error fault => exact Or.inl ⟨fault, rfl, rfl⟩
  | ok query => exact atlas.answerRoutine_at host instant query

/-- The library answers a request for a table without asking for the time. -/
theorem Atlas.askTable_at (atlas : Atlas) (host : Host) (instant : Int)
    (name environment : String) (root : Option PathName) (includeStandard : Bool)
    (maxResults : Option Nat) :
    atlas.askTable (host.at instant) name environment root includeStandard maxResults =
      atlas.askTable host name environment root includeStandard maxResults := by
  simp only [Atlas.askTable, Atlas.answerTable_at]

/-- The answer to a request for a table is made of a search. -/
theorem Atlas.exists_search_of_askTable {atlas : Atlas} {host : Host} {name environment : String}
    {root : Option PathName} {includeStandard : Bool} {maxResults : Option Nat}
    {answer : Answer (List UsageRow)}
    (told : atlas.askTable host name environment root includeStandard maxResults = .ok answer) :
    ∃ place search, answer = tableAnswer place search := by
  obtain ⟨query, _, told⟩ := exists_of_bind_eq_ok told
  obtain ⟨fault, _, failed⟩ | ⟨table, place, searches⟩ := atlas.refusesTable_or_searches host query
  · rw [failed] at told
    exact absurd told (by simp)
  · obtain ⟨search, _, _, answered⟩ := searches.exists_search
    rw [answered] at told
    exact ⟨place, search, (Except.ok.inj told).symm⟩

/-- An answer for a table tells a success exactly when it has rows, and so does its document. -/
structure TellsOfRows (answer : Answer (List UsageRow)) : Prop where
  rows : answer.isPositive = true ↔ ∃ row rows, answer.data? = some (row :: rows)
  document : ∀ document, tableDocument answer = .ok document →
    (document.field? "success" = some (.bool true) ↔ document.HasRows)

theorem tellsOfRows_tableAnswer (place : NamedRoot) (search : UsageSearch) :
    TellsOfRows (tableAnswer place search) where
  rows := by
    simp only [isPositive_tableAnswer, data_tableAnswer_eq_some_iff]
    constructor
    · intro there
      obtain ⟨row, rows, split⟩ := List.exists_cons_of_ne_nil there
      exact ⟨row, rows, split, List.cons_ne_nil row rows⟩
    · rintro ⟨row, rows, split, filled⟩
      rwa [split]
  document document made := by
    rw [hasRows_tableAnswer made, ← isPositive_tableAnswer place,
      (Answer.hasFields_of_document made).success]
    simp

/-- This is what a process writes for a request when its atlas is there. -/
def CommandRequest.result (request : CommandRequest) (atlas : Atlas) (host : Host)
    (isJson isColoured : Bool) : CommandResult :=
  match (request.perform atlas host isJson isColoured).1 with
  | .ok result => result
  | .error fault => .failed isColoured true fault

/-- A process whose arguments are read does what its request asks for, once it has its
configuration. -/
theorem CommandContext.run_eq {context : CommandContext} {invocation : Invocation}
    (read : Invocation.read context.arguments = .ok invocation) {configuration : Configuration}
    (configured : Configuration.ofProcess context.host.tree context.setting?
      invocation.configuration = .ok configuration) :
    context.run.1 = invocation.request.result (.new configuration) context.host invocation.isJson
      context.isColoured := by
  rw [CommandContext.run, read]
  dsimp only
  rw [configured]
  dsimp only
  rw [CommandRequest.result]
  rcases invocation.request.perform (.new configuration) context.host invocation.isJson
    context.isColoured with ⟨result, later⟩
  cases result with
  | error fault => rfl
  | ok result => rfl

/-- A process without a configuration fails. -/
theorem CommandContext.code_of_fault {context : CommandContext} {invocation : Invocation}
    (read : Invocation.read context.arguments = .ok invocation) {fault : Fault}
    (unconfigured : Configuration.ofProcess context.host.tree context.setting?
      invocation.configuration = .error fault) : context.run.1.status.code = 1 := by
  rw [CommandContext.run, read]
  dsimp only
  rw [unconfigured]
  rfl

/-- A printed document is read back. -/
theorem read_documentText (document : Document) :
    Document.read (documentText document) = some document :=
  Document.read_write_append { isWide := true, depth := 0 } document (by simp [isDocumentBlank])

theorem CommandResult.code_answer (found : Bool) (output : String) :
    (CommandResult.answer found output).status.code = if found then 0 else 2 := by
  cases found <;> rfl

/-- This is what a process writes of an answer, or of a fault. -/
def CommandResult.ofAsked {A : Type} (isJson isColoured : Bool)
    (document : Answer A → Except AccessFault Document) (text : Answer A → String) :
    Except Fault (Answer A) → CommandResult
  | .ok answer =>
      match CommandResult.told answer.isPositive isJson (document answer) (text answer) with
      | .ok result => result
      | .error fault => .failed isColoured true fault
  | .error fault => .failed isColoured true fault

/-- An answer that has a document is told as a text or as the document. -/
theorem CommandResult.ofAsked_of_document {A : Type}
    {encode : Answer A → Except AccessFault Document} {answer : Answer A} {document : Document}
    (made : encode answer = .ok document) (isJson isColoured : Bool) (text : Answer A → String) :
    (ofAsked isJson isColoured encode text (.ok answer)).status.code =
        (if answer.isPositive then 0 else 2) ∧
      (isJson = true →
        Document.read (ofAsked isJson isColoured encode text (.ok answer)).output =
          some document) := by
  rw [ofAsked, made]
  cases isJson with
  | true => exact ⟨code_answer .., fun _ => read_documentText document⟩
  | false => exact ⟨code_answer .., by simp⟩

/-- An answer that has no document is told as a text, and the document is refused. -/
theorem CommandResult.ofAsked_of_refused {A : Type}
    {encode : Answer A → Except AccessFault Document} {answer : Answer A} {cause : AccessFault}
    (refused : encode answer = .error cause) (isJson isColoured : Bool)
    (text : Answer A → String) :
    (ofAsked isJson isColoured encode text (.ok answer)).status.code =
        (if isJson then 1 else if answer.isPositive then 0 else 2) ∧
      (isJson = true →
        (ofAsked isJson isColoured encode text (.ok answer)).fault = some (.access cause)) := by
  rw [ofAsked, refused]
  cases isJson with
  | true => exact ⟨rfl, fun _ => rfl⟩
  | false => exact ⟨code_answer .., by simp⟩

/-- A command for a routine writes the answer of the library, or it fails for the fault. -/
theorem CommandRequest.result_routine (atlas : Atlas) (host : Host) (isJson isColoured : Bool)
    (name environment : String) (root : Option PathName) (action : String) :
    (CommandRequest.routine name environment root action).result atlas host isJson isColoured =
      .ofAsked isJson isColoured routineDocument (Answer.routineText isColoured)
        (atlas.askRoutine host name environment root action) := by
  rw [CommandRequest.result, CommandRequest.perform]
  simp only [Atlas.askRoutine, askedRoutine, bind, pure, Except.bind, Except.pure]
  cases Environment.parse environment with
  | error fault => rfl
  | ok place =>
      cases RoutineAspect.parse action with
      | error fault => rfl
      | ok aspect =>
          dsimp only
          cases (atlas.answerRoutine host
              { routine := name, environment := place, root, aspect }).1 with
          | error fault => rfl
          | ok answer => rfl

/-- A command for a table writes the answer of the library, or it fails for the fault. -/
theorem CommandRequest.result_table (atlas : Atlas) (host : Host) (isJson isColoured : Bool)
    (name environment : String) (root : Option PathName) (includeStandard : Bool)
    (maxResults : Option Nat) :
    ∃ text : Answer (List UsageRow) → String,
      (CommandRequest.table name environment root includeStandard maxResults).result atlas host
          isJson isColoured =
        .ofAsked isJson isColoured tableDocument text
          (atlas.askTable host name environment root includeStandard maxResults) := by
  rw [CommandRequest.result, CommandRequest.perform]
  simp only [Atlas.askTable, askedTable, bind, pure, Except.bind, Except.pure]
  cases Environment.parse environment with
  | error fault => exact ⟨fun _ => "", rfl⟩
  | ok place =>
      refine ⟨fun answer => answer.tableText isColoured
        { table := name, environment := place, root, includeStandard, maxResults }, ?_⟩
      dsimp only
      cases (atlas.answerTable host
          { table := name, environment := place, root, includeStandard, maxResults }).1 with
      | error fault => rfl
      | ok answer => rfl

/-- A token of an environment is refused as an input. -/
theorem Environment.isInputError_of_parse {token : String} {fault : Fault}
    (rejected : Environment.parse token = .error fault) : fault.isInputError = true := by
  rw [Environment.parse] at rejected
  repeat' split at rejected
  -- Only the last branch refuses the token.
  all_goals cases rejected
  rfl

/-- A token of an action is refused as an input. -/
theorem RoutineAspect.isInputError_of_parse {token : String} {fault : Fault}
    (rejected : RoutineAspect.parse token = .error fault) : fault.isInputError = true := by
  rw [RoutineAspect.parse] at rejected
  repeat' split at rejected
  -- Only the last branch refuses the token.
  all_goals cases rejected
  rfl

/-- A missing token of an environment is read like the usual one of the command line. -/
theorem Environment.parse_getD (token : Option String) :
    Environment.parse (token.getD "") = Environment.parse (token.getD "auto") := by
  have empty : Environment.parse "" = .ok .auto := by decide
  have usual : Environment.parse "auto" = .ok .auto := by decide
  cases token with
  | none => exact empty.trans usual.symm
  | some typed => rfl

/-- A missing token of an action is read like the usual one of the command line. -/
theorem RoutineAspect.parse_getD (token : Option String) :
    RoutineAspect.parse (token.getD "") = RoutineAspect.parse (token.getD "locate") := by
  have empty : RoutineAspect.parse "" = .ok .locate := by decide +kernel
  have usual : RoutineAspect.parse "locate" = .ok .locate := by decide +kernel
  cases token with
  | none => exact empty.trans usual.symm
  | some typed => rfl

/-- The parameters of the tool for routines ask for what a command asks for, or both are refused
for a token. -/
theorem FindParameters.query_cases (parameters : FindParameters) :
    (∃ query, askedRoutine parameters.routine (parameters.environment.getD "auto") parameters.root
        (parameters.action.getD "locate") = .ok query ∧ parameters.query = .ok query) ∨
    ∃ fault toolFault, askedRoutine parameters.routine (parameters.environment.getD "auto")
        parameters.root (parameters.action.getD "locate") = .error fault ∧
      parameters.query = .error toolFault ∧
      toolFault.isInputError = true ∧ fault.isInputError = true := by
  simp only [askedRoutine, FindParameters.query, readEnvironmentToken, readAspectToken,
    Environment.parse_getD, RoutineAspect.parse_getD, bind, pure, Except.bind, Except.pure]
  cases place : Environment.parse (parameters.environment.getD "auto") with
  | error fault =>
      exact Or.inr ⟨fault, _, rfl, rfl, rfl, Environment.isInputError_of_parse place⟩
  | ok environment =>
      cases detail : RoutineAspect.parse (parameters.action.getD "locate") with
      | error fault =>
          exact Or.inr ⟨fault, _, rfl, rfl, rfl, RoutineAspect.isInputError_of_parse detail⟩
      | ok aspect => exact Or.inl ⟨_, rfl, rfl⟩

/-- The parameters of the tool for tables ask for what a command asks for, or both are refused for
the token. -/
theorem SearchParameters.query_cases (parameters : SearchParameters) :
    (∃ query, askedTable parameters.table (parameters.environment.getD "auto") parameters.root
        (parameters.includeStandard.getD false) parameters.maxResults = .ok query ∧
      parameters.query = .ok query) ∨
    ∃ fault toolFault, askedTable parameters.table (parameters.environment.getD "auto")
        parameters.root (parameters.includeStandard.getD false) parameters.maxResults =
          .error fault ∧
      parameters.query = .error toolFault ∧
      toolFault.isInputError = true ∧ fault.isInputError = true := by
  simp only [askedTable, SearchParameters.query, readEnvironmentToken, Environment.parse_getD, bind,
    pure, Except.bind, Except.pure]
  cases place : Environment.parse (parameters.environment.getD "auto") with
  | error fault =>
      exact Or.inr ⟨fault, _, rfl, rfl, rfl, Environment.isInputError_of_parse place⟩
  | ok environment => exact Or.inl ⟨_, rfl, rfl⟩

/-- The reply refuses the parameters for an input error, and for any other fault the service takes
the blame. -/
def ServiceReply.Blames (reply : ServiceReply) (fault : Fault) : Prop :=
  ∃ code message reason, reply = .refusal code message reason ∧
    (code = invalidParameters ↔ fault.isInputError = true)

theorem ToolFault.blames {toolFault : ToolFault} {fault : Fault}
    (same : toolFault.isInputError = fault.isInputError) : toolFault.reply.Blames fault := by
  refine ⟨_, _, _, rfl, ?_⟩
  rw [same]
  cases fault.isInputError with
  | true => simp
  | false => simp [invalidParameters, internalFailure]

/-- The service takes the blame for an answer that has no document. -/
theorem blames_toolReply (fault : AccessFault) :
    (toolReply (.error fault)).Blames (.access fault) :=
  ⟨_, _, _, rfl, by simp [invalidParameters, internalFailure, Fault.isInputError]⟩

/-- The reply sends a document as the text of one content item. -/
def ServiceReply.Sends (reply : ServiceReply) (document : Document) : Prop :=
  ∃ text : String, Document.read text = some document ∧
    reply = .result (.record [
      ("content", .list [.record [("type", .text "text"), ("text", .text text)]]),
      ("isError", .bool false)])

theorem sends_toolReply (document : Document) : (toolReply (.ok document)).Sends document :=
  ⟨document.narrow, document.read_narrow, rfl⟩

/-- The tool for routines replies with the answer of the library, or it blames the fault. -/
theorem Atlas.runTool_lookUpRoutine (atlas : Atlas) (host : Host) {document : Document}
    {parameters : FindParameters} (given : FindParameters.read document = some parameters)
    {told : Except Fault (Answer RoutineFacts)}
    (asked : atlas.askRoutine host parameters.routine (parameters.environment.getD "auto")
      parameters.root (parameters.action.getD "locate") = told) :
    (∃ answer, told = .ok answer ∧
      (atlas.runTool host .lookUpRoutine document).1 = toolReply (routineDocument answer)) ∨
    ∃ fault, told = .error fault ∧ (atlas.runTool host .lookUpRoutine document).1.Blames fault := by
  obtain ⟨query, read, own⟩ | ⟨fault, toolFault, read, own, blamed, input⟩ :=
    parameters.query_cases
  · rw [Atlas.askRoutine, read, Except.bind] at asked
    rw [Atlas.runTool, given]
    dsimp only
    rw [Atlas.findTool, own]
    dsimp only at asked ⊢
    generalize atlas.answerRoutine host query = result at asked ⊢
    obtain ⟨answer, later⟩ := result
    cases answer with
    | error fault => exact Or.inr ⟨fault, asked.symm, ToolFault.blames rfl⟩
    | ok answer => exact Or.inl ⟨answer, asked.symm, rfl⟩
  · rw [Atlas.askRoutine, read, Except.bind] at asked
    rw [Atlas.runTool, given]
    dsimp only
    rw [Atlas.findTool, own]
    exact Or.inr ⟨fault, asked.symm, ToolFault.blames (blamed.trans input.symm)⟩

/-- The tool for tables replies with the answer of the library, or it blames the fault. -/
theorem Atlas.runTool_answerTable (atlas : Atlas) (host : Host) {document : Document}
    {parameters : SearchParameters} (given : SearchParameters.read document = some parameters)
    {told : Except Fault (Answer (List UsageRow))}
    (asked : atlas.askTable host parameters.table (parameters.environment.getD "auto")
      parameters.root (parameters.includeStandard.getD false) parameters.maxResults = told) :
    (∃ answer, told = .ok answer ∧
      (atlas.runTool host .answerTable document).1 = toolReply (tableDocument answer)) ∨
    ∃ fault, told = .error fault ∧ (atlas.runTool host .answerTable document).1.Blames fault := by
  obtain ⟨query, read, own⟩ | ⟨fault, toolFault, read, own, blamed, input⟩ :=
    parameters.query_cases
  · rw [Atlas.askTable, read, Except.bind] at asked
    rw [Atlas.runTool, given]
    dsimp only
    rw [Atlas.searchTool, own]
    dsimp only at asked ⊢
    generalize atlas.answerTable host query = result at asked ⊢
    obtain ⟨answer, later⟩ := result
    cases answer with
    | error fault => exact Or.inr ⟨fault, asked.symm, ToolFault.blames rfl⟩
    | ok answer => exact Or.inl ⟨answer, asked.symm, rfl⟩
  · rw [Atlas.askTable, read, Except.bind] at asked
    rw [Atlas.runTool, given]
    dsimp only
    rw [Atlas.searchTool, own]
    exact Or.inr ⟨fault, asked.symm, ToolFault.blames (blamed.trans input.symm)⟩

/-- The three front ends agree when they tell answers that are alike, or all fail for one fault. An
answer with a path that is no text has no document, and then only those fail that need one. -/
inductive FrontEndsAgree {A : Type} (alike : Answer A → Answer A → Prop)
    (paths : Answer A → List PathName) (encode : Answer A → Except AccessFault Document)
    (isJson : Bool) (library : Except Fault (Answer A)) (command : CommandResult)
    (replies : ServiceReply → Prop) : Prop
  | answer {told printed sent : Answer A} {document : Document} (library : library = .ok told)
      (text : ∀ path ∈ paths told, path.IsText)
      (own : encode told = .ok document) (consistent : document.IsConsistent)
      (printedAlike : alike told printed) (sentAlike : alike told sent)
      (code : command.status.code = if told.isPositive then 0 else 2)
      (output : isJson = true → ∃ document, encode printed = .ok document ∧
        Document.read command.output = some document)
      (reply : ∀ reply, replies reply → ∃ document, encode sent = .ok document ∧
        reply.Sends document)
  | unwritten {told : Answer A} {path : PathName} (library : library = .ok told)
      (listed : path ∈ paths told) (noText : ¬ path.IsText)
      (own : encode told = .error .pathNotUtf8)
      (code : command.status.code = if isJson then 1 else if told.isPositive then 0 else 2)
      (fails : isJson = true → command.fault = some (.access .pathNotUtf8))
      (blames : ∀ reply, replies reply → reply.Blames (.access .pathNotUtf8))
  | fault {fault : Fault} (library : library = .error fault)
      (code : command.status.code = 1) (own : command.fault = some fault)
      (blames : ∀ reply, replies reply → reply.Blames fault)

/-- Answers that say the same but for the time have the same paths. -/
theorem Answer.SameButForTime.paths_eq {answer other : Answer RoutineFacts}
    (same : answer.SameButForTime other) : routinePaths answer = routinePaths other := by
  have data := same.data
  rw [routinePaths, routinePaths, Answer.paths, Answer.paths, same.provenance, same.account]
  generalize answer.data? = first at data ⊢
  generalize other.data? = second at data ⊢
  cases data with
  | some alike => simp [alike.2.1]
  | none => rfl

/-- Two requests end with answers that are alike, or with one fault. -/
def EndsAlike {A : Type} (alike : Answer A → Answer A → Prop)
    (first second : Except Fault (Answer A)) : Prop :=
  (∃ fault, first = .error fault ∧ second = .error fault) ∨
    ∃ answer other, first = .ok answer ∧ second = .ok other ∧ alike answer other

/-- The front ends agree when the command and the tool ask for what the library is asked. -/
theorem FrontEndsAgree.of_endsAlike {A : Type} {alike : Answer A → Answer A → Prop}
    {paths : Answer A → List PathName} {encode : Answer A → Except AccessFault Document}
    {library shown replied : Except Fault (Answer A)} {replies : ServiceReply → Prop}
    (needs : ∀ answer, NeedsText (paths answer) (encode answer))
    (consistent : ∀ {answer document}, encode answer = .ok document → document.IsConsistent)
    (same : ∀ {answer other}, alike answer other →
      paths answer = paths other ∧ answer.isPositive = other.isPositive)
    (shownAlike : EndsAlike alike library shown) (repliedAlike : EndsAlike alike library replied)
    (reply : ∀ reply, replies reply →
      (∃ answer, replied = .ok answer ∧ reply = toolReply (encode answer)) ∨
        ∃ fault, replied = .error fault ∧ reply.Blames fault)
    (isJson isColoured : Bool) (text : Answer A → String) :
    FrontEndsAgree alike paths encode isJson library
      (.ofAsked isJson isColoured encode text shown) replies := by
  obtain ⟨fault, failed, rfl⟩ | ⟨told, printed, found, rfl, printedAlike⟩ := shownAlike
  · obtain ⟨fault', again, rfl⟩ | ⟨_, _, impossible, _⟩ := repliedAlike
    · obtain rfl := Except.error.inj (failed.symm.trans again)
      refine .fault failed rfl rfl fun answered replied => ?_
      obtain ⟨_, impossible, _⟩ | ⟨cause, own, blames⟩ := reply answered replied
      · exact absurd impossible (by simp)
      · obtain rfl := Except.error.inj own
        exact blames
    · exact absurd (failed.symm.trans impossible) (by simp)
  · obtain ⟨_, impossible, _⟩ | ⟨told', sent, again, rfl, sentAlike⟩ := repliedAlike
    · exact absurd (found.symm.trans impossible) (by simp)
    · obtain rfl := Except.ok.inj (found.symm.trans again)
      obtain ⟨samePaths, positive⟩ := same printedAlike
      have answers : ∀ answered, replies answered → answered = toolReply (encode sent) := by
        intro answered replied
        obtain ⟨answer, own, tool⟩ | ⟨_, impossible, _⟩ := reply answered replied
        · obtain rfl := Except.ok.inj own
          exact tool
        · exact absurd impossible (by simp)
      by_cases texts : ∀ path ∈ paths told, path.IsText
      · obtain ⟨document, own⟩ := (needs told).exists_of_text texts
        obtain ⟨shown, written⟩ := (needs printed).exists_of_text (samePaths ▸ texts)
        obtain ⟨passed, sentOwn⟩ := (needs sent).exists_of_text ((same sentAlike).1 ▸ texts)
        obtain ⟨code, output⟩ := CommandResult.ofAsked_of_document written isJson isColoured text
        refine .answer found texts own (consistent own) printedAlike sentAlike (positive ▸ code)
          (fun asked => ⟨shown, written, output asked⟩) ?_
        intro answered replied
        rw [answers answered replied, sentOwn]
        exact ⟨passed, rfl, sends_toolReply passed⟩
      · simp only [not_forall] at texts
        obtain ⟨path, listed, noText⟩ := texts
        have unwritten := (needs printed).eq_error (samePaths ▸ listed) noText
        obtain ⟨code, fails⟩ := CommandResult.ofAsked_of_refused unwritten isJson isColoured text
        refine .unwritten found listed noText ((needs told).eq_error listed noText)
          (positive ▸ code) fails ?_
        intro answered replied
        rw [answers answered replied, (needs sent).eq_error ((same sentAlike).1 ▸ listed) noText]
        exact blames_toolReply .pathNotUtf8

/-- The library, the command and the tool answer a request alike, each at a time of its own. -/
def CommandRequest.IsServedAlike (request : CommandRequest) (atlas : Atlas) (host : Host)
    (isJson isColoured : Bool) (printed sent : Int) : Prop :=
  let command := request.result atlas (host.at printed) isJson isColoured
  let replies (tool : Tool) (reply : ServiceReply) : Prop := ∃ document,
    request.IsGivenBy document ∧ reply = (atlas.runTool (host.at sent) tool document).1
  match request with
  | .routine name environment root action =>
      let library := atlas.askRoutine host name environment root action
      FrontEndsAgree Answer.SameButForTime routinePaths routineDocument isJson library command
        (replies .lookUpRoutine) ∧
      ∀ answer, library = .ok answer → answer.IsConsistent
  | .table name environment root includeStandard maxResults =>
      let library := atlas.askTable host name environment root includeStandard maxResults
      FrontEndsAgree Eq tablePaths tableDocument isJson library command (replies .answerTable) ∧
      ∀ answer, library = .ok answer → answer.IsConsistent ∧ TellsOfRows answer
  | .environments _ => True

/-- A request for a routine is served alike. -/
theorem CommandRequest.isServedAlike_routine (name environment : String) (root : Option PathName)
    (action : String) (atlas : Atlas) (host : Host) (isJson isColoured : Bool)
    (printed sent : Int) :
    (CommandRequest.routine name environment root action).IsServedAlike atlas host isJson isColoured
      printed sent := by
  rw [CommandRequest.IsServedAlike, CommandRequest.result_routine]
  constructor
  · refine .of_endsAlike needsText_routineDocument Answer.isConsistent_document
      (fun alike => ⟨alike.paths_eq, alike.isPositive_eq⟩)
      (atlas.askRoutine_at host printed name environment root action)
      (atlas.askRoutine_at host sent name environment root action) ?_ isJson isColoured _
    rintro reply ⟨document, given, rfl⟩
    cases given with
    | routine read => exact atlas.runTool_lookUpRoutine (host.at sent) read rfl
  · intro answer _
    exact answer.isConsistent

/-- A request for a table is served alike. -/
theorem CommandRequest.isServedAlike_table (name environment : String) (root : Option PathName)
    (includeStandard : Bool) (maxResults : Option Nat) (atlas : Atlas) (host : Host)
    (isJson isColoured : Bool) (printed sent : Int) :
    (CommandRequest.table name environment root includeStandard maxResults).IsServedAlike atlas host
      isJson isColoured printed sent := by
  obtain ⟨text, result⟩ := CommandRequest.result_table atlas (host.at printed) isJson isColoured
    name environment root includeStandard maxResults
  have ends : EndsAlike Eq (atlas.askTable host name environment root includeStandard maxResults)
      (atlas.askTable host name environment root includeStandard maxResults) := by
    cases atlas.askTable host name environment root includeStandard maxResults with
    | error fault => exact Or.inl ⟨fault, rfl, rfl⟩
    | ok answer => exact Or.inr ⟨answer, answer, rfl, rfl, rfl⟩
  rw [CommandRequest.IsServedAlike, result, Atlas.askTable_at]
  constructor
  · refine .of_endsAlike needsText_tableDocument Answer.isConsistent_document
      (fun same => ⟨congrArg tablePaths same, congrArg Answer.isPositive same⟩) ends ends ?_ isJson
      isColoured text
    rintro reply ⟨document, given, rfl⟩
    cases given with
    | table read => exact atlas.runTool_answerTable (host.at sent) read (Atlas.askTable_at ..)
  · intro answer told
    obtain ⟨place, search, rfl⟩ := Atlas.exists_search_of_askTable told
    exact ⟨Answer.isConsistent _, tellsOfRows_tableAnswer place search⟩

/-- Every request for a routine or for a table is served alike. -/
theorem CommandRequest.isServedAlike (request : CommandRequest) (atlas : Atlas) (host : Host)
    (isJson isColoured : Bool) (printed sent : Int) :
    request.IsServedAlike atlas host isJson isColoured printed sent := by
  cases request with
  | routine name environment root action =>
      exact isServedAlike_routine name environment root action atlas host isJson isColoured printed
        sent
  | table name environment root includeStandard maxResults =>
      exact isServedAlike_table name environment root includeStandard maxResults atlas host isJson
        isColoured printed sent
  | environments discover => trivial

/-- A process does what its request asks for, the parameters of a tool ask for the same unless the
root is no text, and the library, the process and the tool agree on what is asked. -/
structure CommandContext.AgreesWithTools (context : CommandContext) (invocation : Invocation) :
    Prop where
  unconfigured : ∀ fault, Configuration.ofProcess context.host.tree context.setting?
      invocation.configuration = .error fault → context.run.1.status.code = 1
  configured : ∀ configuration, Configuration.ofProcess context.host.tree context.setting?
      invocation.configuration = .ok configuration →
    context.run.1 = invocation.request.result (.new configuration) context.host invocation.isJson
      context.isColoured
  given : (∀ discover, invocation.request ≠ .environments discover) →
    ((∃ document, invocation.request.IsGivenBy document) ↔
      ∀ root ∈ invocation.request.root?, root.IsText)
  alike : ∀ atlas host isJson isColoured printed sent,
    invocation.request.IsServedAlike atlas host isJson isColoured printed sent

/-- The front ends agree on every request that can be read from arguments. -/
theorem CommandContext.agreesWithTools {context : CommandContext} {invocation : Invocation}
    (read : Invocation.read context.arguments = .ok invocation) :
    context.AgreesWithTools invocation where
  unconfigured _ := code_of_fault read
  configured _ := run_eq read
  given searched := by
    refine ⟨fun ⟨_, given⟩ => given.isText, ?_⟩
    cases asked : invocation.request with
    | routine name environment root action =>
        exact fun text => CommandRequest.exists_isGivenBy_routine name environment text action
    | table table environment root includeStandard maxResults =>
        refine fun text =>
          CommandRequest.exists_isGivenBy_table table environment text includeStandard ?_
        rintro cap rfl
        exact Invocation.cap_lt_of_read read asked
    | environments discover => exact absurd asked (searched discover)
  alike atlas host isJson isColoured printed sent :=
    invocation.request.isServedAlike atlas host isJson isColoured printed sent

/-- A process asks where a routine lies in the tree without version control. -/
def plainContext : CommandContext where
  host := plainHost
  processVariable := fun _ => none
  arguments := ["routine", "MATA010", "--root", "/", "--json"].map utf8Bytes

/-- This is what its arguments ask for. -/
def plainInvocation : Invocation where
  configuration := none
  isJson := true
  request := .routine "MATA010" "auto" (some (utf8Bytes "/")) "locate"

/-- The front ends agree on where the routine lies. -/
theorem plainContext_agreesWithTools :
    Invocation.read plainContext.arguments = .ok plainInvocation ∧
      plainContext.AgreesWithTools plainInvocation := by
  have read : Invocation.read plainContext.arguments = .ok plainInvocation := by decide +kernel
  exact ⟨read, CommandContext.agreesWithTools read⟩

/-- The only source of this tree lies in a directory whose name is no text. -/
def oddFolder : Folder Entry where
  entries := [([0xFF], .directory { entries := [("X.prw", .file [])] })]

/-- The folder is the top of a tree, and the host has no version control. -/
def oddHost : Host :=
  .withoutVersionControl { top := .directory oddFolder, workingDirectory := "/" } 0

/-- This is the path of the source. -/
def oddPath : PathName :=
  joinPath (joinPath "/" [0xFF]) "X.prw"

theorem not_isText_oddPath : ¬ oddPath.IsText := by
  rintro ⟨text, same⟩
  have unread : readUtf8 oddPath = none := by decide +kernel
  rw [same, readUtf8_utf8Bytes] at unread
  exact absurd unread (by simp)

/-- This is the name of the source, and this is where it is looked for. -/
def oddName : RoutineName where
  typed := "X"
  base := "X"

def oddPlace : NamedRoot where
  root := "/"
  environment := "manual"
  manualOverride := true

/-- No spelling leads to the source, but the walk finds it. -/
theorem outcome_oddHost :
    (Atlas.new .usual).outcome oddHost oddName oddPlace = .found oddPath .walk 1 := by
  have top : oddHost.tree.entry oddPlace.root = .ok (.directory oddFolder) :=
    FileTree.entry_slash rfl
  have files : ((ScanPlan.forSources SearchLimits.usual.routineDepth).scan oddHost.tree
      oddPlace.root).files = [oddPath] := by
    rw [ScanPlan.scan_of_directory _ top]
    decide +kernel
  have bears : BearsKey oddName oddPath :=
    (answersTo_iff_bearsKey oddName oddPath).mp (by decide +kernel)
  refine lookUpRoutine_walk_iff.mpr ⟨(congrArg List.length files).symm, ?_, ?_⟩
  · intro spelling member names
    have entry : ∀ spelling ∈ oddName.spellings, IsEntryName spelling := by decide
    have missing : ∀ spelling ∈ oddName.spellings, childNamed spelling oddFolder = none := by
      decide
    rw [NamesFile, FileTree.isFile_of_missing top (entry spelling member)
      (missing spelling member)] at names
    exact Bool.noConfusion names
  · exact files ▸ ⟨[], [], rfl, bears, by simp⟩

/-- The library has the source. -/
theorem exists_answer_oddHost :
    ∃ answer, (Atlas.new .usual).askRoutine oddHost "X" "auto" (some (utf8Bytes "/")) "locate" =
      .ok answer ∧ answer.isPositive = true ∧ oddPath ∈ routinePaths answer := by
  have seeks : (Atlas.new .usual).Seeks oddHost
      { routine := "X", environment := .auto, root := some (utf8Bytes "/"), aspect := .locate }
      oddName oddPlace := ⟨by decide, rfl⟩
  have asked : askedRoutine "X" "auto" (some (utf8Bytes "/")) "locate" =
      .ok { routine := "X", environment := .auto, root := some (utf8Bytes "/"),
            aspect := .locate } := by
    decide +kernel
  rw [Atlas.askRoutine, asked, Except.bind, seeks.answer_of_found outcome_oddHost]
  exact ⟨_, rfl, rfl, List.mem_cons_self⟩

/-- These are the arguments that ask for the source, with or without a document. -/
def oddContext (isJson : Bool) : CommandContext where
  host := oddHost
  processVariable := fun _ => none
  arguments := (["routine", "X", "--root", "/"] ++ if isJson then ["--json"] else []).map utf8Bytes

/-- The library finds the source and the command tells it as a text, but the command fails where a
document is asked for. -/
theorem CommandContext.document_fails_where_text_is_told :
    (∃ answer, (Atlas.new .usual).askRoutine oddHost "X" "auto" (some (utf8Bytes "/")) "locate" =
        .ok answer ∧ answer.isPositive = true) ∧
      (oddContext false).run.1.status.code = 0 ∧ (oddContext true).run.1.status.code = 1 := by
  obtain ⟨answer, told, positive, listed⟩ := exists_answer_oddHost
  have ran (isJson : Bool) : (oddContext isJson).run.1 =
      .ofAsked isJson false routineDocument (Answer.routineText false) (.ok answer) := by
    have read : Invocation.read (oddContext isJson).arguments = .ok
        { configuration := none, isJson,
          request := .routine "X" "auto" (some (utf8Bytes "/")) "locate" } := by
      cases isJson <;> decide +kernel
    rw [← told]
    exact (run_eq read rfl).trans (CommandRequest.result_routine ..)
  have unwritten := (needsText_routineDocument answer).eq_error listed not_isText_oddPath
  have code (isJson : Bool) :=
    (CommandResult.ofAsked_of_refused unwritten isJson false (Answer.routineText false)).1
  refine ⟨⟨answer, told, positive⟩, ?_, ?_⟩
  · rw [ran, code, positive]
    rfl
  · rw [ran, code]
    rfl

end RoutineAtlas
