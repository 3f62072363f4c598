import RoutineAtlas.CommandLine.Arguments
import RoutineAtlas.Proofs.Document.Encoding
import RoutineAtlas.Service.Parameters

/-
This file gives the request of a command to the tool that corresponds to it. Whatever can be read
from arguments can be written as the parameters of a tool.
-/

namespace RoutineAtlas

/-- The document holds the parameters of the tool that corresponds to a request. A token that is
left out stands for the usual one. -/
inductive CommandRequest.IsGivenBy : CommandRequest → Document → Prop
  | routine {document : Document} {parameters : FindParameters}
      (read : FindParameters.read document = some parameters) :
      CommandRequest.IsGivenBy
        (.routine parameters.routine (parameters.environment.getD "auto") parameters.root
          (parameters.action.getD "locate")) document
  | table {document : Document} {parameters : SearchParameters}
      (read : SearchParameters.read document = some parameters) :
      CommandRequest.IsGivenBy
        (.table parameters.table (parameters.environment.getD "auto") parameters.root
          (parameters.includeStandard.getD false) parameters.maxResults) document

/-- A count that is read has 64 bits. -/
theorem lt_numberLimit_of_readCount {text : List Char} {value : Nat}
    (read : readCount text = some value) : value < numberLimit := by
  rw [readCount] at read
  generalize (if text.head? = some '+' then text.drop 1 else text) = digits at read
  rw [readDigits] at read
  split at read
  · exact absurd read (by simp)
  · exact of_decide_eq_true (Option.filter_eq_some_iff.mp read).2

/-- The request of an invocation is made from what was read behind its command. -/
theorem Invocation.exists_request_of_read {arguments : List Bytes} {invocation : Invocation}
    (read : Invocation.read arguments = .ok invocation) :
    ∃ (reading : ArgumentReading) (command : Subcommand),
      invocation.request = reading.request command := by
  obtain ⟨⟨_, command, _⟩, _, read⟩ := exists_of_bind_eq_ok read
  obtain ⟨_, _, read⟩ := exists_of_bind_eq_ok read
  obtain ⟨behind, _, read⟩ := exists_of_bind_eq_ok read
  obtain ⟨_, _, made⟩ := exists_of_bind_eq_ok read
  obtain rfl := Except.ok.inj made
  exact ⟨behind, command, rfl⟩

/-- The cap of a request that was read has 64 bits. -/
theorem Invocation.cap_lt_of_read {arguments : List Bytes} {invocation : Invocation}
    (read : Invocation.read arguments = .ok invocation) {table environment : String}
    {root : Option PathName} {includeStandard : Bool} {cap : Nat}
    (asked : invocation.request = .table table environment root includeStandard (some cap)) :
    cap < numberLimit := by
  obtain ⟨reading, command, made⟩ := Invocation.exists_request_of_read read
  rw [made] at asked
  cases command with
  | routine | environments => simp [ArgumentReading.request] at asked
  | table =>
      obtain ⟨_, _, _, _, own⟩ := CommandRequest.table.inj asked
      obtain ⟨text, _, count⟩ := Option.bind_eq_some_iff.mp own
      exact lt_numberLimit_of_readCount count

/-- A parameter that is there is read. -/
theorem optionalParameter_of_lookup {A : Type} {reading : Document → Option A} {name : String}
    {fields : List (String × Document)} {document : Document} {value : A}
    (found : fields.lookup name = some document) (read : reading document = some value)
    (nothing : reading .null = none) :
    optionalParameter reading name fields = some (some value) := by
  rw [optionalParameter, found]
  cases document with
  | null => exact absurd (nothing.symm.trans read) (by simp)
  | _ => exact congrArg (Option.map some) read

/-- A count of 64 bits is read back. -/
theorem Document.count?_count {number : Nat} (fits : number < numberLimit) :
    (Document.count number).count? = some number :=
  if_pos fits

/-- A path that is read from a parameter is text. -/
theorem isText_of_optionalPath {name : String} {fields : List (String × Document)}
    {root : Option PathName} (read : optionalParameter Document.path? name fields = some root) :
    ∀ path ∈ root, path.IsText := by
  rintro path rfl
  rw [optionalParameter] at read
  split at read
  · exact absurd read (by simp)
  · exact absurd read (by simp)
  · obtain ⟨own, given, same⟩ := Option.map_eq_some_iff.mp read
    obtain rfl := Option.some.inj same
    obtain ⟨text, _, rfl⟩ := Option.map_eq_some_iff.mp given
    exact ⟨text, rfl⟩

/-- The parameters of a tool name roots that are text only. -/
theorem CommandRequest.IsGivenBy.isText {request : CommandRequest} {document : Document}
    (given : request.IsGivenBy document) : ∀ root ∈ request.root?, root.IsText := by
  cases given with
  | @routine document parameters read =>
      obtain ⟨fields, _, read⟩ := Option.bind_eq_some_iff.mp read
      obtain ⟨routine, _, read⟩ := Option.bind_eq_some_iff.mp read
      obtain ⟨environment, _, read⟩ := Option.bind_eq_some_iff.mp read
      obtain ⟨root, own, read⟩ := Option.bind_eq_some_iff.mp read
      obtain ⟨action, _, read⟩ := Option.bind_eq_some_iff.mp read
      obtain rfl := Option.some.inj read
      exact isText_of_optionalPath own
  | @table document parameters read =>
      obtain ⟨fields, _, read⟩ := Option.bind_eq_some_iff.mp read
      obtain ⟨table, _, read⟩ := Option.bind_eq_some_iff.mp read
      obtain ⟨environment, _, read⟩ := Option.bind_eq_some_iff.mp read
      obtain ⟨root, own, read⟩ := Option.bind_eq_some_iff.mp read
      obtain ⟨includeStandard, _, read⟩ := Option.bind_eq_some_iff.mp read
      obtain ⟨maxResults, _, read⟩ := Option.bind_eq_some_iff.mp read
      obtain rfl := Option.some.inj read
      exact isText_of_optionalPath own

/-- A root that is text was given as one, if it was given. -/
theorem exists_text_root {root : Option PathName} (text : ∀ path ∈ root, path.IsText) :
    ∃ given : Option String, root = given.map utf8Bytes := by
  cases root with
  | none => exact ⟨none, rfl⟩
  | some path =>
      obtain ⟨given, rfl⟩ := text path rfl
      exact ⟨some given, rfl⟩

/-- A request for a routine can be given to the tool. -/
theorem CommandRequest.exists_isGivenBy_routine (name environment : String)
    {root : Option PathName} (text : ∀ path ∈ root, path.IsText) (action : String) :
    ∃ document, (CommandRequest.routine name environment root action).IsGivenBy document := by
  obtain ⟨given, rfl⟩ := exists_text_root text
  have read : FindParameters.read (.record ([("routine", .text name),
      ("environment", .text environment), ("action", .text action)] ++
        optionalField "root" (given.map .text))) =
      some { routine := name, environment := some environment, root := given.map utf8Bytes,
             action := some action } := by
    cases given with
    | none => rfl
    | some path => rfl
  exact ⟨_, .routine read⟩

/-- A request for a table can be given to the tool when its cap has 64 bits. -/
theorem CommandRequest.exists_isGivenBy_table (table environment : String)
    {root : Option PathName} (text : ∀ path ∈ root, path.IsText) (includeStandard : Bool)
    {maxResults : Option Nat} (fits : ∀ cap ∈ maxResults, cap < numberLimit) :
    ∃ document, (CommandRequest.table table environment root includeStandard
      maxResults).IsGivenBy document := by
  obtain ⟨given, rfl⟩ := exists_text_root text
  have read : SearchParameters.read (.record ([("table", .text table),
      ("environment", .text environment), ("include_standard", .bool includeStandard)] ++
        optionalField "root" (given.map .text) ++
        optionalField "max_results" (maxResults.map .count))) =
      some { table, environment := some environment, root := given.map utf8Bytes,
             includeStandard := some includeStandard, maxResults } := by
    cases maxResults with
    | none =>
        cases given with
        | none | some path => rfl
    | some cap =>
        have own {fields : List (String × Document)}
            (found : fields.lookup "max_results" = some (.count cap)) :
            optionalParameter Document.count? "max_results" fields = some (some cap) :=
          optionalParameter_of_lookup found (Document.count?_count (fits cap rfl)) rfl
        cases given with
        | none | some path =>
            rw [SearchParameters.read]
            dsimp only [Document.parameters?, Bind.bind, Option.bind]
            rw [own rfl]
            rfl
  exact ⟨_, .table read⟩

end RoutineAtlas
