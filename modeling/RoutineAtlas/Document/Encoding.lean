import RoutineAtlas.Document.Basic
import RoutineAtlas.Lookup.Atlas

/-
This file turns answers into documents. What an answer does not have is left out of its record, and
an answer with a path that is no text has no document.
-/

namespace RoutineAtlas

/-- A path can be part of a document when it is text. -/
def pathDocument (path : PathName) : Except AccessFault Document :=
  match readUtf8 path with
  | some text => .ok (.text text)
  | none => .error .pathNotUtf8

/-- A declaration is a record of its four properties. -/
def Declaration.document (declaration : Declaration) : Document :=
  .record [("kind", .text declaration.kind.label), ("name", .text declaration.name),
    ("line", .count declaration.line), ("documented", .bool declaration.documented)]

/-- An outline is a record of counts and lists. -/
def Outline.document (outline : Outline) : Document :=
  .record [("lines", .count outline.lines),
    ("protheus_doc_blocks", .count outline.documentationBlocks),
    ("includes", .texts outline.includes),
    ("declarations", .list (outline.declarations.map Declaration.document)),
    ("tables", .texts outline.tables)]

/-- The flags are fields of the record to which they belong. -/
def UsageMarks.fields (flags : UsageMarks) : List (String × Document) :=
  [("has_browse", .bool flags.hasBrowse), ("has_insert", .bool flags.hasInsert),
    ("has_update", .bool flags.hasUpdate), ("has_delete", .bool flags.hasDelete)]

/-- A row is a record with the flags among its fields. -/
def UsageRow.document (usage : UsageRow) : Except AccessFault Document := do
  let path ← pathDocument usage.path
  pure (.record ([("routine", .text usage.routine), ("path", path),
      ("category", .text usage.category.label), ("occurrences", .count usage.occurrences)] ++
    usage.flags.fields ++
    [("origin", .text usage.origin.label), ("user_functions", .texts usage.functions.user),
      ("static_functions", .texts usage.functions.static)]))

/-- Rows are a list. -/
def rowsDocument (rows : List UsageRow) : Except AccessFault Document := do
  let documents ← rows.mapM UsageRow.document
  pure (.list documents)

/-- A summary is a record of the categories that have rows. -/
def summaryDocument (summary : List (UsageCategory × Nat)) : Document :=
  .record (summary.map fun (category, rows) => (category.label, .count rows))

/-- A table search is a record without the entries that it skipped. -/
def UsageSearch.document (search : UsageSearch) : Except AccessFault Document := do
  let rows ← rowsDocument search.rows
  pure (.record [("table", .text search.table), ("rows", rows),
    ("summary", summaryDocument search.summary), ("files_indexed", .count search.filesIndexed),
    ("files_scanned", .count search.filesScanned),
    ("standard_excluded", .count search.standardExcluded),
    ("limit_reached", .bool search.limitReached)])

/-- What version control knows is a record, and so is its excuse. -/
def VersionControlStatus.document : VersionControlStatus → Document
  | .unavailable message =>
      .record [("tracked_repository", .bool false), ("message", .text message)]
  | .known branch status lastCommit =>
      .record ([("tracked_repository", .bool true), ("branch", .text branch)] ++
        optionalField "status" (status.map .text) ++
        optionalField "last_commit" (lastCommit.map .text))

/-- A detail adds the fields of its aspect. -/
def RoutineDetail.fields : RoutineDetail → List (String × Document)
  | .place => []
  | .outline found => [("structure", found.document)]
  | .report text found => [("structure", found.document), ("report", .text text)]
  | .source text => [("source", .text text)]
  | .versionControl status => [("git", status.document)]

/-- The data of a routine name the aspect to which they belong. -/
def RoutineFacts.document (data : RoutineFacts) : Except AccessFault Document := do
  let path ← pathDocument data.path
  pure (.record ([("routine", .text data.routine), ("path", path),
    ("action", .text data.detail.aspect.label)] ++ data.detail.fields))

/-- The subject's fields stand beside those of the root. -/
def Subject.fields : Subject → List (String × Document)
  | .routine name none => [("routine", .text name)]
  | .routine name (some (origin, ground)) =>
      [("routine", .text name), ("classification", .text origin.label),
        ("classification_rule", .text ground.label)]
  | .table facts =>
      [("table", .text facts.table), ("summary", summaryDocument facts.summary),
        ("limit_reached", .bool facts.limitReached),
        ("standard_excluded", .count facts.standardExcluded)]

/-- A resolved root is a record of three fields. -/
def NamedRoot.fields (place : NamedRoot) : Except AccessFault (List (String × Document)) := do
  let root ← pathDocument place.root
  pure [("environment", .text place.environment), ("root", root),
    ("manual_override", .bool place.manualOverride)]

/-- The provenance are one record. -/
def Provenance.document (provenance : Provenance) : Except AccessFault Document := do
  let fields ← provenance.place.fields
  pure (.record (fields ++ provenance.subject.fields))

/-- A list that is empty is left out of the account. -/
def nonEmptyTexts (name : String) (texts : List String) : List (String × Document) :=
  if texts.isEmpty then [] else [(name, .texts texts)]

/-- The account tells what was searched and what was tried. -/
def SearchAccount.document (account : SearchAccount) : Except AccessFault Document := do
  let root ← pathDocument account.searchedRoot
  pure (.record ([("searched_root", root)] ++
    nonEmptyTexts "attempted_variations" account.attempted ++
    [("files_scanned", .count account.filesScanned)] ++
    nonEmptyTexts "skipped" account.skipped))

/-- An answer has data or an account. -/
def Answer.document {A : Type} (encode : A → Except AccessFault Document) (answer : Answer A) :
    Except AccessFault Document := do
  let data ← answer.data?.mapM encode
  let provenance ← answer.provenance.document
  let account ← answer.account?.mapM SearchAccount.document
  pure (.record ([("success", .bool answer.isPositive), ("message", .text answer.message)] ++
    optionalField "data" data ++ [("metadata", provenance)] ++
    optionalField "diagnostics" account))

/-- This is the answer to a routine query. -/
def routineDocument (answer : Answer RoutineFacts) : Except AccessFault Document :=
  answer.document RoutineFacts.document

/-- This is the answer to a table query. -/
def tableDocument (answer : Answer (List UsageRow)) : Except AccessFault Document :=
  answer.document rowsDocument

/-- An environment without a root has no field for it. -/
def EnvironmentEntry.document (info : EnvironmentEntry) : Except AccessFault Document := do
  let root ← info.root.mapM pathDocument
  pure (.record ([("environment", .text info.environment.label),
      ("setting", .text info.environment.setting.variable)] ++
    optionalField "root" root ++ [("exists", .bool info.isThere)]))

/-- The statistics are a record of counts and leads. -/
def ClassifierCounts.document (counts : ClassifierCounts) : Document :=
  .record [("cached_decisions", .count counts.cachedDecisions),
    ("content_inspections", .count counts.contentInspections),
    ("discovered_prefixes", .texts counts.discoveredLeads),
    ("discovery", .text counts.discovery.label)]

/-- A classification tells its ground. -/
def Classification.document (classification : Classification) : Document :=
  .record [("origin", .text classification.origin.label),
    ("rule", .text classification.ground.label), ("cached", .bool classification.isCached)]

/-- The outcome of a lookup is tagged by its status. -/
def LookupOutcome.document : LookupOutcome → Except AccessFault Document
  | .found path method filesScanned => do
      let path ← pathDocument path
      pure (.record [("status", .text "found"), ("path", path), ("method", .text method.label),
        ("files_scanned", .count filesScanned)])
  | .notFound root spellings filesScanned _ => do
      let root ← pathDocument root
      pure (.record [("status", .text "not_found"), ("root", root),
        ("variations", .texts spellings), ("files_scanned", .count filesScanned)])

/-- A root that is not set is null. -/
def rootDocument (root : Option PathName) : Except AccessFault Document :=
  match root with
  | some path => pathDocument path
  | none => pure .null

/-- A configuration is a record of two records. -/
def Configuration.document (configuration : Configuration) : Except AccessFault Document := do
  let staging ← rootDocument configuration.roots.staging
  let production ← rootDocument configuration.roots.production
  let standard ← rootDocument configuration.roots.standard
  pure (.record [
    ("roots", .record [("staging", staging), ("production", production), ("standard", standard)]),
    ("search", .record [("max-results", .count configuration.search.maxResults),
      ("routine-depth", .count configuration.search.routineDepth),
      ("table-depth", .count configuration.search.tableDepth),
      ("discovery-depth", .count configuration.search.discoveryDepth)])])

end RoutineAtlas
