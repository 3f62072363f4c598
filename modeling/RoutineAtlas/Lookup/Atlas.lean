import RoutineAtlas.Lookup.Answer
import RoutineAtlas.Lookup.SourceFile
import RoutineAtlas.Outline.Report

/-
This file serves queries. An atlas has a configuration and a classifier that its queries share.
-/

namespace RoutineAtlas

/-- An atlas is what a process keeps between queries. -/
structure Atlas where
  configuration : Configuration
  classifier : Classifier

/-- A new atlas takes the classifier's tree and depth from the configuration. -/
def Atlas.new (configuration : Configuration) : Atlas where
  configuration := configuration
  classifier := .new configuration.roots.standard configuration.search.discoveryDepth

/-- An environment's entry tells whether its root is there. -/
structure EnvironmentEntry where
  environment : Environment
  root : Option PathName
  isThere : Bool
  deriving DecidableEq, Repr

/-- The concrete environments are told with their roots as configured. -/
def Atlas.environments (atlas : Atlas) (tree : FileTree) : List EnvironmentEntry :=
  [Environment.staging, .production, .standard].map fun environment =>
    let root := atlas.configuration.roots.configured environment
    { environment, root, isThere := root.any tree.isDirectory }

/-- The leads are learned now instead of on first need. -/
def Atlas.discover (atlas : Atlas) (tree : FileTree) : Bool × Atlas :=
  let (ran, classifier) := atlas.classifier.discover tree
  (ran, { atlas with classifier })

/-- The detail that an aspect asks for is read from the source that was found. Version control may
leave other files than there were. -/
def Host.detail (host : Host) (name : RoutineName) (place : NamedRoot) (path : PathName)
    (origin : Origin) (aspect : RoutineAspect) : Except AccessFault RoutineDetail × Host :=
  match aspect with
  | .locate => (.ok .place, host)
  | .outline => ((host.tree.readSource path).map fun text => .outline (.of text), host)
  | .report =>
      ((host.tree.readSource path).map fun text =>
        let outline := Outline.of text
        .report
          (outline.report {
            routine := name.base, path, origin, environment := place.environment,
            instant := host.instant })
          outline,
        host)
  | .source => ((host.tree.readSource path).map .source, host)
  | .versionControl =>
      let (status, later) := host.versionControlStatus path
      (.ok (.versionControl status), later)

/-- This is the answer for a routine that was not found. -/
def negativeAnswer (name : RoutineName) (place : NamedRoot) (root : PathName)
    (spellings : List String) (filesScanned : Nat) (skipped : List SkippedEntry) :
    Answer RoutineFacts where
  message :=
    "Routine " ++ name.base ++ " not found under " ++ root.display ++
      " (" ++ place.environment ++ ")"
  provenance := { place, subject := .routine name.base none }
  finding := .nothing {
    searchedRoot := root
    attempted := spellings
    filesScanned := filesScanned
    skipped := skipped.map SkippedEntry.message }

/-- This is the answer for a routine that was found. -/
def positiveAnswer (name : RoutineName) (place : NamedRoot) (path : PathName)
    (classification : Classification) (detail : RoutineDetail) : Answer RoutineFacts where
  message := "Found " ++ name.base ++ " (" ++ classification.origin.label ++ ") at " ++ path.display
  provenance :=
    { place
      subject := .routine name.base (some (classification.origin, classification.ground)) }
  finding := .found { routine := name.base, path, detail }

/-- The name is read before the root is looked up, and a routine is classified once found. -/
def Atlas.answerRoutine (atlas : Atlas) (host : Host) (query : RoutineQuery) :
    Except Fault (Answer RoutineFacts) × Atlas × Host :=
  match RoutineName.parse query.routine with
  | .error fault => (.error fault, atlas, host)
  | .ok name =>
      match atlas.configuration.roots.locate host.tree.workingDirectory query.environment
          (some name) query.root with
      | .error fault => (.error fault, atlas, host)
      | .ok place =>
          match lookUpRoutine host.tree atlas.configuration.search.routineDepth place.root name with
          | .notFound root spellings filesScanned skipped =>
              (.ok (negativeAnswer name place root spellings filesScanned skipped), atlas, host)
          | .found path _ _ =>
              let (classification, classifier) :=
                atlas.classifier.classify host.tree name (some path)
              match host.detail name place path classification.origin query.aspect with
              | (.error fault, later) => (.error (.access fault), { atlas with classifier }, later)
              | (.ok detail, later) =>
                  (.ok (positiveAnswer name place path classification detail),
                    { atlas with classifier }, later)

/-- The message of a table search counts its rows, or the vendor's routines that were left out. -/
def UsageSearch.message (search : UsageSearch) : String :=
  if search.rows.isEmpty then
    if 0 < search.standardExcluded then
      "No custom routines reference table " ++ search.table ++ " (" ++
        toString search.standardExcluded ++ " standard routines excluded)"
    else "No routines reference table " ++ search.table
  else
    toString search.rows.length ++ " routines reference table " ++ search.table ++ " (" ++
      toString search.filesScanned ++ " files scanned)"

/-- A table search without rows is answered with an account. -/
def tableAnswer (place : NamedRoot) (search : UsageSearch) : Answer (List UsageRow) where
  message := search.message
  provenance := {
    place
    subject := .table {
      table := search.table
      summary := search.summary
      limitReached := search.limitReached
      standardExcluded := search.standardExcluded } }
  finding :=
    if search.rows.isEmpty then
      .nothing {
        searchedRoot := place.root
        attempted := []
        filesScanned := search.filesScanned
        skipped := search.skipped.map SkippedEntry.message }
    else .found search.rows

/-- The table's name is read before the root is looked up, and the cap is checked last. -/
def Atlas.answerTable (atlas : Atlas) (host : Host) (query : TableQuery) :
    Except Fault (Answer (List UsageRow)) × Atlas :=
  match TableName.parse query.table with
  | .error fault => (.error fault, atlas)
  | .ok table =>
      match atlas.configuration.roots.locate host.tree.workingDirectory query.environment none
          query.root with
      | .error fault => (.error fault, atlas)
      | .ok place =>
          let options : SearchOptions := {
            includeStandard := query.includeStandard
            maxResults := query.maxResults.getD atlas.configuration.search.maxResults }
          match searchTree host.tree atlas.configuration.search.tableDepth place.root table options
              atlas.classifier with
          | .error fault => (.error fault, atlas)
          | .ok (search, classifier) =>
              (.ok (tableAnswer place search), { atlas with classifier })

end RoutineAtlas
