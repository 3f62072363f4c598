import RoutineAtlas.Origin.Classifier
import RoutineAtlas.Outline.FunctionNames
import RoutineAtlas.Table.Evidence

/-
This file searches a tree for the routines that refer to a table. The search reads the files in
the order of the walk and stops when it has enough rows.
-/

namespace RoutineAtlas

/-- A row tells how a routine uses the table. -/
structure UsageRow where
  routine : String
  path : PathName
  category : UsageCategory
  occurrences : Nat
  flags : UsageMarks
  origin : Origin
  functions : FunctionNames
  deriving DecidableEq, Repr

/-- A search may keep the vendor's routines and has a cap on its rows. -/
structure SearchOptions where
  includeStandard : Bool
  maxResults : Nat
  deriving DecidableEq, Repr

/-- The result of a search keeps the books on the files that it did not list. -/
structure UsageSearch where
  table : String
  rows : List UsageRow
  summary : List (UsageCategory × Nat)
  filesIndexed : Nat
  filesScanned : Nat
  standardExcluded : Nat
  limitReached : Bool
  skipped : List SkippedEntry
  deriving DecidableEq, Repr

/-- A tally is what a search has gathered so far. -/
structure Tally where
  rows : List UsageRow
  filesScanned : Nat
  standardExcluded : Nat
  skipped : List SkippedEntry
  classifier : Classifier

/-- A search starts with nothing but the classifier. -/
def Tally.start (classifier : Classifier) : Tally where
  rows := []
  filesScanned := 0
  standardExcluded := 0
  skipped := []
  classifier := classifier

/-- This is the row of a file whose content refers to the table. -/
def UsageRow.of (table : TableName) (name : RoutineName) (path : PathName)
    (content : String) (origin : Origin) : UsageRow :=
  let upper := upperCase content
  let flags := table.flags upper
  { routine := name.base
    path := path
    category := .of upper flags
    occurrences := table.occurrences upper
    flags := flags
    origin := origin
    functions := .of content }

/-- This is the routine that a file holds, if its stem is text and the name of one. -/
def routineOfPath (path : PathName) : Option RoutineName :=
  ((pathStem? path).bind readUtf8).bind fun stem => (RoutineName.parse stem).toOption

/-- A routine of a referring file becomes a row unless the vendor's are left out. -/
def Tally.judge (tally : Tally) (tree : FileTree) (table : TableName) (options : SearchOptions)
    (name : RoutineName) (path : PathName) (content : String) : Tally :=
  let (classification, classifier) := tally.classifier.classify tree name (some path)
  if classification.origin = .standard ∧ options.includeStandard = false then
    { tally with standardExcluded := tally.standardExcluded + 1, classifier }
  else
    { tally with
      rows := tally.rows ++ [.of table name path content classification.origin], classifier }

/-- A file that can be read counts as scanned, and only a referring one is judged. -/
def Tally.visit (tally : Tally) (tree : FileTree) (table : TableName) (options : SearchOptions)
    (path : PathName) : Tally :=
  match tree.readSource path with
  | .error fault => { tally with skipped := tally.skipped ++ [{ path, kind := .read, fault }] }
  | .ok content =>
      let scanned := { tally with filesScanned := tally.filesScanned + 1 }
      if table.isReferenced (upperCase content) then
        match routineOfPath path with
        | none => scanned
        | some name => scanned.judge tree table options name path content
      else scanned

/-- The search ends with the files or at its cap, and tells whether files were left. -/
def Tally.run (tree : FileTree) (table : TableName) (options : SearchOptions) :
    List PathName → Tally → Tally × Bool
  | [], tally => (tally, false)
  | path :: rest, tally =>
      if options.maxResults ≤ tally.rows.length then (tally, true)
      else Tally.run tree table options rest (tally.visit tree table options path)

/-- A row goes before another by its category, and within a category by its occurrences. -/
def UsageRow.goesBefore (first second : UsageRow) : Bool :=
  decide (first.category.rank < second.category.rank) ||
    (first.category.rank == second.category.rank &&
      decide (second.occurrences ≤ first.occurrences))

/-- The summary counts the rows of each category that has some. -/
def summarize (rows : List UsageRow) : List (UsageCategory × Nat) :=
  (UsageCategory.all.map fun category =>
    (category, (rows.filter fun row => row.category == category).length)).filter (0 < ·.2)

/-- The rows are ordered after the search, and equal rows stay in the order of the walk. -/
def searchTree (tree : FileTree) (depth : Nat) (root : PathName) (table : TableName)
    (options : SearchOptions) (classifier : Classifier) :
    Except Fault (UsageSearch × Classifier) :=
  if options.maxResults = 0 then .error (.input .zeroCap)
  else
    let scan := (ScanPlan.forSources depth).scan tree root
    let (tally, limitReached) := Tally.run tree table options scan.files (.start classifier)
    let rows := tally.rows.mergeSort UsageRow.goesBefore
    .ok ({ table := table.label
           rows := rows
           summary := summarize rows
           filesIndexed := scan.files.length
           filesScanned := tally.filesScanned
           standardExcluded := tally.standardExcluded
           limitReached := limitReached
           skipped := scan.skipped ++ tally.skipped },
      tally.classifier)

end RoutineAtlas
