import RoutineAtlas.CommandLine.Page
import RoutineAtlas.Service.Tools
import RoutineAtlas.Text.UpperCase

/-
This file shows answers to a person.
-/

namespace RoutineAtlas

/-- The origin has a colour of its own. -/
def Origin.piece (origin : Origin) : Piece :=
  (Style.tinted (match origin with
    | .standard => .blue
    | .custom => .yellow)).piece origin.label

/-- The root is shown with the name under which it was found. -/
def NamedRoot.page (place : NamedRoot) : Page :=
  [namedLine "Environment" ((Style.tinted .cyan).piece place.environment ::
      if place.manualOverride then [Style.dim.piece " (manual override)"] else []),
    namedLine "Root" [.plain place.root.display]]

/-- This mark stands before the items of a list. -/
def bullet : Piece := Style.dim.piece "•"

/-- An item stands on a line of its own. -/
def bulletLine (item : String) : List Piece :=
  [.plain "    ", bullet, .plain (" " ++ item)]

/-- This many spellings are shown. -/
def shownSpellings : Nat := 10

/-- The spellings that were tried are shown, but not too many of them. -/
def attemptedPage (attempted : List String) : Page :=
  if attempted.isEmpty then []
  else
    [Piece.plain "  ", Style.heading.piece "Tried", .plain ":"] ::
      (attempted.take shownSpellings).map bulletLine ++
      (if shownSpellings < attempted.length then
        [bulletLine ("... and " ++ toString (attempted.length - shownSpellings) ++ " more")]
      else [])

/-- A warning has a number in it. -/
def warningLine (count : Nat) (rest : String) : List Piece :=
  [.plain "  ", (Style.bold .yellow).piece "Warning", .plain ": ",
    (Style.tinted .yellow).piece (toString count), .plain rest]

/-- The account says what was searched, tried and skipped. -/
def SearchAccount.page (account : SearchAccount) : Page :=
  [namedLine "Searched" [.plain account.searchedRoot.display],
    namedLine "Files scanned" [.plain (toString account.filesScanned)]] ++
  attemptedPage account.attempted ++
  (if account.skipped.isEmpty then []
  else [warningLine account.skipped.length " entries could not be read"])

/-- A list has a title, and an empty list says so. -/
def listPage (title : String) (items : List String) : Page :=
  [.plain "  ", Style.heading.piece title, .plain ":"] ::
    if items.isEmpty then [[.plain "    ", Style.dim.piece "none"]] else items.map bulletLine

/-- An outline is shown by its lists, and by the number of missing comments. -/
def Outline.page (outline : Outline) : Page :=
  [[], namedLine "Lines" [.plain (toString outline.lines ++ "   "),
      Style.heading.piece "Protheus.doc",
      .plain (": " ++ toString outline.documentationBlocks)]] ++
  listPage "Includes" outline.includes ++
  listPage "User functions" (outline.names .userFunction) ++
  listPage "Static functions" (outline.names .staticFunction) ++
  listPage "Classes" (outline.names .classDefinition) ++
  listPage "Tables" outline.tables ++
  (if outline.undocumented.isEmpty then []
  else [warningLine outline.undocumented.length " declarations without Protheus.doc"])

/-- What version control knows is shown, or why it knows nothing. -/
def VersionControlStatus.page : VersionControlStatus → Page
  | .unavailable message => [[], namedLine "Git" [Style.dim.piece message]]
  | .known branch status lastCommit =>
      [[], namedLine "Branch" [(Style.tinted .cyan).piece branch],
        namedLine "Status" [.plain (status.getD "unmodified")]] ++
      (match lastCommit with
      | some commit => [namedLine "Last commit" [.plain commit]]
      | none => [])

/-- The detail is shown below the place. -/
def RoutineDetail.page : RoutineDetail → Page
  | .outline found => found.page
  | .report _ found => found.page
  | .versionControl status => status.page
  | .place => []
  | .source _ => []

/-- A routine's classification is shown with its ground. -/
def Subject.page : Subject → Page
  | .routine _ (some (origin, ground)) =>
      [namedLine "Origin"
        [origin.piece, .plain " ", Style.dim.piece ("(" ++ ground.label ++ ")")]]
  | .routine _ none => []
  | .table _ => []

/-- A report and a source are shown as they are, all else as a page. -/
def Answer.routineText (isColoured : Bool) (answer : Answer RoutineFacts) : String :=
  match answer.finding with
  | .nothing account =>
      let title := [(Style.bold .red).piece "Not found:", .plain (" " ++ answer.message)]
      Page.write isColoured ([title] ++ answer.provenance.place.page ++ account.page)
  | .found data =>
      match data.detail with
      | .source text => text
      | .report text _ => text
      | detail =>
          let title := [Style.heading.piece data.routine, .plain (" " ++ data.path.display)]
          Page.write isColoured ([title] ++ answer.provenance.place.page ++
            answer.provenance.subject.page ++ detail.page)

/-- The writes of a row are named in brackets. -/
def UsageMarks.writes (flags : UsageMarks) : String :=
  let names := (if flags.hasInsert then ["insert"] else []) ++
    (if flags.hasUpdate then ["update"] else []) ++
    (if flags.hasDelete then ["delete"] else [])
  if names.isEmpty then "" else " [" ++ String.intercalate ", " names ++ "]"

/-- The name of a category or an environment takes this much room. -/
def labelWidth : Nat := 11

/-- A row takes two lines, and a third for its functions. -/
def UsageRow.page (usage : UsageRow) : Page :=
  [[Piece.plain "  ", (Style.tinted .magenta).piece (fillUp labelWidth usage.category.label),
      .plain " ", Style.heading.piece usage.routine, .plain " ",
      Style.dim.piece ("x" ++ toString usage.occurrences), .plain " ", usage.origin.piece],
    [.plain "    ", Style.dim.piece usage.path.display, .plain usage.flags.writes]] ++
  (if usage.functions.user.isEmpty then []
  else
    [[.plain "    ", Style.dim.piece "user:",
      .plain (" " ++ String.intercalate ", " usage.functions.user)]])

/-- The facts of a table are its summary, and that rows may be missing. -/
def TableFacts.page (facts : TableFacts) : Page :=
  [[], namedLine "Summary" [.plain (String.intercalate ", "
    (facts.summary.map fun (category, rows) => category.label ++ ": " ++ toString rows))]] ++
  (if facts.limitReached then
    [[.plain "  ", (Style.bold .yellow).piece "Note",
      .plain ": stopped at the result cap; raise it with ", (Style.tinted .cyan).piece "-n"]]
  else [])

/-- The table's facts stand below its rows. -/
def Subject.closingPage : Subject → Page
  | .table facts => facts.page
  | .routine _ _ => []

/-- This reminds of the routines that were left out. -/
def standardHint (table : String) : Page :=
  [[], [Style.dim.piece "hint",
    .plain ": Standard routines are excluded by default. Try '",
    (Style.tinted .cyan).piece ("sonda table " ++ table ++ " --include-standard"), .plain "'."]]

/-- The rows of a table are shown with the table as it was typed, in upper case. -/
def Answer.tableText (isColoured : Bool) (query : TableQuery)
    (answer : Answer (List UsageRow)) : String :=
  Page.write isColoured <|
    match answer.finding with
    | .nothing account =>
        [[Piece.plain answer.message]] ++ answer.provenance.place.page ++ account.page ++
          (if query.includeStandard then [] else standardHint query.table)
    | .found rows =>
        [[Piece.plain "Found ", (Style.bold .green).piece (toString rows.length),
            .plain " routines using ", (Style.tinted .cyan).piece (upperCase query.table),
            .plain ":"]] ++
          answer.provenance.place.page ++ [[]] ++ rows.flatMap UsageRow.page ++
          answer.provenance.subject.closingPage

/-- A root is shown in a colour that tells whether it is there. -/
def EnvironmentEntry.rootPieces (info : EnvironmentEntry) : List Piece :=
  match info.root with
  | some root =>
      if info.isThere then [(Style.tinted .green).piece root.display]
      else [.plain (root.display ++ " "), (Style.tinted .red).piece "(missing)"]
  | none => [Style.dim.piece "not configured"]

/-- An environment takes two lines, of which one names its setting. -/
def EnvironmentEntry.page (info : EnvironmentEntry) : Page :=
  [[Piece.plain "  ", Style.heading.piece (fillUp labelWidth info.environment.label),
      .plain " "] ++ info.rootPieces,
    [.plain ("  " ++ fillUp labelWidth "" ++ " "),
      Style.dim.piece ("set " ++ info.environment.setting.variable)]]

/-- The state of the classifier is shown by what it learned. -/
def ClassifierCounts.page (counts : ClassifierCounts) : Page :=
  [[], namedLine "Discovery" [.plain (toString counts.contentInspections ++ " files inspected")],
    if counts.discoveredLeads.isEmpty then
      [.plain "    ", Style.dim.piece "no prefixes beyond the built-in table"]
    else [.plain ("    " ++ String.intercalate ", " counts.discoveredLeads)]]

/-- The report is shown below a title. -/
def AtlasReport.text (isColoured : Bool) (report : AtlasReport) : String :=
  Page.write isColoured ([[(Style.bold .cyan).piece "Sonda Environments"], []] ++
    report.environments.flatMap EnvironmentEntry.page ++
    (match report.classifier with
    | some counts => counts.page
    | none => []))

end RoutineAtlas
