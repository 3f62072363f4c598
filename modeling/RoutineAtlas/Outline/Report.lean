import RoutineAtlas.Files.PathText
import RoutineAtlas.Origin.Basic
import RoutineAtlas.Outline.Flowchart
import RoutineAtlas.Outline.Instant

/-
This file writes the report on a routine.
-/

namespace RoutineAtlas

/-- A report tells where the routine was found, what it is and when the report was made. -/
structure ReportHead where
  routine : String
  path : PathName
  origin : Origin
  environment : String
  instant : Int
  deriving DecidableEq, Repr

/-- An empty section is left out together with its title. -/
def reportSection (title : String) (items : List String) : String :=
  if items.isEmpty then ""
  else "## " ++ title ++ "\n\n" ++
    String.join (items.map fun item => "- `" ++ item ++ "`\n") ++ "\n"

/-- The section on missing documentation gives the lines of the declarations. -/
def missingDocumentation (declarations : List Declaration) : String :=
  if declarations.isEmpty then ""
  else "## Missing Protheus.doc\n\n" ++
    String.join (declarations.map fun declaration =>
      "- `" ++ declaration.name ++ "` (line " ++ toString declaration.line ++ ")\n") ++ "\n"

/-- The head of the report is a table of facts. -/
def ReportHead.text (head : ReportHead) (outline : Outline) : String :=
  "# Routine " ++ head.routine ++ "\n\n| Field | Value |\n|---|---|\n" ++
    "| File | `" ++ head.path.display ++ "` |\n" ++
    "| Environment | " ++ head.environment ++ " |\n" ++
    "| Origin | " ++ head.origin.label ++ " |\n" ++
    "| Lines | " ++ toString outline.lines ++ " |\n" ++
    "| Protheus.doc blocks | " ++ toString outline.documentationBlocks ++ " |\n" ++
    "| Generated | " ++ instantText head.instant ++ " |\n\n"

/-- The report ends with the flowchart of the routine. -/
def Outline.report (outline : Outline) (head : ReportHead) : String :=
  head.text outline ++
    reportSection "Includes" outline.includes ++
    reportSection "User functions" (outline.names .userFunction) ++
    reportSection "Static functions" (outline.names .staticFunction) ++
    reportSection "Classes" (outline.names .classDefinition) ++
    reportSection "Tables" outline.tables ++
    missingDocumentation outline.undocumented ++
    "## Flow\n\n```mermaid\n" ++ outline.flowchart head.routine ++ "```\n"

end RoutineAtlas
