import RoutineAtlas.Text.Recognizer

/-
This file sorts the ways in which a routine uses a table into categories.
-/

namespace RoutineAtlas

/-- The categories are listed from the strongest to the weakest. -/
inductive UsageCategory where
  | browse
  | crud
  | query
  | report
  | integration
  | other
  deriving DecidableEq, Repr

/-- These are all categories, the strongest first. -/
def UsageCategory.all : List UsageCategory :=
  [.browse, .crud, .query, .report, .integration, .other]

/-- The strongest category has rank one. -/
def UsageCategory.rank : UsageCategory → Nat
  | .browse => 1
  | .crud => 2
  | .query => 3
  | .report => 4
  | .integration => 5
  | .other => 6

/-- This is the category's name in answers. -/
def UsageCategory.label : UsageCategory → String
  | .browse => "browse"
  | .crud => "crud"
  | .query => "query"
  | .report => "report"
  | .integration => "integration"
  | .other => "other"

/-- The flags tell what a text does with the records of a table. -/
structure UsageMarks where
  hasBrowse : Bool
  hasInsert : Bool
  hasUpdate : Bool
  hasDelete : Bool
  deriving DecidableEq, Repr

/-- A write inserts, updates or deletes a record. -/
def UsageMarks.isCrud (flags : UsageMarks) : Bool :=
  flags.hasInsert || flags.hasUpdate || flags.hasDelete

/-- These words open a browse screen. -/
def browseWords : List String :=
  ["MBROWSE", "FWMBROWSE", "FWMARKBROWSE", "FWBROWSE", "MARKBROW", "AXCADASTRO",
    "FWFORMBROWSE"]

/-- These words run a query. -/
def queryWords : List String :=
  ["TCQUERY", "TCGENQRY", "BEGINSQL", "MPSYSOPENQUERY", "TCSQLEXEC", "FWEXECSTATEMENT",
    "SELECT"]

/-- These words print a report. -/
def reportWords : List String :=
  ["TREPORT", "SETPRINT", "RPTSTATUS", "FWMSPRINTER", "TMSPRINTER"]

/-- These words offer or call a service. -/
def integrationWords : List String :=
  ["WSRESTFUL", "WSSERVICE", "WSMETHOD", "WSCLIENT", "HTTPPOST", "HTTPGET", "HTTPSPOST",
    "FWREST"]

/-- This says that an upper-case text with these flags shows the evidence of a category. -/
def UsageCategory.shows (upper : String) (flags : UsageMarks) : UsageCategory → Bool
  | .browse => flags.hasBrowse
  | .crud => flags.isCrud
  | .query => holdsWord queryWords upper
  | .report => holdsWord reportWords upper
  | .integration => holdsWord integrationWords upper
  | .other => true

/-- The strongest category that shows its evidence is taken. -/
def UsageCategory.of (upper : String) (flags : UsageMarks) : UsageCategory :=
  (UsageCategory.all.find? (UsageCategory.shows upper flags)).getD .other

end RoutineAtlas
