import RoutineAtlas.Fault
import RoutineAtlas.Text.BlankCharacter
import RoutineAtlas.Text.LowerCase

/-
This file lists what can be asked about a routine that has been located.
-/

namespace RoutineAtlas

/-- An aspect selects what is told about a routine beyond its place. -/
inductive RoutineAspect where
  | locate
  | outline
  | report
  | source
  | versionControl
  deriving DecidableEq, Repr

/-- This is the aspect's name in queries and answers. -/
def RoutineAspect.label : RoutineAspect → String
  | .locate => "locate"
  | .outline => "structure"
  | .report => "report"
  | .source => "source"
  | .versionControl => "git_status"

/-- A token is read without regard to case, and its hyphens count as underscores. -/
def RoutineAspect.normalize (token : String) : String :=
  (lowerCase (trim token)).map fun character => if character = '-' then '_' else character

/-- An empty token asks for the place only. -/
def RoutineAspect.parse (token : String) : Except Fault RoutineAspect :=
  let normal := RoutineAspect.normalize token
  if normal = "" ∨ normal = "locate" then .ok .locate
  else if normal = "structure" then .ok .outline
  else if normal = "report" then .ok .report
  else if normal = "source" then .ok .source
  else if normal = "git_status" ∨ normal = "git" then .ok .versionControl
  else .error (.input (.unknownAction normal))

end RoutineAtlas
