import RoutineAtlas.Routine.Name
import RoutineAtlas.Text.LowerCase

/-
This file names the environments in which sources are kept.
-/

namespace RoutineAtlas

/-- The automatic environment is chosen by the routine that is looked for. -/
inductive Environment where
  | staging
  | production
  | standard
  | auto
  deriving DecidableEq, Repr

/-- This is the environment's name in answers. -/
def Environment.label : Environment → String
  | .staging => "staging"
  | .production => "production"
  | .standard => "standard"
  | .auto => "auto"

/-- A token is read without regard to case and surrounding blanks. -/
def Environment.parse (token : String) : Except Fault Environment :=
  let normal := lowerCase (trim token)
  if normal = "" ∨ normal = "auto" then .ok .auto
  else if normal = "staging" ∨ normal = "hml" then .ok .staging
  else if normal = "production" ∨ normal = "prod" ∨ normal = "prd" then .ok .production
  else if normal = "standard" ∨ normal = "vendor" ∨ normal = "padrao" then .ok .standard
  else .error (.input (.unknownEnvironment normal))

/-- A routine without the custom mark is looked for among the vendor's, all else in staging. -/
def Environment.concrete (environment : Environment) (routine : Option RoutineName) :
    Environment :=
  match environment with
  | .auto =>
      match routine with
      | some name => if name.isMarked then .staging else .standard
      | none => .staging
  | _ => environment

/-- This is the setting that holds the root of the environment. -/
def Environment.setting : Environment → Setting
  | .staging => .stagingRoot
  | .auto => .stagingRoot
  | .production => .productionRoot
  | .standard => .standardRoot

/-- A concrete environment is never the automatic one. -/
theorem Environment.concrete_ne_auto (environment : Environment)
    (routine : Option RoutineName) : environment.concrete routine ≠ .auto := by
  cases environment <;> simp [Environment.concrete]
  cases routine with
  | none => simp
  | some name => simp only; split <;> simp

end RoutineAtlas
