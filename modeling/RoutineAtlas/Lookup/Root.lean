import RoutineAtlas.Configuration.Basic
import RoutineAtlas.Environment
import RoutineAtlas.Files.Path

/-
This file finds the root that a query searches.
-/

namespace RoutineAtlas

/-- A named root tells under which name it was found. -/
structure NamedRoot where
  root : PathName
  environment : String
  manualOverride : Bool
  deriving DecidableEq, Repr

/-- This is the configured root of an environment. -/
def Roots.configured (roots : Roots) : Environment → Option PathName
  | .staging => roots.staging
  | .auto => roots.staging
  | .production => roots.production
  | .standard => roots.standard

/-- A root that the caller gives wins over the environment's. -/
def Roots.locate (roots : Roots) (workingDirectory : PathName) (environment : Environment)
    (routine : Option RoutineName) (explicit : Option PathName) : Except Fault NamedRoot :=
  match explicit with
  | some root =>
      .ok { root := absolutePath workingDirectory root
            environment := "manual"
            manualOverride := true }
  | none =>
      let concrete := environment.concrete routine
      match roots.configured concrete with
      | some root =>
          .ok { root := absolutePath workingDirectory root
                environment := concrete.label
                manualOverride := false }
      | none => .error (.rootMissing concrete.setting)

end RoutineAtlas
