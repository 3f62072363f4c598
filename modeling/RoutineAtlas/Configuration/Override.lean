import RoutineAtlas.Configuration.Reading
import RoutineAtlas.Text.BlankCharacter

/-
This file applies the settings of a process to a configuration.
-/

namespace RoutineAtlas

/-- A setting that is blank counts as not given. -/
def givenValue (lookup : Setting → Option String) (setting : Setting) : Option String :=
  (lookup setting).filter fun value => trim value != ""

/-- A given root is the path that it is the text of. -/
def givenRoot (lookup : Setting → Option String) (setting : Setting) : Option PathName :=
  (givenValue lookup setting).map utf8Bytes

/-- The given roots take the place of the configured ones, exactly as they are written. -/
def Roots.override (roots : Roots) (lookup : Setting → Option String) : Roots where
  staging := (givenRoot lookup .stagingRoot).or roots.staging
  production := (givenRoot lookup .productionRoot).or roots.production
  standard := (givenRoot lookup .standardRoot).or roots.standard

/-- A row cap is a positive count between blanks. -/
def readRowCap (value : String) : Option Nat :=
  (readCount (trim value).toList).filter (0 < ·)

/-- A row cap that is no number is a fault, but the roots have been set by then. -/
def Configuration.override (configuration : Configuration) (lookup : Setting → Option String) :
    Configuration × Option Fault :=
  let rooted := { configuration with roots := configuration.roots.override lookup }
  match givenValue lookup .maxResults with
  | none => (rooted, none)
  | some value =>
      match readRowCap value with
      | some cap => ({ rooted with search := { rooted.search with maxResults := cap } }, none)
      | none => (rooted, some (.configuration (.rowCap value)))

/-- A configuration comes from a file if one is given, and settings that are text override it. -/
def Configuration.ofProcess (tree : FileTree) (lookup : Setting → Option Bytes)
    (path : Option PathName) : Except Fault Configuration := do
  let configured ← match path.or (lookup .configurationFile) with
    | some file => Configuration.ofFile tree file
    | none => pure .usual
  match configured.override fun setting => (lookup setting).bind readUtf8 with
  | (configuration, none) => pure configuration
  | (_, some fault) => throw fault

end RoutineAtlas
