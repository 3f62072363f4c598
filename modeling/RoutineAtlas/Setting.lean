/-
This file names the variables by which a process is configured.
-/

namespace RoutineAtlas

/-- A setting is a variable of the process that overrides the configuration file. -/
inductive Setting where
  | configurationFile
  | stagingRoot
  | productionRoot
  | standardRoot
  | maxResults
  deriving DecidableEq, Repr

/-- This is the name under which the process sees the setting. -/
def Setting.variable : Setting → String
  | .configurationFile => "SONDA_CONFIG"
  | .stagingRoot => "SONDA_STAGING_ROOT"
  | .productionRoot => "SONDA_PRODUCTION_ROOT"
  | .standardRoot => "SONDA_STANDARD_ROOT"
  | .maxResults => "SONDA_MAX_RESULTS"

/-- No two settings share a variable. -/
theorem Setting.variable_injective {first second : Setting}
    (same : first.variable = second.variable) : first = second := by
  cases first <;> cases second <;> first | rfl | (revert same; decide)

end RoutineAtlas
