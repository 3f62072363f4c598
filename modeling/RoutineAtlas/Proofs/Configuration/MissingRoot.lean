import RoutineAtlas.Configuration.Override
import RoutineAtlas.Proofs.Lookup.Absolute
import RoutineAtlas.Proofs.Text.AsciiBytes

/-
This file settles how a missing root is mended. The fault names a setting, and once that setting is
given, the same request has its root and no request for another environment has changed.
-/

namespace RoutineAtlas

/-- The root of an environment is the value of its setting, or else the one it had before. -/
theorem Roots.configured_override (roots : Roots) (lookup : Setting → Option String)
    (environment : Environment) :
    (roots.override lookup).configured environment =
      (givenRoot lookup environment.setting).or (roots.configured environment) := by
  cases environment <;> rfl

/-- Two environments that are concrete have their roots in different settings. -/
theorem Environment.setting_injective {first second : Environment} (isConcrete : first ≠ .auto)
    (isConcreteToo : second ≠ .auto) (same : first.setting = second.setting) : first = second := by
  cases first <;> cases second <;> simp_all [Environment.setting]

/-- The row cap is no root. -/
theorem Environment.setting_ne_maxResults (environment : Environment) :
    environment.setting ≠ .maxResults := by
  cases environment <;> simp [Environment.setting]

/-- A value that is not blank counts as given. -/
theorem givenValue_of_filled {lookup : Setting → Option String} {setting : Setting}
    {value : String} (found : lookup setting = some value) (filled : trim value ≠ "") :
    givenValue lookup setting = some value := by
  rw [givenValue, found, Option.filter_some, if_pos (bne_iff_ne.mpr filled)]

/-- A value that is blank or absent counts as not given. -/
theorem givenValue_eq_none {lookup : Setting → Option String} {setting : Setting}
    (blank : ∀ text, lookup setting = some text → trim text = "") :
    givenValue lookup setting = none := by
  rw [givenValue, Option.filter_eq_none_iff]
  intro text found
  simp [blank text found]

/-- Among the variables of a process, the one of this name has a value and all others are blank or
not set. -/
structure GivesOnly (process : String → Option String) (name value : String) : Prop where
  given : process name = some value
  filled : trim value ≠ ""
  blank : ∀ other text, other ≠ name → process other = some text → trim text = ""

/-- A setting is looked up by the name of its variable. -/
def settingsOf (process : String → Option String) (setting : Setting) : Option String :=
  process setting.variable

section

variable {process : String → Option String} {given : Setting} {value : String}

theorem GivesOnly.givenValue_self (gives : GivesOnly process given.variable value) :
    givenValue (settingsOf process) given = some value :=
  givenValue_of_filled gives.given gives.filled

theorem GivesOnly.givenValue_other (gives : GivesOnly process given.variable value)
    {other : Setting} (differs : other ≠ given) :
    givenValue (settingsOf process) other = none := by
  apply givenValue_eq_none
  intro text found
  exact gives.blank _ text (mt Setting.variable_injective differs) found

/-- The setting of one environment leaves the roots of the others as they are. -/
theorem GivesOnly.configured_override {environment other : Environment}
    (gives : GivesOnly process environment.setting.variable value)
    (isConcrete : environment ≠ .auto) (isConcreteToo : other ≠ .auto) (roots : Roots) :
    (roots.override (settingsOf process)).configured other =
      if other = environment then some (utf8Bytes value) else roots.configured other := by
  rw [Roots.configured_override, givenRoot]
  by_cases same : other = environment
  · rw [same, gives.givenValue_self, if_pos rfl, Option.map_some, Option.some_or]
  · have differs : other.setting ≠ environment.setting :=
      mt (Environment.setting_injective isConcreteToo isConcrete) same
    rw [gives.givenValue_other differs, if_neg same, Option.map_none, Option.none_or]

/-- The setting of a root takes no part in the row cap, so that the override succeeds. -/
theorem GivesOnly.override {environment : Environment}
    (gives : GivesOnly process environment.setting.variable value)
    (configuration : Configuration) :
    configuration.override (settingsOf process) =
      ({ configuration with roots := configuration.roots.override (settingsOf process) },
        none) := by
  have noCap := gives.givenValue_other (Ne.symm environment.setting_ne_maxResults)
  rw [Configuration.override, noCap]

end

/-- A request is located by the root of its concrete environment only. -/
theorem Roots.locate_congr {roots other : Roots} {environment : Environment}
    {routine : Option RoutineName}
    (same : roots.configured (environment.concrete routine) =
      other.configured (environment.concrete routine))
    (workingDirectory : PathName) (explicit : Option PathName) :
    roots.locate workingDirectory environment routine explicit =
      other.locate workingDirectory environment routine explicit := by
  simp only [Roots.locate, same]

/-- A request without a root of its own is located at the configured root of its environment. -/
theorem Roots.locate_of_configured {roots : Roots} {environment : Environment}
    {routine : Option RoutineName} {root : PathName}
    (configured : roots.configured (environment.concrete routine) = some root)
    (workingDirectory : PathName) :
    roots.locate workingDirectory environment routine none = .ok
      { root := absolutePath workingDirectory root
        environment := (environment.concrete routine).label
        manualOverride := false } := by
  simp only [Roots.locate, configured]

/-- The fault of a missing root names the one setting that mends the request and changes no other.
-/
theorem Configuration.missing_root_mended_by_setting {configuration : Configuration}
    {workingDirectory : PathName} {environment : Environment} {routine : Option RoutineName}
    {missing : Setting}
    (failed : configuration.roots.locate workingDirectory environment routine none =
      .error (.rootMissing missing))
    {process : String → Option String} {value : String}
    (gives : GivesOnly process missing.variable value) :
    ∃ mended, configuration.override (settingsOf process) = (mended, none) ∧
      mended.roots.locate workingDirectory environment routine none = .ok
        { root := absolutePath workingDirectory value
          environment := (environment.concrete routine).label
          manualOverride := false } ∧
      (isAbsolutePath workingDirectory = true →
        isAbsolutePath (absolutePath workingDirectory value) = true) ∧
      ∀ (other : Environment) (otherRoutine : Option RoutineName) (explicit : Option PathName),
        other.concrete otherRoutine ≠ environment.concrete routine →
          mended.roots.locate workingDirectory other otherRoutine explicit =
            configuration.roots.locate workingDirectory other otherRoutine explicit := by
  obtain ⟨_, _, same⟩ := Roots.locate_eq_error_iff.mp failed
  obtain rfl := Fault.rootMissing.inj same
  have configured (other : Environment) (otherRoutine : Option RoutineName) :=
    gives.configured_override (environment.concrete_ne_auto routine)
      (other.concrete_ne_auto otherRoutine) configuration.roots
  refine ⟨_, gives.override configuration, ?_, ?_, ?_⟩
  · apply Roots.locate_of_configured
    rw [configured, if_pos rfl]
  · intro absolute
    refine (isAbsolutePath_absolutePath_iff absolute).mpr ?_
    intro nothing
    rw [utf8Bytes_eq_nil_iff.mp nothing] at gives
    exact gives.filled (by decide)
  · intro other otherRoutine explicit differs
    apply Roots.locate_congr
    rw [configured, if_neg differs]

/-- Only the customer's staging tree is configured. -/
def stagingOnly : Configuration where
  roots := { Roots.unset with staging := some (utf8Bytes "/srv/hml") }
  search := .usual

/-- This process gives the vendor's tree, and leaves another variable blank. -/
def vendorVariable (name : String) : Option String :=
  if name = "SONDA_STANDARD_ROOT" then some "padrao/."
  else if name = "SONDA_PRODUCTION_ROOT" then some " \t"
  else none

theorem givesOnly_vendorVariable :
    GivesOnly vendorVariable Setting.standardRoot.variable "padrao/." where
  given := by decide
  filled := by decide
  blank := by
    intro other text differs found
    have name : Setting.standardRoot.variable = "SONDA_STANDARD_ROOT" := rfl
    rw [vendorVariable, if_neg (name ▸ differs)] at found
    split at found
    · obtain rfl := Option.some.inj found
      decide
    · exact absurd found (by simp)

/-- A routine without the mark is looked for among the vendor's. Its root is missing until the
setting is given, and a routine with the mark is looked for where it was. -/
theorem Configuration.missing_vendorRoot_mended :
    let plain : RoutineName := { typed := "MATA010", base := "MATA010" }
    let marked : RoutineName := { typed := "U_MATA010", base := "U_MATA010" }
    stagingOnly.roots.locate "/srv" .auto (some plain) none =
        .error (.rootMissing .standardRoot) ∧
      GivesOnly vendorVariable Setting.standardRoot.variable "padrao/." ∧
      ∃ mended, stagingOnly.override (settingsOf vendorVariable) = (mended, none) ∧
        mended.roots.locate "/srv" .auto (some plain) none = .ok
          { root := "/srv/padrao", environment := "standard", manualOverride := false } ∧
        isAbsolutePath "/srv/padrao" = true ∧
        mended.roots.locate "/srv" .auto (some marked) none = .ok
          { root := "/srv/hml", environment := "staging", manualOverride := false } := by
  intro plain marked
  have failed : stagingOnly.roots.locate "/srv" .auto (some plain) none =
      .error (.rootMissing .standardRoot) := by
    decide
  have root : absolutePath "/srv" "padrao/." = "/srv/padrao" := by decide
  obtain ⟨mended, overridden, located, absolute, kept⟩ :=
    Configuration.missing_root_mended_by_setting failed givesOnly_vendorVariable
  refine ⟨failed, givesOnly_vendorVariable, mended, overridden, ?_, ?_, ?_⟩
  · rw [located, root]
    decide
  · exact root ▸ absolute (by decide)
  · rw [kept .auto (some marked) none (by decide)]
    decide

end RoutineAtlas
