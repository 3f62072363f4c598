import RoutineAtlas.Configuration.Override
import RoutineAtlas.Proofs.Lookup.Confinement
import RoutineAtlas.Proofs.Lookup.Verdict
import RoutineAtlas.Proofs.Routine.Spelling
import RoutineAtlas.Proofs.Table.Locating

/-
This file settles which paths of answers are absolute. A root that is located is absolute unless it
is empty, and the paths below an absolute root are absolute.
-/

namespace RoutineAtlas

/-- An absolute path stays absolute whatever is written behind it. -/
theorem isAbsolutePath_append {path : PathName} (absolute : isAbsolutePath path = true)
    (behind : PathName) : isAbsolutePath (path ++ behind) = true := by
  rw [isAbsolutePath, beq_iff_eq] at absolute ⊢
  rw [List.head?_append, absolute, Option.some_or]

theorem isAbsolutePath_joinPath {directory : PathName} (absolute : isAbsolutePath directory = true)
    (name : PathName) : isAbsolutePath (joinPath directory name) = true := by
  rw [joinPath]
  split
  · assumption
  · split
    · rename_i empty
      rw [empty] at absolute
      exact absurd absolute (by decide)
    · split
      · exact isAbsolutePath_append absolute name
      · exact isAbsolutePath_append absolute (slashByte :: name)

theorem isAbsolutePath_joinSteps {directory : PathName} (absolute : isAbsolutePath directory = true)
    (steps : List PathName) : isAbsolutePath (joinSteps directory steps) = true := by
  induction steps generalizing directory with
  | nil => exact absolute
  | cons step rest inductionHypothesis =>
      exact inductionHypothesis (isAbsolutePath_joinPath absolute step)

theorem isAbsolutePath_absoluteStart (path : PathName) :
    isAbsolutePath (absoluteStart path) = true := by
  rw [absoluteStart]
  split <;> decide

/-- From an absolute working directory every path is made absolute, except for the empty one. -/
theorem isAbsolutePath_absolutePath_iff {workingDirectory : PathName}
    (absolute : isAbsolutePath workingDirectory = true) {path : PathName} :
    isAbsolutePath (absolutePath workingDirectory path) = true ↔ path ≠ [] := by
  constructor
  · rintro made rfl
    exact absurd made (by simp [absolutePath, isAbsolutePath])
  · intro filled
    have begins : isAbsolutePath (if (PathParts.of path).absolute then absoluteStart path
        else workingDirectory) = true := by
      split
      · exact isAbsolutePath_absoluteStart path
      · exact absolute
    rw [absolutePath, if_neg filled]
    dsimp only
    generalize (if (PathParts.of path).absolute then absoluteStart path else workingDirectory) =
      start at begins ⊢
    have whole := isAbsolutePath_joinSteps begins
      ((PathParts.of path).steps.filter fun step => step != utf8Bytes ".")
    split
    · exact isAbsolutePath_append whole [slashByte]
    · exact whole

/-- What a scan lists lies below its root, so its paths are absolute when the root is. -/
theorem ScanPlan.isAbsolutePath_of_mem_scan {plan : ScanPlan} {tree : FileTree}
    {root path : PathName} (absolute : isAbsolutePath root = true)
    (listed : path ∈ (plan.scan tree root).files) : isAbsolutePath path = true := by
  obtain ⟨steps, holds, _⟩ := ScanPlan.exists_holdsFile listed
  rw [holds.path]
  exact isAbsolutePath_joinSteps absolute steps

/-- Nothing is listed below the empty path. -/
theorem ScanPlan.root_ne_empty_of_mem_scan {plan : ScanPlan} {tree : FileTree}
    {root path : PathName} (listed : path ∈ (plan.scan tree root).files) : root ≠ [] := by
  obtain ⟨steps, holds, _⟩ := ScanPlan.exists_holdsFile listed
  obtain ⟨entry, _, isRoot, _⟩ := holds.file
  exact (FileTree.exists_leads_of_resolve isRoot).1.filled

/-- This is the root that a request asks for, as its caller or the configuration writes it. -/
def Roots.asked? (roots : Roots) (environment : Environment) (routine : Option RoutineName)
    (explicit : Option PathName) : Option PathName :=
  explicit.or (roots.configured (environment.concrete routine))

/-- The root that is asked for is located once it has been made absolute. -/
theorem Roots.exists_asked_of_locate {roots : Roots} {workingDirectory : PathName}
    {environment : Environment} {routine : Option RoutineName} {explicit : Option PathName}
    {place : NamedRoot}
    (located : roots.locate workingDirectory environment routine explicit = .ok place) :
    ∃ root, roots.asked? environment routine explicit = some root ∧
      place.root = absolutePath workingDirectory root := by
  rw [Roots.asked?]
  cases explicit with
  | some root =>
      obtain rfl := Except.ok.inj located
      exact ⟨root, rfl, rfl⟩
  | none =>
      rw [Option.none_or]
      cases configured : roots.configured (environment.concrete routine) with
      | none => simp [Roots.locate, configured] at located
      | some root =>
          rw [Roots.locate] at located
          simp only [configured, Except.ok.injEq] at located
          exact ⟨root, rfl, by rw [← located]⟩

/-- A located root is absolute exactly when the one that was asked for is not the empty path. -/
theorem Roots.isAbsolutePath_locate_iff {roots : Roots} {workingDirectory : PathName}
    (absolute : isAbsolutePath workingDirectory = true) {environment : Environment}
    {routine : Option RoutineName} {explicit : Option PathName} {place : NamedRoot}
    (located : roots.locate workingDirectory environment routine explicit = .ok place) :
    isAbsolutePath place.root = true ↔
      roots.asked? environment routine explicit ≠ some [] := by
  obtain ⟨root, asked, own⟩ := Roots.exists_asked_of_locate located
  rw [own, asked, isAbsolutePath_absolutePath_iff absolute]
  simp

/-- An empty root is located where it was asked for. -/
theorem Roots.locate_root_eq_empty {roots : Roots} {workingDirectory : PathName}
    {environment : Environment} {routine : Option RoutineName} {explicit : Option PathName}
    {place : NamedRoot}
    (located : roots.locate workingDirectory environment routine explicit = .ok place)
    (empty : roots.asked? environment routine explicit = some []) : place.root = [] := by
  obtain ⟨root, asked, own⟩ := Roots.exists_asked_of_locate located
  obtain rfl := Option.some.inj (asked.symm.trans empty)
  rw [own, absolutePath, if_pos rfl]

/-- A setting never brings an empty root. It is there only if it was configured. -/
theorem Roots.configured_override_eq_empty {roots : Roots} {lookup : Setting → Option String}
    {environment : Environment} (empty : (roots.override lookup).configured environment = some []) :
    roots.configured environment = some [] := by
  have given (setting : Setting) : givenRoot lookup setting ≠ some [] := by
    intro blank
    obtain ⟨value, found, none⟩ := Option.map_eq_some_iff.mp blank
    obtain ⟨_, notBlank⟩ := Option.filter_eq_some_iff.mp found
    rw [utf8Bytes_eq_nil_iff.mp none] at notBlank
    exact absurd notBlank (by decide)
  have kept {setting : Setting} {root : Option PathName}
      (found : (givenRoot lookup setting).or root = some []) : root = some [] := by
    obtain value | ⟨_, own⟩ := Option.or_eq_some_iff.mp found
    · exact absurd value (given setting)
    · exact own
  cases environment with
  | staging | auto | production | standard => exact kept empty

/-- The path of a routine that is found is absolute when the root is, and a name below the empty
root. -/
theorem isAbsolutePath_of_lookUpRoutine {typed : String} {name : RoutineName}
    (accepted : RoutineName.parse typed = .ok name) {tree : FileTree} {depth : Nat}
    {root path : PathName} {way : LookupWay} {scanned : Nat}
    (found : lookUpRoutine tree depth root name = .found path way scanned) :
    (isAbsolutePath root = true → isAbsolutePath path = true) ∧
      (root = [] → isAbsolutePath path = false) := by
  cases way with
  | directProbe =>
      obtain ⟨_, spelling, ⟨before, after, split, _⟩, rfl⟩ :=
        lookUpRoutine_directProbe_iff.mp found
      have listed : spelling ∈ name.spellings := by
        rw [split]
        simp
      have inside := (RoutineName.isBare_of_parse accepted).spellings listed
      have step : IsStepName spelling := inside.isStepName
      refine ⟨fun absolute => isAbsolutePath_joinPath absolute spelling, ?_⟩
      rintro rfl
      rw [joinPath, step.isAbsolutePath, if_neg Bool.false_ne_true, if_pos rfl,
        step.isAbsolutePath]
  | walk =>
      obtain ⟨_, _, before, after, split, _⟩ := lookUpRoutine_walk_iff.mp found
      have listed : path ∈ ((ScanPlan.forSources depth).scan tree root).files := by
        rw [split]
        simp
      exact ⟨fun absolute => ScanPlan.isAbsolutePath_of_mem_scan absolute listed,
        fun empty => absurd empty (ScanPlan.root_ne_empty_of_mem_scan listed)⟩

/-- The path of an answer is absolute exactly when the root that was asked for is not empty. -/
theorem Atlas.isAbsolutePath_path_iff {atlas : Atlas} {host : Host}
    (absolute : isAbsolutePath host.tree.workingDirectory = true) {query : RoutineQuery}
    {name : RoutineName} (accepted : RoutineName.parse query.routine = .ok name)
    {answer : Answer RoutineFacts} (answered : (atlas.answerRoutine host query).1 = .ok answer)
    {path : PathName} (found : answer.path? = some path) :
    isAbsolutePath path = true ↔
      atlas.configuration.roots.asked? query.environment (some name) query.root ≠ some [] := by
  obtain ⟨fault, _, failed⟩ | ⟨sought, place, seeks⟩ := atlas.refusesRoutine_or_seeks host query
  · rw [failed] at answered
    exact absurd answered (by simp)
  · obtain rfl : sought = name := Except.ok.inj (seeks.accepted.symm.trans accepted)
    cases outcome : atlas.outcome host sought place with
    | notFound root spellings scanned skipped =>
        rw [seeks.answer_of_notFound outcome] at answered
        obtain rfl := Except.ok.inj answered
        simp at found
    | found source way scanned =>
        rw [seeks.answer_of_found outcome] at answered
        dsimp only at answered
        split at answered
        · exact absurd answered (by simp)
        · obtain rfl := Except.ok.inj answered
          obtain rfl : source = path := by simpa using found
          rw [Atlas.outcome] at outcome
          obtain ⟨below, beside⟩ := isAbsolutePath_of_lookUpRoutine accepted outcome
          have rooted := Roots.isAbsolutePath_locate_iff absolute seeks.located
          constructor
          · intro isAbsolute empty
            rw [beside (Roots.locate_root_eq_empty seeks.located empty)] at isAbsolute
            exact Bool.noConfusion isAbsolute
          · intro filled
            exact below (rooted.mpr filled)

/-- The rows of a table search have absolute paths, for below the empty root there are none. -/
theorem Atlas.isAbsolutePath_of_mem_rows {atlas : Atlas} {host : Host}
    (absolute : isAbsolutePath host.tree.workingDirectory = true) {query : TableQuery}
    {answer : Answer (List UsageRow)} (answered : (atlas.answerTable host query).1 = .ok answer)
    {rows : List UsageRow} (found : answer.data? = some rows) {row : UsageRow}
    (listed : row ∈ rows) : isAbsolutePath row.path = true := by
  obtain ⟨fault, _, failed⟩ | ⟨table, place, searches⟩ := atlas.refusesTable_or_searches host query
  · rw [failed] at answered
    exact absurd answered (by simp)
  · obtain ⟨search, classifier, searched, answer⟩ := searches.exists_search
    rw [answer] at answered
    obtain rfl := Except.ok.inj answered
    obtain ⟨rfl, _⟩ := data_tableAnswer_eq_some_iff.mp found
    obtain ⟨walked, _⟩ := exists_routineOfPath_of_mem_rows searched listed
    have filled := ScanPlan.root_ne_empty_of_mem_scan walked
    have rooted := Roots.isAbsolutePath_locate_iff absolute searches.located
    refine ScanPlan.isAbsolutePath_of_mem_scan (rooted.mpr ?_) walked
    intro empty
    exact filled (Roots.locate_root_eq_empty searches.located empty)

/-- Roots and paths are absolute unless a caller or a configuration file asks for the empty root. -/
theorem Atlas.paths_absolute_unless_root_empty (atlas : Atlas) (host : Host)
    (absolute : isAbsolutePath host.tree.workingDirectory = true) :
    (∀ environment routine explicit place,
      atlas.configuration.roots.locate host.tree.workingDirectory environment routine explicit =
          .ok place →
        (isAbsolutePath place.root = true ↔
          atlas.configuration.roots.asked? environment routine explicit ≠ some [])) ∧
    (∀ query name answer path, RoutineName.parse query.routine = .ok name →
      (atlas.answerRoutine host query).1 = .ok answer → answer.path? = some path →
        (isAbsolutePath path = true ↔
          atlas.configuration.roots.asked? query.environment (some name) query.root ≠ some [])) ∧
    (∀ query answer rows, (atlas.answerTable host query).1 = .ok answer →
      answer.data? = some rows → ∀ row ∈ rows, isAbsolutePath row.path = true) ∧
    ∀ (roots : Roots) (lookup : Setting → Option String) (environment : Environment),
      (roots.override lookup).configured environment = some [] →
        roots.configured environment = some [] := by
  refine ⟨?_, ?_, ?_, ?_⟩
  · intro environment routine explicit place located
    exact Roots.isAbsolutePath_locate_iff absolute located
  · intro query name answer path accepted answered found
    exact Atlas.isAbsolutePath_path_iff absolute accepted answered found
  · intro query answer rows answered found row listed
    exact Atlas.isAbsolutePath_of_mem_rows absolute answered found listed
  · intro roots lookup environment empty
    exact Roots.configured_override_eq_empty empty

/-- A routine that is found at the top has an absolute path. -/
theorem Atlas.path_absolute_plainSource :
    isAbsolutePath plainHost.tree.workingDirectory = true ∧ ∃ answer,
      ((Atlas.new .usual).answerRoutine plainHost (plainQuery "MATA010")).1 = .ok answer ∧
      ∃ path, answer.path? = some path ∧ isAbsolutePath path = true := by
  have absolute : isAbsolutePath plainHost.tree.workingDirectory = true := by decide
  obtain ⟨_, paths, _⟩ :=
    Atlas.paths_absolute_unless_root_empty (Atlas.new .usual) plainHost absolute
  obtain ⟨answer, answered, found⟩ := exists_answer_plainName
  have own := paths _ _ answer _ parse_plainName answered found
  exact ⟨absolute, answer, answered, _, found, own.mpr (by decide)⟩

/-- This query asks for the routine below the empty path. -/
def rootlessQuery : RoutineQuery :=
  { plainQuery "MATA010" with root := some [] }

/-- The source is the second spelling below the empty path. -/
theorem lookUpRoutine_plainSource_empty (depth : Nat) :
    lookUpRoutine plainSource depth [] plainName = .found "MATA010.prw" .directProbe 0 := by
  have top : plainSource.top.at? [] =
      some (.directory { entries := [("MATA010.prw", .file [])] }) := rfl
  have leads (name : PathName) (usable : IsUsablePath name) (steps : pathSteps name = [name]) :
      plainSource.entry name = (plainSource.top.follow true linkLimit [] [name]).map Prod.snd := by
    have start : plainSource.startOf name = [] := by
      have working : pathNames plainSource.workingDirectory = [] := by decide
      rw [FileTree.startOf, working, ite_self]
    rw [FileTree.entry, FileTree.resolve_of_usable usable, steps, start]
  have bare : plainSource.isFile "MATA010" = false := by
    have missing : childNamed "MATA010" { entries := [("MATA010.prw", Entry.file [])] } = none := by
      decide
    rw [FileTree.isFile, leads "MATA010" ⟨by decide, by decide, by decide⟩ (by decide),
      Entry.follow_missing top rfl (by decide) missing]
    rfl
  have file : plainSource.isFile "MATA010.prw" = true := by
    have named : childNamed "MATA010.prw" { entries := [("MATA010.prw", Entry.file [])] } =
        some (.file []) := rfl
    rw [FileTree.isFile, leads "MATA010.prw" ⟨by decide, by decide, by decide⟩ (by decide),
      Entry.follow_name top rfl (by decide) named (by simp),
      Entry.follow_nil (Entry.at?_child top named)]
    rfl
  have spellings : plainName.spellings =
      "MATA010" :: "MATA010.prw" :: plainName.spellings.drop 2 := by decide +kernel
  have first : IsFirst (NamesFile plainSource []) plainName.spellings "MATA010.prw" := by
    refine ⟨["MATA010"], plainName.spellings.drop 2, spellings, file, ?_⟩
    intro other member names
    obtain rfl := List.mem_singleton.mp member
    exact absurd (bare.symm.trans names) (by simp)
  exact lookUpRoutine_directProbe_iff.mpr ⟨rfl, "MATA010.prw", first, by decide⟩

/-- Below the empty path neither the root nor the path of the routine is absolute. -/
theorem Atlas.path_relative_of_empty_root :
    isAbsolutePath plainHost.tree.workingDirectory = true ∧ ∃ answer,
      ((Atlas.new .usual).answerRoutine plainHost rootlessQuery).1 = .ok answer ∧
      answer.provenance.place.root = [] ∧ isAbsolutePath answer.provenance.place.root = false ∧
      answer.path? = some (utf8Bytes "MATA010.prw") ∧ isAbsolutePath "MATA010.prw" = false := by
  have seeks : (Atlas.new .usual).Seeks plainHost rootlessQuery plainName
      { root := [], environment := "manual", manualOverride := true } :=
    ⟨parse_plainName, rfl⟩
  have hit : (Atlas.new .usual).outcome plainHost plainName
      { root := [], environment := "manual", manualOverride := true } =
        .found "MATA010.prw" .directProbe 0 := lookUpRoutine_plainSource_empty _
  refine ⟨by decide, ?_⟩
  rw [seeks.answer_of_found hit]
  exact ⟨_, rfl, rfl, by decide, rfl, by decide⟩

end RoutineAtlas
