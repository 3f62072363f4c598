import RoutineAtlas.Lookup.Atlas

/-
This file lists the ways in which a request can end. A request is refused for its name, for a
missing root or for its cap, and otherwise it is answered.
-/

namespace RoutineAtlas

/-- A routine name is refused as an input. -/
theorem RoutineName.exists_cause_of_parse {typed : String} {fault : Fault}
    (rejected : RoutineName.parse typed = .error fault) : ∃ cause, fault = .input cause := by
  rw [RoutineName.parse] at rejected
  split at rejected
  · exact ⟨_, (Except.error.inj rejected).symm⟩
  · split at rejected
    · exact ⟨_, (Except.error.inj rejected).symm⟩
    · split at rejected
      · exact ⟨_, (Except.error.inj rejected).symm⟩
      · split at rejected
        · exact ⟨_, (Except.error.inj rejected).symm⟩
        · exact absurd rejected (by simp)

/-- A table name is refused as an input. -/
theorem TableName.exists_cause_of_parse {typed : String} {fault : Fault}
    (rejected : TableName.parse typed = .error fault) : ∃ cause, fault = .input cause := by
  rw [TableName.parse] at rejected
  split at rejected
  · exact ⟨_, (Except.error.inj rejected).symm⟩
  · split at rejected
    · exact absurd rejected (by simp)
    · exact ⟨_, (Except.error.inj rejected).symm⟩

/-- No root is located exactly when the caller gives none and the environment has none. -/
theorem Roots.locate_eq_error_iff {roots : Roots} {workingDirectory : PathName}
    {environment : Environment} {routine : Option RoutineName} {explicit : Option PathName}
    {fault : Fault} :
    roots.locate workingDirectory environment routine explicit = .error fault ↔
      explicit = none ∧ roots.configured (environment.concrete routine) = none ∧
        fault = .rootMissing (environment.concrete routine).setting := by
  cases explicit with
  | some root => simp [Roots.locate]
  | none =>
      cases configured : roots.configured (environment.concrete routine) with
      | some root => simp [Roots.locate, configured]
      | none => simp [Roots.locate, configured, eq_comm]

theorem Roots.locate_of_unset {roots : Roots} {environment : Environment}
    {routine : Option RoutineName} {explicit : Option PathName} (implicit : explicit = none)
    (unset : roots.configured (environment.concrete routine) = none) (workingDirectory : PathName) :
    roots.locate workingDirectory environment routine explicit =
      .error (.rootMissing (environment.concrete routine).setting) :=
  Roots.locate_eq_error_iff.mpr ⟨implicit, unset, rfl⟩

/-- A request may be refused for a fault that its caller can mend. -/
inductive Atlas.RefusesRoutine (atlas : Atlas) (query : RoutineQuery) : Fault → Prop
  | name {cause : InputFault}
      (rejected : RoutineName.parse query.routine = .error (.input cause)) :
      atlas.RefusesRoutine query (.input cause)
  | root {name : RoutineName} (accepted : RoutineName.parse query.routine = .ok name)
      (implicit : query.root = none)
      (unset : atlas.configuration.roots.configured
        (query.environment.concrete (some name)) = none) :
      atlas.RefusesRoutine query (.rootMissing (query.environment.concrete (some name)).setting)

/-- A table search is refused for its name, then for its root and last for its cap. -/
inductive Atlas.RefusesTable (atlas : Atlas) (query : TableQuery) : Fault → Prop
  | name {cause : InputFault} (rejected : TableName.parse query.table = .error (.input cause)) :
      atlas.RefusesTable query (.input cause)
  | root {table : TableName} (accepted : TableName.parse query.table = .ok table)
      (implicit : query.root = none)
      (unset : atlas.configuration.roots.configured (query.environment.concrete none) = none) :
      atlas.RefusesTable query (.rootMissing (query.environment.concrete none).setting)
  | cap {table : TableName} (accepted : TableName.parse query.table = .ok table)
      (located : query.root ≠ none ∨
        atlas.configuration.roots.configured (query.environment.concrete none) ≠ none)
      (zero : query.maxResults.getD atlas.configuration.search.maxResults = 0) :
      atlas.RefusesTable query (.input .zeroCap)

/-- A routine request is refused for one fault only. -/
theorem Atlas.RefusesRoutine.unique {atlas : Atlas} {query : RoutineQuery} {fault other : Fault}
    (refused : atlas.RefusesRoutine query fault) (again : atlas.RefusesRoutine query other) :
    fault = other := by
  cases refused with
  | name rejected =>
      cases again with
      | name rejectedToo => exact Except.error.inj (rejected.symm.trans rejectedToo)
      | root accepted => exact absurd (rejected.symm.trans accepted) (by simp)
  | root accepted =>
      cases again with
      | name rejected => exact absurd (rejected.symm.trans accepted) (by simp)
      | root acceptedToo => rw [Except.ok.inj (accepted.symm.trans acceptedToo)]

/-- A table request is refused for one fault only. -/
theorem Atlas.RefusesTable.unique {atlas : Atlas} {query : TableQuery} {fault other : Fault}
    (refused : atlas.RefusesTable query fault) (again : atlas.RefusesTable query other) :
    fault = other := by
  cases refused with
  | name rejected =>
      cases again with
      | name rejectedToo => exact Except.error.inj (rejected.symm.trans rejectedToo)
      | root accepted => exact absurd (rejected.symm.trans accepted) (by simp)
      | cap accepted => exact absurd (rejected.symm.trans accepted) (by simp)
  | root accepted implicit unset =>
      cases again with
      | name rejected => exact absurd (rejected.symm.trans accepted) (by simp)
      | root => rfl
      | cap _ located => exact absurd located (by simp [implicit, unset])
  | cap accepted located =>
      cases again with
      | name rejected => exact absurd (rejected.symm.trans accepted) (by simp)
      | root _ implicit unset => exact absurd located (by simp [implicit, unset])
      | cap => rfl

/-- These are the routine and the place at which a request looks for it. -/
structure Atlas.Seeks (atlas : Atlas) (host : Host) (query : RoutineQuery) (name : RoutineName)
    (place : NamedRoot) : Prop where
  accepted : RoutineName.parse query.routine = .ok name
  located : atlas.configuration.roots.locate host.tree.workingDirectory query.environment
    (some name) query.root = .ok place

/-- These are the options of a table search with the cap that counts. -/
def Atlas.searchOptions (atlas : Atlas) (query : TableQuery) : SearchOptions where
  includeStandard := query.includeStandard
  maxResults := query.maxResults.getD atlas.configuration.search.maxResults

/-- These are the table and the place at which a request searches. -/
structure Atlas.Searches (atlas : Atlas) (host : Host) (query : TableQuery) (table : TableName)
    (place : NamedRoot) : Prop where
  accepted : TableName.parse query.table = .ok table
  located : atlas.configuration.roots.locate host.tree.workingDirectory query.environment none
    query.root = .ok place
  capped : 1 ≤ (atlas.searchOptions query).maxResults

/-- This is the outcome of a look-up at the place. -/
def Atlas.outcome (atlas : Atlas) (host : Host) (name : RoutineName) (place : NamedRoot) :
    LookupOutcome :=
  lookUpRoutine host.tree atlas.configuration.search.routineDepth place.root name

/-- A routine request is refused, or it looks for a routine. -/
theorem Atlas.refusesRoutine_or_seeks (atlas : Atlas) (host : Host) (query : RoutineQuery) :
    (∃ fault, atlas.RefusesRoutine query fault ∧
      atlas.answerRoutine host query = (.error fault, atlas, host)) ∨
    ∃ name place, atlas.Seeks host query name place := by
  cases parsed : RoutineName.parse query.routine with
  | error fault =>
      obtain ⟨cause, rfl⟩ := RoutineName.exists_cause_of_parse parsed
      exact Or.inl ⟨_, .name parsed, by rw [Atlas.answerRoutine, parsed]⟩
  | ok name =>
      cases located : atlas.configuration.roots.locate host.tree.workingDirectory
          query.environment (some name) query.root with
      | error fault =>
          obtain ⟨implicit, unset, rfl⟩ := Roots.locate_eq_error_iff.mp located
          refine Or.inl ⟨_, .root parsed implicit unset, ?_⟩
          rw [Atlas.answerRoutine, parsed]
          dsimp only
          rw [located]
      | ok place => exact Or.inr ⟨name, place, parsed, located⟩

/-- A request that looks for a routine is not refused. -/
theorem Atlas.Seeks.not_refuses {atlas : Atlas} {host : Host} {query : RoutineQuery}
    {name : RoutineName} {place : NamedRoot} (seeks : atlas.Seeks host query name place)
    (fault : Fault) : ¬ atlas.RefusesRoutine query fault := by
  intro refused
  cases refused with
  | name rejected =>
      rw [seeks.accepted] at rejected
      exact absurd rejected (by simp)
  | root accepted implicit unset =>
      obtain rfl := Except.ok.inj (seeks.accepted.symm.trans accepted)
      have located := seeks.located
      rw [Roots.locate_of_unset implicit unset] at located
      exact absurd located (by simp)

/-- A routine that is not found leaves everything as it was. -/
theorem Atlas.Seeks.answer_of_notFound {atlas : Atlas} {host : Host} {query : RoutineQuery}
    {name : RoutineName} {place : NamedRoot} (seeks : atlas.Seeks host query name place)
    {root : PathName} {spellings : List String} {scanned : Nat} {skipped : List SkippedEntry}
    (missed : atlas.outcome host name place = .notFound root spellings scanned skipped) :
    atlas.answerRoutine host query =
      (.ok (negativeAnswer name place root spellings scanned skipped), atlas, host) := by
  rw [Atlas.outcome] at missed
  rw [Atlas.answerRoutine, seeks.accepted]
  dsimp only
  rw [seeks.located]
  dsimp only
  rw [missed]

/-- A routine that is found is classified, and then its detail is read. -/
theorem Atlas.Seeks.answer_of_found {atlas : Atlas} {host : Host} {query : RoutineQuery}
    {name : RoutineName} {place : NamedRoot} (seeks : atlas.Seeks host query name place)
    {path : PathName} {way : LookupWay} {scanned : Nat}
    (hit : atlas.outcome host name place = .found path way scanned) :
    let judged := atlas.classifier.classify host.tree name (some path)
    let read := host.detail name place path judged.1.origin query.aspect
    atlas.answerRoutine host query =
      (match read.1 with
        | .error fault => .error (.access fault)
        | .ok detail => .ok (positiveAnswer name place path judged.1 detail),
        { atlas with classifier := judged.2 }, read.2) := by
  intro judged read
  rw [Atlas.outcome] at hit
  rw [Atlas.answerRoutine, seeks.accepted]
  dsimp only
  rw [seeks.located]
  dsimp only
  rw [hit]
  dsimp only
  split
  · rename_i fault later detail
    simp only [read, judged, detail]
  · rename_i found later detail
    simp only [read, judged, detail]

/-- A table request is refused, or it searches for a table. -/
theorem Atlas.refusesTable_or_searches (atlas : Atlas) (host : Host) (query : TableQuery) :
    (∃ fault, atlas.RefusesTable query fault ∧
      atlas.answerTable host query = (.error fault, atlas)) ∨
    ∃ table place, atlas.Searches host query table place := by
  cases parsed : TableName.parse query.table with
  | error fault =>
      obtain ⟨cause, rfl⟩ := TableName.exists_cause_of_parse parsed
      exact Or.inl ⟨_, .name parsed, by rw [Atlas.answerTable, parsed]⟩
  | ok table =>
      cases located : atlas.configuration.roots.locate host.tree.workingDirectory
          query.environment none query.root with
      | error fault =>
          obtain ⟨implicit, unset, rfl⟩ := Roots.locate_eq_error_iff.mp located
          refine Or.inl ⟨_, .root parsed implicit unset, ?_⟩
          rw [Atlas.answerTable, parsed]
          dsimp only
          rw [located]
      | ok place =>
          by_cases zero : query.maxResults.getD atlas.configuration.search.maxResults = 0
          · have there : query.root ≠ none ∨ atlas.configuration.roots.configured
                (query.environment.concrete none) ≠ none := by
              by_cases implicit : query.root = none
              · refine Or.inr fun unset => ?_
                rw [Roots.locate_of_unset implicit unset] at located
                exact absurd located (by simp)
              · exact Or.inl implicit
            refine Or.inl ⟨_, .cap parsed there zero, ?_⟩
            rw [Atlas.answerTable, parsed]
            dsimp only
            rw [located]
            simp only [searchTree, zero, if_true]
          · exact Or.inr ⟨table, place, parsed, located, Nat.one_le_iff_ne_zero.mpr zero⟩

/-- A request that searches for a table is not refused. -/
theorem Atlas.Searches.not_refuses {atlas : Atlas} {host : Host} {query : TableQuery}
    {table : TableName} {place : NamedRoot} (searches : atlas.Searches host query table place)
    (fault : Fault) : ¬ atlas.RefusesTable query fault := by
  intro refused
  cases refused with
  | name rejected =>
      rw [searches.accepted] at rejected
      exact absurd rejected (by simp)
  | root accepted implicit unset =>
      have located := searches.located
      rw [Roots.locate_of_unset implicit unset] at located
      exact absurd located (by simp)
  | cap accepted located zero =>
      have capped := searches.capped
      rw [Atlas.searchOptions, zero] at capped
      exact absurd capped (by simp)

/-- A table request is answered by a search of the tree. -/
theorem Atlas.Searches.exists_search {atlas : Atlas} {host : Host} {query : TableQuery}
    {table : TableName} {place : NamedRoot} (searches : atlas.Searches host query table place) :
    ∃ search classifier,
      searchTree host.tree atlas.configuration.search.tableDepth place.root table
        (atlas.searchOptions query) atlas.classifier = .ok (search, classifier) ∧
      atlas.answerTable host query =
        (.ok (tableAnswer place search), { atlas with classifier }) := by
  have capped : (atlas.searchOptions query).maxResults ≠ 0 :=
    Nat.one_le_iff_ne_zero.mp searches.capped
  cases searched : searchTree host.tree atlas.configuration.search.tableDepth place.root table
      (atlas.searchOptions query) atlas.classifier with
  | error fault => simp [searchTree, capped] at searched
  | ok result =>
      obtain ⟨search, classifier⟩ := result
      refine ⟨search, classifier, rfl, ?_⟩
      rw [Atlas.searchOptions] at searched
      rw [Atlas.answerTable, searches.accepted]
      dsimp only
      rw [searches.located]
      dsimp only
      rw [searched]

/-- The data of a table answer are the rows of its search, when there are some. -/
theorem data_tableAnswer_eq_some_iff {place : NamedRoot} {search : UsageSearch}
    {rows : List UsageRow} :
    (tableAnswer place search).data? = some rows ↔ search.rows = rows ∧ rows ≠ [] := by
  rw [Answer.data?, tableAnswer]
  dsimp only
  cases found : search.rows with
  | nil => simp +contextual [eq_comm]
  | cons row others =>
      simp only [List.isEmpty_cons, Bool.false_eq_true, if_false, Option.some.injEq]
      constructor
      · rintro rfl
        exact ⟨rfl, List.cons_ne_nil _ _⟩
      · exact And.left

/-- The classifier has no part in a refusal. -/
theorem Atlas.RefusesTable.of_configuration {atlas other : Atlas}
    (same : other.configuration = atlas.configuration) {query : TableQuery} {fault : Fault}
    (refused : atlas.RefusesTable query fault) : other.RefusesTable query fault := by
  cases refused with
  | name rejected => exact .name rejected
  | root accepted implicit unset => exact .root accepted implicit (same ▸ unset)
  | cap accepted located zero => exact .cap accepted (same ▸ located) (same ▸ zero)

theorem Atlas.Searches.of_configuration {atlas other : Atlas}
    (same : other.configuration = atlas.configuration) {host : Host} {query : TableQuery}
    {table : TableName} {place : NamedRoot} (searches : atlas.Searches host query table place) :
    other.Searches host query table place where
  accepted := searches.accepted
  located := same ▸ searches.located
  capped := by
    have capped := searches.capped
    rw [Atlas.searchOptions] at capped ⊢
    exact same ▸ capped

/-- A refused table request answers its fault. -/
theorem Atlas.RefusesTable.answer {atlas : Atlas} {query : TableQuery} {fault : Fault}
    (refused : atlas.RefusesTable query fault) (host : Host) :
    atlas.answerTable host query = (.error fault, atlas) := by
  obtain ⟨other, again, answer⟩ | ⟨table, place, searches⟩ :=
    atlas.refusesTable_or_searches host query
  · rw [answer, refused.unique again]
  · exact absurd refused (searches.not_refuses fault)

end RoutineAtlas
