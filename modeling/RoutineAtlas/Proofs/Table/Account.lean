import RoutineAtlas.Proofs.Table.Search

/-
This file settles what becomes of the files that refer to a table. A search that comes to the end of
the walk lists a referring file, or counts it as the vendor's, or its stem is not the name of a
routine.
-/

namespace RoutineAtlas

/-- The table is in a file when the file can be read and its text in upper case refers to it. -/
def TableName.isIn (table : TableName) (tree : FileTree) (path : PathName) : Bool :=
  match tree.readSource path with
  | .error _ => false
  | .ok content => table.isReferenced (upperCase content)

/-- A file holds a routine when its stem is the name of one. -/
def holdsRoutine (path : PathName) : Bool :=
  (routineOfPath path).isSome

/-- A file is judged when the table is in it and it holds a routine. -/
theorem TableName.isSome_referral? (table : TableName) (tree : FileTree) (path : PathName) :
    (table.referral? tree path).isSome = (table.isIn tree path && holdsRoutine path) := by
  rw [TableName.referral?, TableName.isIn, holdsRoutine]
  cases tree.readSource path with
  | error fault => rfl
  | ok content =>
      cases referring : table.isReferenced (upperCase content) with
      | false => simp [referring]
      | true => simp [referring]

/-- This is the number of files for which a search has accounted. -/
def Tally.accounted (tally : Tally) : Nat :=
  tally.rows.length + tally.standardExcluded

/-- A routine that is judged is listed or left out, and so it is accounted for once. -/
theorem Tally.accounted_judge (tally : Tally) (tree : FileTree) (table : TableName)
    (options : SearchOptions) (name : RoutineName) (path : PathName) (content : String) :
    (tally.judge tree table options name path content).accounted = tally.accounted + 1 := by
  rw [Tally.judge, Tally.accounted, Tally.accounted]
  dsimp only
  split
  · dsimp only
    omega
  · dsimp only
    rw [List.length_append, List.length_singleton]
    omega

/-- A visit accounts for its file when it is judged and for nothing else. -/
theorem Tally.accounted_visit (tally : Tally) (tree : FileTree) (table : TableName)
    (options : SearchOptions) (path : PathName) :
    (tally.visit tree table options path).accounted =
      tally.accounted + (table.isIn tree path && holdsRoutine path).toNat := by
  rw [← table.isSome_referral?]
  obtain ⟨none, rows, excluded, _⟩ | ⟨name, content, refers, visited⟩ :=
    tally.visit_cases tree table options path
  · rw [none, Tally.accounted, rows, excluded]
    rfl
  · rw [refers, visited, Tally.accounted_judge]
    rfl

/-- A search that comes to the end accounts for all files that are judged. -/
theorem Tally.accounted_run {tree : FileTree} {table : TableName} {options : SearchOptions}
    {paths : List PathName} {tally : Tally}
    (ended : (Tally.run tree table options paths tally).2 = false) :
    (Tally.run tree table options paths tally).1.accounted =
      tally.accounted + paths.countP fun path => table.isIn tree path && holdsRoutine path := by
  induction paths generalizing tally with
  | nil => rfl
  | cons path rest inductionHypothesis =>
      rw [Tally.run] at ended ⊢
      split at ended
      · exact Bool.noConfusion ended
      · rename_i room
        rw [if_neg room, inductionHypothesis ended, Tally.accounted_visit, List.countP_cons]
        cases table.isIn tree path && holdsRoutine path with
        | false => simp
        | true => simp only [Bool.toNat_true, if_true]; omega

/-- A cap with room for all files is not reached. -/
theorem Tally.run_of_room (tree : FileTree) (table : TableName) {options : SearchOptions}
    {paths : List PathName} {tally : Tally}
    (room : tally.accounted + paths.length ≤ options.maxResults) :
    (Tally.run tree table options paths tally).2 = false := by
  induction paths generalizing tally with
  | nil => rfl
  | cons path rest inductionHypothesis =>
      rw [List.length_cons] at room
      have notFull : ¬ options.maxResults ≤ tally.rows.length := by
        rw [Tally.accounted] at room
        omega
      rw [Tally.run, if_neg notFull]
      apply inductionHypothesis
      rw [Tally.accounted_visit]
      have one := Bool.toNat_le (table.isIn tree path && holdsRoutine path)
      omega

/-- The rows and the count of what was left out are those of the tally. -/
theorem accounted_of_searchTree {tree : FileTree} {depth : Nat} {root : PathName}
    {table : TableName} {options : SearchOptions} {classifier later : Classifier}
    {search : UsageSearch}
    (found : searchTree tree depth root table options classifier = .ok (search, later)) :
    let result := Tally.run tree table options ((ScanPlan.forSources depth).scan tree root).files
      (.start classifier)
    search.rows.length + search.standardExcluded = result.1.accounted ∧
      search.limitReached = result.2 := by
  rw [searchTree] at found
  split at found
  · exact absurd found (by simp)
  · obtain rfl : _ = search := congrArg Prod.fst (Except.ok.inj found)
    exact ⟨by rw [List.length_mergeSort, Tally.accounted], rfl⟩

/-- A search that has not been cut short lists, or leaves out as the vendor's, as many files as
refer to the table and hold a routine. The other referring files are those that hold none. -/
theorem searchTree_accounts_for_routines (tree : FileTree) (depth : Nat) (root : PathName)
    (table : TableName) {options : SearchOptions} (positive : 1 ≤ options.maxResults)
    (classifier : Classifier) :
    let walk := ((ScanPlan.forSources depth).scan tree root).files
    ∃ search later, searchTree tree depth root table options classifier = .ok (search, later) ∧
      (search.limitReached = false →
        (walk.countP fun path => table.isIn tree path && holdsRoutine path) =
            search.rows.length + search.standardExcluded ∧
          walk.countP (table.isIn tree) =
            search.rows.length + search.standardExcluded +
              walk.countP fun path => table.isIn tree path && !holdsRoutine path) := by
  intro walk
  obtain ⟨search, later, found, _⟩ := searchTree_rows tree depth root table positive classifier
  refine ⟨search, later, found, ?_⟩
  intro ended
  obtain ⟨total, limit⟩ := accounted_of_searchTree found
  have accounted := Tally.accounted_run (limit.symm.trans ended)
  have start : (Tally.start classifier).accounted = 0 := rfl
  rw [start, Nat.zero_add] at accounted
  rw [total, accounted]
  refine ⟨rfl, ?_⟩
  rw [List.countP_eq_countP_filter_add walk (table.isIn tree) holdsRoutine, List.countP_filter,
    List.countP_filter]

/-- Two sources refer to the table. The stem of the second has two dots in a row. -/
def dottedStem : FileTree where
  top := .directory { entries := [
    ("A1.prw", .file (utf8Bytes "PD3->X")), ("a..b.prw", .file (utf8Bytes "PD3->Y"))] }
  workingDirectory := "/"

/-- A search for customers' routines has room for all rows here. -/
def roomyOptions : SearchOptions where
  includeStandard := false
  maxResults := 50

theorem entry_dottedStem : dottedStem.entry "/" = .ok dottedStem.top :=
  FileTree.entry_slash rfl

theorem scan_dottedStem :
    ((ScanPlan.forSources 1).scan dottedStem "/").files =
      [utf8Bytes "/A1.prw", utf8Bytes "/a..b.prw"] := by
  rw [ScanPlan.scan_of_directory _ entry_dottedStem]
  decide

theorem read_dottedStem :
    dottedStem.readSource "/A1.prw" = .ok "PD3->X" ∧
      dottedStem.readSource "/a..b.prw" = .ok "PD3->Y" := by
  have first : dottedStem.entry "/A1.prw" = .ok (.file (utf8Bytes "PD3->X")) :=
    FileTree.entry_of_steps rfl ["A1.prw"] rfl (Entry.searchable_singleton rfl _) (by simp)
      (by decide) (by simp) (by decide) (by decide)
  have second : dottedStem.entry "/a..b.prw" = .ok (.file (utf8Bytes "PD3->Y")) :=
    FileTree.entry_of_steps rfl ["a..b.prw"] rfl (Entry.searchable_singleton rfl _) (by simp)
      (by decide) (by simp) (by decide) (by decide)
  simp [FileTree.readSource, FileTree.read_of_entry first, FileTree.read_of_entry second,
    Except.map]

/-- Both sources refer to the table, and only the first holds a routine. -/
theorem counts_dottedStem :
    let walk := ((ScanPlan.forSources 1).scan dottedStem "/").files
    walk.countP (referredTable.isIn dottedStem) = 2 ∧
      (walk.countP fun path => referredTable.isIn dottedStem path && holdsRoutine path) = 1 ∧
      (walk.countP fun path => referredTable.isIn dottedStem path && !holdsRoutine path) = 1 := by
  obtain ⟨read, readToo⟩ := read_dottedStem
  have first : referredTable.isIn dottedStem "/A1.prw" = true := by
    rw [TableName.isIn, read]
    decide
  have second : referredTable.isIn dottedStem "/a..b.prw" = true := by
    rw [TableName.isIn, readToo]
    decide
  have held : holdsRoutine "/A1.prw" = true := by decide
  have notHeld : holdsRoutine "/a..b.prw" = false := by decide
  rw [scan_dottedStem]
  simp [first, second, held, notHeld]

/-- With room for all files the search comes to the end. -/
theorem limitReached_dottedStem {search : UsageSearch} {later : Classifier}
    (found : searchTree dottedStem 1 "/" referredTable roomyOptions (.new none 0) =
      .ok (search, later)) : search.limitReached = false := by
  rw [(accounted_of_searchTree found).2, scan_dottedStem]
  exact Tally.run_of_room dottedStem referredTable (by decide)

/-- One of the two sources is accounted for. -/
theorem searchTree_accounts_for_one_of_two :
    1 ≤ roomyOptions.maxResults ∧ ∃ search later,
      searchTree dottedStem 1 "/" referredTable roomyOptions (.new none 0) = .ok (search, later) ∧
      search.limitReached = false ∧ search.rows.length + search.standardExcluded = 1 := by
  have positive : 1 ≤ roomyOptions.maxResults := by decide
  obtain ⟨search, later, found, accounts⟩ :=
    searchTree_accounts_for_routines dottedStem 1 "/" referredTable positive (.new none 0)
  have ended := limitReached_dottedStem found
  obtain ⟨account, _⟩ := accounts ended
  exact ⟨positive, search, later, found, ended, account.symm.trans counts_dottedStem.2.1⟩

/-- A source can refer to the table and be left out without a trace, because its stem is not the
name of a routine. -/
theorem dotted_stem_not_accounted_for :
    ¬ ∀ (tree : FileTree) (depth : Nat) (root : PathName) (table : TableName)
      (options : SearchOptions) (classifier later : Classifier) (search : UsageSearch),
      let walk := ((ScanPlan.forSources depth).scan tree root).files
      searchTree tree depth root table options classifier = .ok (search, later) →
      (∀ path ∈ walk, ∃ content, tree.readSource path = .ok content) →
      search.limitReached = false →
        walk.countP (table.isIn tree) = search.rows.length + search.standardExcluded := by
  intro accounts
  have positive : 1 ≤ roomyOptions.maxResults := by decide
  obtain ⟨search, later, found, _⟩ :=
    searchTree_rows dottedStem 1 "/" referredTable positive (.new none 0)
  have ended := limitReached_dottedStem found
  have legible : ∀ path ∈ ((ScanPlan.forSources 1).scan dottedStem "/").files,
      ∃ content, dottedStem.readSource path = .ok content := by
    rw [scan_dottedStem]
    simp [read_dottedStem]
  have all := accounts dottedStem 1 "/" referredTable roomyOptions (.new none 0) later search found
    legible ended
  obtain ⟨total, limit⟩ := accounted_of_searchTree found
  have start : (Tally.start (.new none 0)).accounted = 0 := rfl
  rw [total, Tally.accounted_run (limit.symm.trans ended), start, counts_dottedStem.1,
    counts_dottedStem.2.1] at all
  exact absurd all (by decide)

end RoutineAtlas
