import RoutineAtlas.Proofs.Files.Listing
import RoutineAtlas.Proofs.Files.Parts
import RoutineAtlas.Table.Search
import Mathlib.Data.List.Perm.Subperm

/-
This file settles which rows a table search lists and in which order. The rows are those of the
first qualifying files of the walk, and whether a file qualifies does not depend on the cap.
-/

namespace RoutineAtlas

/-- These rows are found in one order and listed in another. A better category comes first, then
more occurrences, and rows that agree in both stay as they were found. -/
structure ListedInOrder (found listed : List UsageRow) : Prop where
  same : listed.Perm found
  ordered : listed.Pairwise fun first second =>
    first.category.rank < second.category.rank ∨
      (first.category.rank = second.category.rank ∧ second.occurrences ≤ first.occurrences)
  stable : ∀ rank occurrences,
    (listed.filter fun row => row.category.rank = rank ∧ row.occurrences = occurrences) =
      found.filter fun row => row.category.rank = rank ∧ row.occurrences = occurrences

theorem UsageRow.goesBefore_iff (first second : UsageRow) :
    first.goesBefore second = true ↔
      first.category.rank < second.category.rank ∨
        (first.category.rank = second.category.rank ∧
          second.occurrences ≤ first.occurrences) := by
  simp [UsageRow.goesBefore]

theorem UsageRow.goesBefore_trans (first second third : UsageRow)
    (before : first.goesBefore second = true) (after : second.goesBefore third = true) :
    first.goesBefore third = true := by
  rw [UsageRow.goesBefore_iff] at before after ⊢
  omega

theorem UsageRow.goesBefore_total (first second : UsageRow) :
    (first.goesBefore second || second.goesBefore first) = true := by
  rw [Bool.or_eq_true, UsageRow.goesBefore_iff, UsageRow.goesBefore_iff]
  omega

/-- The sorting of a search lists its rows in order. -/
theorem listedInOrder_mergeSort (found : List UsageRow) :
    ListedInOrder found (found.mergeSort UsageRow.goesBefore) where
  same := List.mergeSort_perm found UsageRow.goesBefore
  ordered := by
    have sorted := List.pairwise_mergeSort UsageRow.goesBefore_trans UsageRow.goesBefore_total found
    apply sorted.imp
    intro first second before
    exact (UsageRow.goesBefore_iff first second).mp before
  stable := by
    intro rank occurrences
    -- Rows that agree in both are in order already, so the sorting keeps them as a sublist.
    have agreeing : (found.filter fun row =>
        row.category.rank = rank ∧ row.occurrences = occurrences).Pairwise
          fun first second => UsageRow.goesBefore first second = true := by
      apply List.pairwise_of_forall_mem_list
      intro first firstMember second secondMember
      simp only [List.mem_filter, decide_eq_true_eq] at firstMember secondMember
      rw [UsageRow.goesBefore_iff]
      omega
    have kept := List.sublist_mergeSort UsageRow.goesBefore_trans UsageRow.goesBefore_total
      agreeing List.filter_sublist
    have again := kept.filter fun row => row.category.rank = rank ∧ row.occurrences = occurrences
    rw [List.filter_filter] at again
    simp only [Bool.and_self] at again
    have perm := (List.mergeSort_perm found UsageRow.goesBefore).filter fun row =>
      row.category.rank = rank ∧ row.occurrences = occurrences
    exact (again.eq_of_length perm.length_eq.symm).symm

/-- A file refers to the table when it can be read, when its text in upper case does, and when its
stem is the name of a routine. -/
def TableName.referral? (table : TableName) (tree : FileTree) (path : PathName) :
    Option (RoutineName × String) :=
  match tree.readSource path with
  | .error _ => none
  | .ok content =>
      if table.isReferenced (upperCase content) then
        (routineOfPath path).map fun name => (name, content)
      else none

/-- The classifier goes through the referring files in the order of the walk. -/
def TableName.classifierAfter (table : TableName) (tree : FileTree) (classifier : Classifier)
    (paths : List PathName) : Classifier :=
  paths.foldl (fun current path =>
    match table.referral? tree path with
    | none => current
    | some (name, _) => (current.classify tree name (some path)).2) classifier

/-- A referring file qualifies when it is a customer's or the vendor's are wanted as well. -/
def TableName.rowOf? (table : TableName) (tree : FileTree) (includeStandard : Bool)
    (classifier : Classifier) (path : PathName) : Option UsageRow :=
  match table.referral? tree path with
  | none => none
  | some (name, content) =>
      let origin := (classifier.classify tree name (some path)).1.origin
      if origin = .custom ∨ includeStandard = true then
        some (.of table name path content origin)
      else none

/-- A file qualifies when it can be read, its text in upper case refers to the table, its stem is
the name of a routine, and the routine is custom or standard ones are wanted. -/
theorem TableName.rowOf?_eq_some_iff {table : TableName} {tree : FileTree}
    {includeStandard : Bool} {classifier : Classifier} {path : PathName} {row : UsageRow} :
    table.rowOf? tree includeStandard classifier path = some row ↔
      ∃ content name origin, tree.readSource path = .ok content ∧
        table.isReferenced (upperCase content) = true ∧ routineOfPath path = some name ∧
        (classifier.classify tree name (some path)).1.origin = origin ∧
        (origin = .custom ∨ includeStandard = true) ∧
        row = .of table name path content origin := by
  rw [TableName.rowOf?, TableName.referral?]
  cases read : tree.readSource path with
  | error fault => simp
  | ok content =>
      by_cases referring : table.isReferenced (upperCase content) = true
      · cases held : routineOfPath path with
        | none => simp [referring]
        | some name =>
            simp only [referring, if_true, Option.map_some, Option.ite_none_right_eq_some,
              Option.some.injEq]
            constructor
            · rintro ⟨wanted, same⟩
              exact ⟨content, name, _, rfl, referring, rfl, rfl, wanted, same.symm⟩
            · rintro ⟨_, _, origin, loaded, _, found, judged, wanted, same⟩
              cases loaded
              cases found
              subst judged
              exact ⟨wanted, same.symm⟩
      · simp [referring]

/-- Each file of a walk is judged once, by the classifier as the files before it left it. -/
def TableName.qualifyingRows (table : TableName) (tree : FileTree) (includeStandard : Bool)
    (classifier : Classifier) (walk : List PathName) : List UsageRow :=
  (List.range walk.length).filterMap fun place =>
    walk[place]?.bind fun path =>
      table.rowOf? tree includeStandard (table.classifierAfter tree classifier (walk.take place))
        path

/-- The first file is judged by the classifier as it is, and the others by what it becomes. -/
theorem TableName.qualifyingRows_cons (table : TableName) (tree : FileTree)
    (includeStandard : Bool) (classifier : Classifier) (path : PathName) (rest : List PathName) :
    table.qualifyingRows tree includeStandard classifier (path :: rest) =
      (table.rowOf? tree includeStandard classifier path).toList ++
        table.qualifyingRows tree includeStandard (table.classifierAfter tree classifier [path])
          rest := by
  rw [TableName.qualifyingRows, List.length_cons, List.range_succ_eq_map, List.filterMap_cons,
    List.filterMap_map]
  have first : ((path :: rest)[0]?.bind fun file => table.rowOf? tree includeStandard
      (table.classifierAfter tree classifier ((path :: rest).take 0)) file) =
        table.rowOf? tree includeStandard classifier path := rfl
  rw [first]
  cases table.rowOf? tree includeStandard classifier path with
  | none => rfl
  | some row => rfl

/-- A visit judges the routine of a referring file. Any other file is passed over. -/
theorem Tally.visit_cases (tally : Tally) (tree : FileTree) (table : TableName)
    (options : SearchOptions) (path : PathName) :
    (table.referral? tree path = none ∧
      (tally.visit tree table options path).rows = tally.rows ∧
      (tally.visit tree table options path).standardExcluded = tally.standardExcluded ∧
      (tally.visit tree table options path).classifier = tally.classifier) ∨
    ∃ name content, table.referral? tree path = some (name, content) ∧
      tally.visit tree table options path =
        ({ tally with filesScanned := tally.filesScanned + 1 } : Tally).judge tree table options
          name path content := by
  rw [Tally.visit, TableName.referral?]
  cases read : tree.readSource path with
  | error fault => exact Or.inl ⟨rfl, rfl, rfl, rfl⟩
  | ok content =>
      by_cases referring : table.isReferenced (upperCase content) = true
      · cases held : routineOfPath path with
        | none => simp [referring]
        | some name => exact Or.inr ⟨name, content, by simp [referring], by simp [referring]⟩
      · simp [referring]

/-- A visit adds the row of the file, if it has one, and moves the classifier on. -/
theorem Tally.visit_eq (tally : Tally) (tree : FileTree) (table : TableName)
    (options : SearchOptions) (path : PathName) :
    (tally.visit tree table options path).rows =
        tally.rows ++
          (table.rowOf? tree options.includeStandard tally.classifier path).toList ∧
      (tally.visit tree table options path).classifier =
        table.classifierAfter tree tally.classifier [path] := by
  rw [TableName.rowOf?, TableName.classifierAfter, List.foldl_cons, List.foldl_nil]
  obtain ⟨none, rows, _, classifier⟩ | ⟨name, content, refers, visited⟩ :=
    tally.visit_cases tree table options path
  · rw [none, rows, classifier]
    simp
  · rw [refers, visited]
    cases verdict : (tally.classifier.classify tree name (some path)).1.origin with
    | custom => simp [Tally.judge, verdict]
    | standard =>
        cases wanted : options.includeStandard with
        | true => simp [Tally.judge, verdict, wanted]
        | false => simp [Tally.judge, verdict, wanted]

/-- However far a search has come, it adds the first rows of the files that are left, up to its
cap. -/
theorem Tally.run_rows (tree : FileTree) (table : TableName) (options : SearchOptions)
    (paths : List PathName) (tally : Tally) :
    (Tally.run tree table options paths tally).1.rows =
      tally.rows ++
        (table.qualifyingRows tree options.includeStandard tally.classifier paths).take
          (options.maxResults - tally.rows.length) := by
  -- The tally varies in the induction, because its rows use up the cap and its classifier moves on.
  induction paths generalizing tally with
  | nil => simp [Tally.run, TableName.qualifyingRows]
  | cons path rest inductionHypothesis =>
      obtain ⟨rows, classifier⟩ := tally.visit_eq tree table options path
      rw [Tally.run, TableName.qualifyingRows_cons]
      by_cases full : options.maxResults ≤ tally.rows.length
      · have none : options.maxResults - tally.rows.length = 0 := by omega
        rw [if_pos full, none, List.take_zero, List.append_nil]
      · rw [if_neg full, inductionHypothesis, rows, classifier]
        cases found : table.rowOf? tree options.includeStandard tally.classifier path with
        | none => simp
        | some row =>
            have more : options.maxResults - tally.rows.length =
                options.maxResults - (tally.rows.length + 1) + 1 := by omega
            simp [more]

/-- The paths of the qualifying rows are some of those of the walk, in their order there. -/
theorem TableName.qualifyingRows_paths (table : TableName) (tree : FileTree)
    (includeStandard : Bool) (classifier : Classifier) (walk : List PathName) :
    ((table.qualifyingRows tree includeStandard classifier walk).map UsageRow.path).Sublist
      walk := by
  induction walk generalizing classifier with
  | nil => exact List.Sublist.refl _
  | cons path rest inductionHypothesis =>
      have later := inductionHypothesis (table.classifierAfter tree classifier [path])
      rw [TableName.qualifyingRows_cons]
      cases found : table.rowOf? tree includeStandard classifier path with
      | none => exact later.cons path
      | some row =>
          obtain ⟨content, name, origin, _, _, _, _, _, same⟩ :=
            TableName.rowOf?_eq_some_iff.mp found
          have own : row.path = path := by rw [same, UsageRow.of]
          rw [Option.toList_some, List.singleton_append, List.map_cons, own]
          exact later.cons_cons path

/-- A search with a cap sorts the rows of the first qualifying files. -/
theorem searchTree_rows (tree : FileTree) (depth : Nat) (root : PathName) (table : TableName)
    {options : SearchOptions} (positive : 1 ≤ options.maxResults) (classifier : Classifier) :
    ∃ search later, searchTree tree depth root table options classifier = .ok (search, later) ∧
      search.rows =
        ((table.qualifyingRows tree options.includeStandard classifier
          ((ScanPlan.forSources depth).scan tree root).files).take
            options.maxResults).mergeSort UsageRow.goesBefore := by
  have capped : options.maxResults ≠ 0 := by omega
  have gathered := Tally.run_rows tree table options
    ((ScanPlan.forSources depth).scan tree root).files (.start classifier)
  rw [searchTree, if_neg capped]
  refine ⟨_, _, rfl, ?_⟩
  dsimp only
  rw [gathered]
  rfl

/-- A table search lists the rows of the first qualifying files of the walk, as many as there are
or as its cap allows, each once and in order. A larger cap keeps all rows of a smaller one. -/
theorem searchTree_lists_first_qualifying (tree : FileTree) (depth : Nat) (root : PathName)
    (table : TableName) (options : SearchOptions) (positive : 1 ≤ options.maxResults)
    (classifier : Classifier) :
    let walk := ((ScanPlan.forSources depth).scan tree root).files
    let qualifying := table.qualifyingRows tree options.includeStandard classifier walk
    ∃ search later, searchTree tree depth root table options classifier = .ok (search, later) ∧
      ListedInOrder (qualifying.take options.maxResults) search.rows ∧
      search.rows.length = min options.maxResults qualifying.length ∧
      (tree.top.WellNamed → (search.rows.map UsageRow.path).Nodup) ∧
      ∀ larger, options.maxResults ≤ larger → ∃ wider after,
        searchTree tree depth root table { options with maxResults := larger } classifier =
          .ok (wider, after) ∧ search.rows.Subperm wider.rows := by
  intro walk qualifying
  obtain ⟨search, later, answer, rows⟩ := searchTree_rows tree depth root table positive classifier
  have order := listedInOrder_mergeSort (qualifying.take options.maxResults)
  rw [← rows] at order
  refine ⟨search, later, answer, order, ?_, ?_, ?_⟩
  · rw [order.same.length_eq, List.length_take]
  · intro named
    have once := ScanPlan.nodup_scan_files (.forSources depth) named root
    have paths := table.qualifyingRows_paths tree options.includeStandard classifier walk
    have first := (List.take_sublist options.maxResults qualifying).map UsageRow.path
    have distinct := (first.trans paths).nodup once
    exact (order.same.map UsageRow.path).nodup_iff.mpr distinct
  · intro larger reach
    have wide : 1 ≤ ({ options with maxResults := larger } : SearchOptions).maxResults :=
      Nat.le_trans positive reach
    obtain ⟨wider, after, found, more⟩ := searchTree_rows tree depth root table wide classifier
    refine ⟨wider, after, found, ?_⟩
    have all := (listedInOrder_mergeSort (qualifying.take larger)).same
    have firsts : (qualifying.take options.maxResults).Sublist (qualifying.take larger) :=
      List.take_sublist_take_left reach
    rw [more]
    exact (order.same.subperm.trans firsts.subperm).trans all.symm.subperm

/-- The table of the sources below. -/
def referredTable : TableName where
  label := "PD3"
  notEmpty := by decide
  ascii := by
    have all : ("PD3".toList.all isTableCharacter) = true := by decide
    intro character member
    have own := List.all_eq_true.mp all character member
    simpa [isTableCharacter] using own

/-- Two sources at the top of a tree refer to the table. -/
def referringSources : FileTree where
  top := .directory
    { entries := [("A1.prw", .file (utf8Bytes "PD3->X")), ("B1.prw", .file (utf8Bytes "PD3->Y"))] }
  workingDirectory := "/"

theorem scan_referringSources :
    ((ScanPlan.forSources 1).scan referringSources "/").files =
      [utf8Bytes "/A1.prw", utf8Bytes "/B1.prw"] := by
  have top : referringSources.entry "/" = .ok referringSources.top := FileTree.entry_slash rfl
  rw [ScanPlan.scan_of_directory _ top]
  decide

theorem read_referringSources : referringSources.readSource "/A1.prw" = .ok "PD3->X" := by
  have source : referringSources.entry "/A1.prw" = .ok (.file (utf8Bytes "PD3->X")) :=
    FileTree.entry_of_steps rfl ["A1.prw"] rfl (Entry.searchable_singleton rfl _) (by simp)
      (by decide) (by simp) (by decide) (by decide)
  simp [FileTree.readSource, FileTree.read_of_entry source, Except.map]

theorem wellNamed_referringSources : referringSources.top.WellNamed :=
  Entry.wellNamed_flat (by decide) (by decide)

/-- With room for one row only the first of the two sources is listed. -/
theorem searchTree_lists_first_of_two :
    ∃ search later,
      searchTree referringSources 1 "/" referredTable { includeStandard := true, maxResults := 1 }
        (.new none 0) = .ok (search, later) ∧
      search.rows.map UsageRow.path = [utf8Bytes "/A1.prw"] ∧
      (search.rows.map UsageRow.path).Nodup := by
  obtain ⟨search, later, answer, order, _, once, _⟩ :=
    searchTree_lists_first_qualifying referringSources 1 "/" referredTable
      { includeStandard := true, maxResults := 1 } (by decide) (.new none 0)
  refine ⟨search, later, answer, ?_, once wellNamed_referringSources⟩
  have referring : referredTable.isReferenced (upperCase "PD3->X") = true := by decide
  have held : routineOfPath "/A1.prw" = some { typed := "A1", base := "A1" } := by decide
  have same := order.same.map UsageRow.path
  simp only [scan_referringSources, TableName.qualifyingRows_cons, TableName.rowOf?,
    TableName.referral?, read_referringSources, referring, held, if_true, Option.map_some, or_true,
    Option.toList_some, List.singleton_append, List.take_succ_cons, List.take_zero, List.map_cons,
    List.map_nil] at same
  exact List.perm_singleton.mp same

end RoutineAtlas
