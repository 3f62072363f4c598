import RoutineAtlas.Proofs.Files.SourcePath
import RoutineAtlas.Proofs.Lookup.SourceFile
import RoutineAtlas.Proofs.Table.Search

/-
This file settles that the routines of a table search can be looked up. The file of a row bears the
key of the row's routine, and every walk that goes deep enough comes to that file.
-/

namespace RoutineAtlas

/-- The ending of a source is, in upper case, one of the known endings. -/
theorem upperCase_ending {extension : String} (isSource : isSourceExtension extension = true) :
    upperCase ("." ++ extension) ∈ upperCaseEndings := by
  have capitals := asciiUpper_of_isSourceExtension isSource
  have ascii : ∀ known ∈ [['P', 'R', 'W'], ['P', 'R', 'X'], ['P', 'R', 'G']],
      ∀ capital ∈ known, capital.toNat < 0x80 := by simp
  have upper : upperCase extension = String.ofList (asciiUpper extension.toList) := by
    rw [← upperCaseCharacters_of_asciiUpper (ascii _ capitals)]
    rfl
  have dot : upperCase "." = "." := by decide
  have endings : ∀ known ∈ [['P', 'R', 'W'], ['P', 'R', 'X'], ['P', 'R', 'G']],
      "." ++ String.ofList known ∈ upperCaseEndings := by decide
  rw [upperCase_append, dot, upper]
  exact endings _ capitals

/-- The base of a name is, in upper case, the key with or without the mark. -/
theorem RoutineName.upperCase_base_mem (name : RoutineName) :
    upperCase name.base ∈ [name.key, customMark ++ name.key] := by
  rw [name.upperCase_base]
  cases name.isMarked with
  | true => simp
  | false => simp

/-- The path of a source bears the key of the name that is its stem. -/
theorem IsSourcePath.bearsKey {path : PathName} (source : IsSourcePath path) {name : RoutineName}
    (own : pathStem? path = some (utf8Bytes name.base)) : BearsKey name path := by
  obtain ⟨fileName, stem, extension, last, text, isSource⟩ := source
  obtain ⟨noDot, _, _⟩ := plainBytes_of_isSourceExtension isSource
  have cut := splitAtLast_append stem noDot
  rw [← text] at cut
  have base : nameStem fileName = utf8Bytes name.base := by simpa [pathStem?, last] using own
  by_cases bare : stem = []
  · -- A file name that starts with its only dot is its own stem.
    have whole : nameStem fileName = fileName := by simp [nameStem, cut, bare]
    refine ⟨name.base, ?_, upperCase name.base, name.upperCase_base_mem, "", by decide, ?_⟩
    · rw [last, ← base, whole]
    · rw [String.append_empty]
  · have front : nameStem fileName = stem := by simp [nameStem, cut, bare]
    have whole : fileName = utf8Bytes (name.base ++ ("." ++ extension)) := by
      have dot : utf8Bytes "." = [dotByte] := by decide
      rw [utf8Bytes_append, utf8Bytes_append, dot, ← base, front, text, List.singleton_append]
    refine ⟨_, last.trans (congrArg some whole), upperCase name.base, name.upperCase_base_mem, _,
      upperCase_ending isSource, ?_⟩
    rw [upperCase_append]

/-- A row of a search stands for a file of the walk whose stem is the name of its routine. -/
theorem exists_routineOfPath_of_mem_rows {tree : FileTree} {depth : Nat} {root : PathName}
    {table : TableName} {options : SearchOptions} {classifier later : Classifier}
    {search : UsageSearch}
    (searched : searchTree tree depth root table options classifier = .ok (search, later))
    {row : UsageRow} (listed : row ∈ search.rows) :
    row.path ∈ ((ScanPlan.forSources depth).scan tree root).files ∧
      ∃ name, routineOfPath row.path = some name ∧ row.routine = name.base := by
  have positive : 1 ≤ options.maxResults := by
    rw [Nat.one_le_iff_ne_zero]
    intro zero
    simp [searchTree, zero] at searched
  obtain ⟨_, _, answer, rows⟩ := searchTree_rows tree depth root table positive classifier
  obtain ⟨rfl, _⟩ := Prod.mk.inj (Except.ok.inj (searched.symm.trans answer))
  rw [rows, List.mem_mergeSort] at listed
  have qualifies := List.mem_of_mem_take listed
  obtain ⟨place, _, found⟩ := List.mem_filterMap.mp qualifies
  obtain ⟨path, visited, isRow⟩ := Option.bind_eq_some_iff.mp found
  obtain ⟨content, name, origin, _, _, held, _, _, rfl⟩ := TableName.rowOf?_eq_some_iff.mp isRow
  exact ⟨List.mem_of_getElem? visited, name, held, rfl⟩

/-- Where the stem of a row's file is the routine of the row, that routine is an accepted name, and
every look-up that goes as deep as the file finds a source for it. -/
theorem lookUpRoutine_finds_listed_row {tree : FileTree} {tableDepth : Nat} {root : PathName}
    {table : TableName} {options : SearchOptions} {classifier later : Classifier}
    {search : UsageSearch}
    (searched : searchTree tree tableDepth root table options classifier = .ok (search, later))
    {row : UsageRow} (listed : row ∈ search.rows)
    (own : pathStem? row.path = some (utf8Bytes row.routine)) :
    ∃ name steps, RoutineName.parse row.routine = .ok name ∧
      tree.HoldsFile root steps row.path ∧
      (tree.top.WellNamed → ∀ other, tree.HoldsFile root other row.path → other = steps) ∧
      ∀ depth, steps.length ≤ depth → (lookUpRoutine tree depth root name).IsFound := by
  obtain ⟨walked, name, held, same⟩ := exists_routineOfPath_of_mem_rows searched listed
  obtain ⟨steps, holds, deeper⟩ := ScanPlan.exists_holdsFile walked
  have accepted : RoutineName.parse row.routine = .ok name := by
    rw [routineOfPath, own, Option.bind_some, readUtf8_utf8Bytes, Option.bind_some] at held
    cases parsed : RoutineName.parse row.routine with
    | error fault => simp [parsed, Except.toOption] at held
    | ok accepted => simpa [parsed, Except.toOption] using held
  rw [same] at own
  have bears := (isSourcePath_of_mem_scan walked).bearsKey own
  refine ⟨name, steps, accepted, holds, ?_, ?_⟩
  · intro named other holdsToo
    exact holdsToo.unique named holds
  · intro depth reach
    exact lookUpRoutine_isFound_iff.mpr (Or.inr ⟨row.path, deeper depth reach, bears⟩)

/-- A tree with one source, which lies in a directory and has letters of both cases in its name. -/
def shelvedSource : FileTree where
  top := .directory
    { entries :=
        [("shelf", .directory { entries := [("mATA010.PrW", .file (utf8Bytes "PD3->X"))] })] }
  workingDirectory := "/"

theorem wellNamed_shelvedSource : shelvedSource.top.WellNamed :=
  Entry.wellNamed_directory (by decide)
    (List.forall_mem_singleton.mpr (Entry.wellNamed_flat (by decide) (by decide)))

theorem scan_shelvedSource :
    ((ScanPlan.forSources 2).scan shelvedSource "/").files = [utf8Bytes "/shelf/mATA010.PrW"] := by
  have top : shelvedSource.entry "/" = .ok shelvedSource.top := FileTree.entry_slash rfl
  rw [ScanPlan.scan_of_directory _ top]
  decide

theorem holdsFile_shelvedSource :
    shelvedSource.HoldsFile "/" ["shelf", "mATA010.PrW"] "/shelf/mATA010.PrW" where
  path := by decide
  file := ⟨_, _, FileTree.entry_slash rfl, rfl⟩

/-- The source is listed with its stem as the routine. -/
theorem exists_row_shelvedSource :
    ∃ search later row,
      searchTree shelvedSource 2 "/" referredTable { includeStandard := true, maxResults := 1 }
        (.new none 0) = .ok (search, later) ∧
      row ∈ search.rows ∧ row.path = "/shelf/mATA010.PrW" ∧ row.routine = "mATA010" := by
  have source : shelvedSource.entry "/shelf/mATA010.PrW" = .ok (.file (utf8Bytes "PD3->X")) :=
    FileTree.entry_of_steps rfl ["shelf", "mATA010.PrW"] rfl
      ((Entry.searchable_cons rfl).mpr ⟨rfl, Entry.searchable_singleton rfl _⟩) (by simp)
      (by decide) (by simp) (by decide) (by decide)
  have read : shelvedSource.readSource "/shelf/mATA010.PrW" = .ok "PD3->X" := by
    simp [FileTree.readSource, FileTree.read_of_entry source, Except.map]
  have referring : referredTable.isReferenced (upperCase "PD3->X") = true := by decide
  have held : routineOfPath "/shelf/mATA010.PrW" =
      some { typed := "mATA010", base := "mATA010" } := by decide
  obtain ⟨search, later, answer, rows⟩ :=
    searchTree_rows shelvedSource 2 "/" referredTable
      (show 1 ≤ ({ includeStandard := true, maxResults := 1 } : SearchOptions).maxResults by decide)
      (.new none 0)
  simp only [scan_shelvedSource, TableName.qualifyingRows_cons, TableName.rowOf?,
    TableName.referral?, read, referring, held, if_true, Option.map_some, or_true,
    Option.toList_some, List.singleton_append, List.take_succ_cons, List.take_zero,
    List.mergeSort_singleton] at rows
  have only {row : UsageRow} (alone : search.rows = [row]) : row ∈ search.rows := by
    rw [alone]
    exact List.mem_singleton_self row
  exact ⟨search, later, _, answer, only rows, rfl, rfl⟩

/-- The routine of the one row is found two directories deep, whatever the case of its file. -/
theorem lookUpRoutine_finds_shelved_row :
    ∃ search later row name,
      searchTree shelvedSource 2 "/" referredTable { includeStandard := true, maxResults := 1 }
        (.new none 0) = .ok (search, later) ∧
      row ∈ search.rows ∧ pathStem? row.path = some (utf8Bytes row.routine) ∧
      RoutineName.parse row.routine = .ok name ∧
      (lookUpRoutine shelvedSource 2 "/" name).IsFound := by
  obtain ⟨search, later, row, searched, listed, path, routine⟩ := exists_row_shelvedSource
  have own : pathStem? row.path = some (utf8Bytes row.routine) := by
    rw [path, routine]
    decide
  obtain ⟨name, steps, accepted, _, only, found⟩ :=
    lookUpRoutine_finds_listed_row searched listed own
  have place := only wellNamed_shelvedSource _ (path ▸ holdsFile_shelvedSource)
  exact ⟨search, later, row, name, searched, listed, own, accepted, found 2 (by simp [← place])⟩

end RoutineAtlas
