import RoutineAtlas.Lookup.SourceFile
import RoutineAtlas.Proofs.Files.Walk
import RoutineAtlas.Proofs.Routine.Name

/-
This file settles which source a look-up finds. The probe finds the first spelling that leads to
a file at the root, and the walk finds the first file whose name is the key in upper case.
-/

namespace RoutineAtlas

/-- An element of a list is the first of a kind when no earlier element is of that kind. -/
def IsFirst {A : Type} (kind : A → Prop) (list : List A) (element : A) : Prop :=
  ∃ before after, list = before ++ element :: after ∧ kind element ∧
    ∀ other ∈ before, ¬ kind other

theorem find?_eq_some_iff_isFirst {A : Type} {kind : A → Bool} {list : List A} {element : A} :
    list.find? kind = some element ↔ IsFirst (fun other => kind other = true) list element := by
  rw [List.find?_eq_some_iff_append]
  constructor
  · rintro ⟨isKind, before, after, split, unlike⟩
    exact ⟨before, after, split, isKind, fun other member => by simpa using unlike other member⟩
  · rintro ⟨before, after, split, isKind, unlike⟩
    exact ⟨isKind, before, after, split, fun other member => by simpa using unlike other member⟩

theorem isFirst_congr {A : Type} {kind other : A → Prop}
    (same : ∀ element, kind element ↔ other element) (list : List A) (element : A) :
    IsFirst kind list element ↔ IsFirst other list element := by
  rw [show kind = other from funext fun element => propext (same element)]

/-- A spelling names a file at the root, where links are followed. -/
def NamesFile (tree : FileTree) (root : PathName) (spelling : String) : Prop :=
  tree.isFile (joinPath root spelling) = true

/-- The file name is text and, in upper case, the key of the routine with or without the mark and
with an ending of a source or none. -/
def BearsKey (name : RoutineName) (path : PathName) : Prop :=
  ∃ fileName, pathFileName? path = some (utf8Bytes fileName) ∧
    ∃ stem ∈ [name.key, customMark ++ name.key], ∃ ending ∈ upperCaseEndings,
      upperCase fileName = stem ++ ending

/-- A path answers to a name exactly when its file name bears the key. -/
theorem answersTo_iff_bearsKey (name : RoutineName) (path : PathName) :
    answersTo name path = true ↔ BearsKey name path := by
  simp only [answersTo, BearsKey, ← bind_readUtf8_eq_some_iff]
  cases (pathFileName? path).bind readUtf8 with
  | none => simp
  | some fileName =>
      have spelled := name.upperCase_spellings (upperCase fileName)
      simp only [List.contains_iff_mem, List.mem_map, Option.some.injEq, exists_eq_left']
      exact spelled

/-- The probe finds the path of the first spelling that names a file. -/
theorem probe_eq_some_iff {tree : FileTree} {root path : PathName} {name : RoutineName} :
    probe tree root name = some path ↔
      ∃ spelling, IsFirst (NamesFile tree root) name.spellings spelling ∧
        path = joinPath root spelling := by
  have found : probe tree root name =
      (name.spellings.find? fun spelling : String => tree.isFile (joinPath root spelling)).map
        fun spelling : String => joinPath root spelling := by
    rw [probe, List.find?_map]
    rfl
  rw [found, Option.map_eq_some_iff]
  constructor
  · rintro ⟨spelling, first, same⟩
    exact ⟨spelling, find?_eq_some_iff_isFirst.mp first, same.symm⟩
  · rintro ⟨spelling, first, same⟩
    exact ⟨spelling, find?_eq_some_iff_isFirst.mpr first, same.symm⟩

theorem probe_eq_none_iff {tree : FileTree} {root : PathName} {name : RoutineName} :
    probe tree root name = none ↔
      ∀ spelling ∈ name.spellings, ¬ NamesFile tree root spelling := by
  simp [probe, NamesFile]

/-- The walk finds the first file that bears the key. -/
theorem find?_answersTo_eq_some_iff {name : RoutineName} {files : List PathName} {path : PathName} :
    files.find? (answersTo name) = some path ↔ IsFirst (BearsKey name) files path := by
  rw [find?_eq_some_iff_isFirst]
  exact isFirst_congr (answersTo_iff_bearsKey name) files path

theorem find?_answersTo_eq_none_iff {name : RoutineName} {files : List PathName} :
    files.find? (answersTo name) = none ↔ ∀ path ∈ files, ¬ BearsKey name path := by
  simp only [List.find?_eq_none, ← answersTo_iff_bearsKey]

/-- A look-up is a direct hit exactly at the first spelling that names a file. -/
theorem lookUpRoutine_directProbe_iff {tree : FileTree} {depth : Nat} {root : PathName}
    {name : RoutineName} {path : PathName} {scanned : Nat} :
    lookUpRoutine tree depth root name = .found path .directProbe scanned ↔
      scanned = 0 ∧ ∃ spelling, IsFirst (NamesFile tree root) name.spellings spelling ∧
        path = joinPath root spelling := by
  rw [← probe_eq_some_iff, lookUpRoutine]
  cases probe tree root name with
  | some found =>
      simp only [LookupOutcome.found.injEq, true_and, Option.some.injEq]
      exact ⟨fun ⟨same, count⟩ => ⟨count.symm, same⟩, fun ⟨count, same⟩ => ⟨same, count.symm⟩⟩
  | none =>
      dsimp only
      split <;> simp

/-- A look-up ends with the walk exactly when no spelling names a file and a file bears the key. -/
theorem lookUpRoutine_walk_iff {tree : FileTree} {depth : Nat} {root : PathName}
    {name : RoutineName} {path : PathName} {scanned : Nat} :
    lookUpRoutine tree depth root name = .found path .walk scanned ↔
      let files := ((ScanPlan.forSources depth).scan tree root).files
      scanned = files.length ∧ (∀ spelling ∈ name.spellings, ¬ NamesFile tree root spelling) ∧
        IsFirst (BearsKey name) files path := by
  dsimp only
  rw [← probe_eq_none_iff, ← find?_answersTo_eq_some_iff, lookUpRoutine]
  cases probe tree root name with
  | some found => simp
  | none =>
      dsimp only
      split
      · rename_i found here
        rw [here]
        simp only [LookupOutcome.found.injEq, true_and, Option.some.injEq]
        exact ⟨fun ⟨same, count⟩ => ⟨count.symm, same⟩, fun ⟨count, same⟩ => ⟨same, count.symm⟩⟩
      · rename_i missing
        rw [missing]
        simp

/-- A look-up finds nothing exactly when neither the probe nor the walk does, and it tells all
spellings. -/
theorem lookUpRoutine_notFound_iff {tree : FileTree} {depth : Nat} {root : PathName}
    {name : RoutineName} {searched : PathName} {spellings : List String} {scanned : Nat}
    {skipped : List SkippedEntry} :
    lookUpRoutine tree depth root name = .notFound searched spellings scanned skipped ↔
      let scan := (ScanPlan.forSources depth).scan tree root
      (searched = root ∧ spellings = name.spellings ∧ scanned = scan.files.length ∧
          skipped = scan.skipped) ∧
        (∀ spelling ∈ name.spellings, ¬ NamesFile tree root spelling) ∧
          ∀ path ∈ scan.files, ¬ BearsKey name path := by
  dsimp only
  rw [← probe_eq_none_iff, ← find?_answersTo_eq_none_iff, lookUpRoutine]
  cases probe tree root name with
  | some found => simp
  | none =>
      dsimp only
      split
      · rename_i found here
        rw [here]
        simp
      · rename_i missing
        rw [missing]
        simp only [LookupOutcome.notFound.injEq, and_true]
        exact ⟨fun ⟨a, b, c, d⟩ => ⟨a.symm, b.symm, c.symm, d.symm⟩,
          fun ⟨a, b, c, d⟩ => ⟨a.symm, b.symm, c.symm, d.symm⟩⟩

/-- A look-up ends with a file. -/
def LookupOutcome.IsFound (outcome : LookupOutcome) : Prop :=
  ∃ path method scanned, outcome = .found path method scanned

/-- A look-up finds a file exactly when a spelling names one or the walk lists one with the key. -/
theorem lookUpRoutine_isFound_iff {tree : FileTree} {depth : Nat} {root : PathName}
    {name : RoutineName} :
    (lookUpRoutine tree depth root name).IsFound ↔
      (∃ spelling ∈ name.spellings, NamesFile tree root spelling) ∨
        ∃ path ∈ ((ScanPlan.forSources depth).scan tree root).files, BearsKey name path := by
  constructor
  · rintro ⟨path, method, scanned, found⟩
    cases method with
    | directProbe =>
        obtain ⟨_, spelling, ⟨before, after, split, names, _⟩, _⟩ :=
          lookUpRoutine_directProbe_iff.mp found
        exact Or.inl ⟨spelling, by rw [split]; simp, names⟩
    | walk =>
        obtain ⟨_, _, before, after, split, bears, _⟩ := lookUpRoutine_walk_iff.mp found
        exact Or.inr ⟨path, by rw [split]; simp, bears⟩
  · intro there
    cases outcome : lookUpRoutine tree depth root name with
    | found path method scanned => exact ⟨path, method, scanned, rfl⟩
    | notFound searched spellings scanned skipped =>
        obtain ⟨_, noSpelling, noFile⟩ := lookUpRoutine_notFound_iff.mp outcome
        obtain ⟨spelling, listed, names⟩ | ⟨path, listed, bears⟩ := there
        · exact absurd names (noSpelling spelling listed)
        · exact absurd bears (noFile path listed)

/-- What a look-up finds is not lost by looking deeper. -/
theorem LookupOutcome.IsFound.deeper {tree : FileTree} {depth deeper : Nat} {root : PathName}
    {name : RoutineName} (found : (lookUpRoutine tree depth root name).IsFound)
    (reach : depth ≤ deeper) : (lookUpRoutine tree deeper root name).IsFound := by
  rw [lookUpRoutine_isFound_iff] at found ⊢
  obtain there | ⟨path, listed, bears⟩ := found
  · exact Or.inl there
  · have same : (ScanPlan.forSources depth).extensions =
        (ScanPlan.forSources deeper).extensions := rfl
    have kept := ScanPlan.scan_files_sublist same reach tree root
    exact Or.inr ⟨path, kept.mem listed, bears⟩

/-- A look-up answers the first spelling that names a file at the root, else the first file of the
walk that bears the key, else nothing, and a deeper look-up finds whatever a shallower one does. -/
theorem lookUpRoutine_finds_first (tree : FileTree) (depth : Nat) (root : PathName)
    (name : RoutineName) :
    let scan := (ScanPlan.forSources depth).scan tree root
    let outcome := lookUpRoutine tree depth root name
    (∀ path scanned, outcome = .found path .directProbe scanned ↔
      scanned = 0 ∧ ∃ spelling, IsFirst (NamesFile tree root) name.spellings spelling ∧
        path = joinPath root spelling) ∧
    (∀ path scanned, outcome = .found path .walk scanned ↔
      scanned = scan.files.length ∧
        (∀ spelling ∈ name.spellings, ¬ NamesFile tree root spelling) ∧
          IsFirst (BearsKey name) scan.files path) ∧
    (∀ searched spellings scanned skipped,
      outcome = .notFound searched spellings scanned skipped ↔
        (searched = root ∧ spellings = name.spellings ∧ scanned = scan.files.length ∧
            skipped = scan.skipped) ∧
          (∀ spelling ∈ name.spellings, ¬ NamesFile tree root spelling) ∧
            ∀ path ∈ scan.files, ¬ BearsKey name path) ∧
    ∀ deeper, depth ≤ deeper → outcome.IsFound → (lookUpRoutine tree deeper root name).IsFound := by
  refine ⟨?_, ?_, ?_, ?_⟩
  · intro path scanned
    exact lookUpRoutine_directProbe_iff
  · intro path scanned
    exact lookUpRoutine_walk_iff
  · intro searched spellings scanned skipped
    exact lookUpRoutine_notFound_iff
  · intro deeper reach found
    exact found.deeper reach

end RoutineAtlas
