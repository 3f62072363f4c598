import RoutineAtlas.Proofs.Files.Listing
import RoutineAtlas.Proofs.Files.Parts
import RoutineAtlas.Proofs.Files.SourcePath
import RoutineAtlas.Proofs.Lookup.SourceFile
import RoutineAtlas.Proofs.Routine.Spelling

/-
This file settles where the path of a routine can lie. Whatever name is accepted, the path that is
found goes on from the root by names only and never leaves it.
-/

namespace RoutineAtlas

/-- A name that stays inside is a step. -/
theorem StaysInside.isStepName {text : String} (inside : StaysInside text) : IsStepName text :=
  ⟨mt utf8Bytes_eq_nil_iff.mp inside.filled, mt slashByte_mem_utf8Bytes.mp inside.noSlash⟩

/-- A step to where one is names no file. -/
theorem ne_here_of_namesFile {tree : FileTree} {root : PathName} {spelling : String}
    (filled : root ≠ []) (names : NamesFile tree root spelling) : spelling ≠ "." := by
  rintro rfl
  obtain ⟨content, found⟩ := FileTree.exists_entry_of_isFile names
  obtain ⟨_, place, leads⟩ := FileTree.exists_leads_of_resolve found
  have here : IsStepName "." := by decide
  rw [here.pathSteps_joinPath filled] at leads
  obtain ⟨folder, directory⟩ := leads.isDirectory List.getLast?_concat
  exact Entry.noConfusion directory

/-- The last step of a path is its file name, and the steps before it are its parent. -/
theorem fileName_and_parent_of_parts {path name : PathName} {parts : PathParts}
    (whole : PathParts.of path = { parts with steps := parts.steps ++ [name] })
    (stays : name ≠ ".") (rises : name ≠ "..") :
    pathFileName? path = some name ∧ pathParent? path = some parts.path := by
  refine ⟨?_, ?_⟩
  · rw [pathFileName?, whole]
    simp [stays, rises]
  · rw [pathParent?, whole]
    simp

/-- A routine that is found under an accepted name lies below the root, whatever its spelling. -/
theorem lookUpRoutine_stays_below {typed : String} {name : RoutineName}
    (accepted : RoutineName.parse typed = .ok name) {tree : FileTree}
    (proper : tree.top.ProperlyNamed) {root : PathName} {folder : Folder Entry}
    (isRoot : tree.entry root = .ok (.directory folder)) (depth : Nat) :
    (∀ path scanned, lookUpRoutine tree depth root name = .found path .directProbe scanned →
      ∃ spelling ∈ name.spellings, spelling ≠ "." ∧ spelling ≠ ".." ∧
        path = joinPath root spelling ∧
        PathParts.of path =
          { PathParts.of root with steps := (PathParts.of root).steps ++ [utf8Bytes spelling] } ∧
        pathFileName? path = some (utf8Bytes spelling) ∧
        pathParent? path = some (PathParts.of root).path) ∧
    (∀ path scanned, lookUpRoutine tree depth root name = .found path .walk scanned →
      ∃ directories file, path = joinSteps root (directories ++ [file]) ∧
        PathParts.of path =
          { PathParts.of root with
            steps := (PathParts.of root).steps ++ (directories ++ [file]) } ∧
        (∀ directory ∈ directories,
          IsEntryName directory ∧ isIgnoredDirectory directory = false) ∧
        IsEntryName file ∧
        ∃ extension, nameExtension? file = some (utf8Bytes extension) ∧
          isSourceExtension extension = true) ∧
    ∀ spelling ∈ name.spellings, StaysInside spelling ∧ StaysInside (upperCase spelling) := by
  have bare := RoutineName.isBare_of_parse accepted
  have filled := (FileTree.exists_leads_of_resolve isRoot).1.filled
  refine ⟨?_, ?_, ?_⟩
  · intro path scanned found
    obtain ⟨_, spelling, ⟨before, after, split, names, _⟩, rfl⟩ :=
      lookUpRoutine_directProbe_iff.mp found
    have listed : spelling ∈ name.spellings := by
      rw [split]
      simp
    have inside := bare.spellings listed
    have stays := ne_here_of_namesFile filled names
    have staysToo : utf8Bytes spelling ≠ utf8Bytes "." := mt utf8Bytes_injective stays
    have rises : utf8Bytes spelling ≠ utf8Bytes ".." := mt utf8Bytes_injective inside.notAbove
    have parts := inside.isStepName.parts_joinPath filled staysToo
    exact ⟨spelling, listed, stays, inside.notAbove, rfl, parts,
      fileName_and_parent_of_parts parts staysToo rises⟩
  · intro path scanned found
    obtain ⟨_, _, before, after, split, _, _⟩ := lookUpRoutine_walk_iff.mp found
    have member : path ∈ ((ScanPlan.forSources depth).scan tree root).files := by
      rw [split]
      simp
    obtain ⟨steps, listed, rfl⟩ := (ScanPlan.mem_scan_files_iff isRoot).mp member
    obtain ⟨content, place⟩ := listed.file
    have names := (Entry.AllNamed.resolve proper isRoot).of_at? place
    obtain ⟨file, last, extension, cut, known, isKnown, agrees⟩ := listed.wanted
    obtain ⟨directories, rfl⟩ := List.getLast?_eq_some_iff.mp last
    have parts := parts_joinSteps filled fun step member =>
      ⟨(names step member).step, (names step member).plain.stays⟩
    refine ⟨directories, file, rfl, parts, ?_, names file (by simp), extension, cut, ?_⟩
    · intro directory member
      refine ⟨names directory (by simp [member]), listed.noneIgnored directory ?_⟩
      rw [List.dropLast_concat]
      exact member
    · rw [ScanPlan.extensions_forSources] at isKnown
      exact List.any_eq_true.mpr ⟨known, isKnown, agrees⟩
  · intro spelling listed
    have inside := bare.spellings listed
    exact ⟨inside, inside.upperCase⟩

/-- The only source of this tree is named by an ending and one more dot. -/
def dottedSource : FileTree where
  top := .directory { entries := [("..prw", .file [])] }
  workingDirectory := "/"

theorem properlyNamed_dottedSource : dottedSource.top.ProperlyNamed :=
  Entry.allNamed_flat (by decide) (by decide)

theorem entry_dottedSource : dottedSource.entry "/" = .ok dottedSource.top :=
  FileTree.entry_slash rfl

/-- A lone dot is accepted as a name, and its first spelling is passed over. -/
theorem lookUpRoutine_lone_dot :
    let dot : RoutineName := { typed := ".", base := "." }
    RoutineName.parse "." = .ok dot ∧ dottedSource.top.ProperlyNamed ∧
      dottedSource.entry "/" = .ok dottedSource.top ∧
      lookUpRoutine dottedSource 1 "/" dot = .found "/..prw" .directProbe 0 ∧
      ∃ spelling ∈ dot.spellings, spelling ≠ "." ∧ spelling ≠ ".." ∧
        utf8Bytes "/..prw" = joinPath "/" spelling ∧
        pathParent? "/..prw" = some (utf8Bytes "/") := by
  intro dot
  have accepted : RoutineName.parse "." = .ok dot := by decide
  have file : NamesFile dottedSource "/" "..prw" := by
    have leads : dottedSource.entry (joinSteps "/" ["..prw"]) = .ok (.file []) :=
      FileTree.entry_joinSteps entry_dottedSource (by simp) (by decide) rfl
        (Entry.searchable_singleton rfl _) (by simp) (by decide)
    exact FileTree.isFile_of_entry leads
  have first : IsFirst (NamesFile dottedSource "/") dot.spellings "..prw" := by
    refine ⟨["."], dot.spellings.drop 2, by decide, file, ?_⟩
    intro other member names
    exact ne_here_of_namesFile (by decide) names (List.mem_singleton.mp member)
  have found : lookUpRoutine dottedSource 1 "/" dot = .found "/..prw" .directProbe 0 :=
    lookUpRoutine_directProbe_iff.mpr ⟨rfl, "..prw", first, by decide⟩
  obtain ⟨spelling, listed, stays, rises, same, _, _, parent⟩ :=
    (lookUpRoutine_stays_below accepted properlyNamed_dottedSource entry_dottedSource 1).1 _ _ found
  have top : (PathParts.of "/").path = "/" := by decide
  exact ⟨accepted, properlyNamed_dottedSource, entry_dottedSource, found, spelling, listed, stays,
    rises, same, top ▸ parent⟩

end RoutineAtlas
