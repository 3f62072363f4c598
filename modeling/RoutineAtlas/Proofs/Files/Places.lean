import RoutineAtlas.Proofs.Files.Parts
import RoutineAtlas.Proofs.Files.Reporting

/-
This file settles which files a scan of a directory lists and in which order. A file is listed for
its place below the directory, a deeper scan only adds places that lie deeper, and a directory that
bars the way to a place is reported.
-/

namespace RoutineAtlas

/-- A scan of a directory lists the files of exactly the listed places, each once and in order, and
it reports what bars the way to any other place that it seeks. -/
theorem ScanPlan.scan_lists_places (plan : ScanPlan) {tree : FileTree}
    (named : tree.top.WellNamed) {root : PathName} {folder : Folder Entry}
    (isRoot : tree.entry root = .ok (.directory folder)) :
    ∃ places : Nat → List (List PathName),
      (∀ depth, ({ plan with depth }.scan tree root).files =
        (places depth).map (joinSteps root)) ∧
      (∀ depth steps, steps ∈ places depth ↔ plan.Lists depth root folder steps) ∧
      (∀ depth, (places depth).Pairwise ComesBefore) ∧
      (∀ depth, ({ plan with depth }.scan tree root).files.Nodup) ∧
      (∀ shallow deep, shallow ≤ deep →
        places shallow = (places deep).filter fun steps => steps.length ≤ shallow) ∧
      ∀ depth,
        (∀ steps, plan.Seeks depth folder steps → steps ∉ places depth →
          ∃ above rest fault, steps = above ++ rest ∧ rest ≠ [] ∧
            .refused (joinSteps root above) fault ∈ ({ plan with depth }.scan tree root).skipped) ∧
        ∀ skipped ∈ ({ plan with depth }.scan tree root).skipped,
          ∃ above fault, skipped = .refused (joinSteps root above) fault ∧
            IsBarred root folder above fault := by
  refine ⟨fun depth => plan.stepsBelow depth root folder, ?_, ?_, ?_, ?_, ?_, ?_⟩
  · intro depth
    rw [ScanPlan.scan_of_directory _ isRoot]
    have steps := ScanPlan.walk_eq_map { plan with depth } depth root folder
    have alike : ScanPlan.stepsBelow { plan with depth } depth root folder =
        plan.stepsBelow depth root folder := by
      apply ScanPlan.stepsBelow_congr
      rfl
    rw [alike] at steps
    exact steps
  · intro depth steps
    exact ScanPlan.mem_stepsBelow_iff
  · intro depth
    exact plan.pairwise_stepsBelow depth root folder
  · intro depth
    exact ScanPlan.nodup_scan_files { plan with depth } named root
  · intro shallow deep reach
    exact plan.stepsBelow_eq_filter reach root folder
  · intro depth
    rw [ScanPlan.scan_of_directory _ isRoot]
    refine ⟨?_, fun skipped reported => exists_barred_of_mem_refusedDirectories reported⟩
    intro steps sought unlisted
    obtain lists | ⟨above, rest, fault, whole, more, _, reported⟩ :=
      ScanPlan.lists_or_reports sought
    · exact absurd (ScanPlan.mem_stepsBelow_iff.mpr lists) unlisted
    · exact ⟨above, rest, fault, whole, more, reported⟩

/-- This path takes steps to where one is, and leads nowhere else. -/
def stayingPath : (more : Nat) → PathName
  | 0 => "."
  | more + 1 => "./" ++ stayingPath more

theorem stayingPath_succ (more : Nat) :
    stayingPath (more + 1) = utf8Bytes "." ++ slashByte :: stayingPath more := by
  have front : utf8Bytes "./" = utf8Bytes "." ++ [slashByte] := by decide
  rw [stayingPath, front, List.append_assoc, List.singleton_append]

theorem length_stayingPath (more : Nat) : (stayingPath more).length = 2 * more + 1 := by
  induction more with
  | zero => decide
  | succ more inductionHypothesis =>
      have dot : (utf8Bytes ".").length = 1 := by decide
      rw [stayingPath_succ, List.length_append, List.length_cons, inductionHypothesis, dot]
      omega

theorem stayingPath_ne_nil (more : Nat) : stayingPath more ≠ [] := by
  intro empty
  have length := length_stayingPath more
  rw [empty] at length
  exact absurd length (by simp)

theorem endsWithSlash_stayingPath (more : Nat) : endsWithSlash (stayingPath more) = false := by
  induction more with
  | zero => decide
  | succ more inductionHypothesis =>
      rw [endsWithSlash] at inductionHypothesis ⊢
      obtain ⟨first, rest, whole⟩ := List.exists_cons_of_ne_nil (stayingPath_ne_nil more)
      rw [stayingPath_succ, List.getLast?_append_of_ne_nil _ (List.cons_ne_nil _ _)]
      rw [whole] at inductionHypothesis ⊢
      simpa using inductionHypothesis

theorem pathSteps_stayingPath (more : Nat) :
    pathSteps (stayingPath more) = List.replicate (more + 1) (utf8Bytes ".") := by
  have pieces : pathPieces (stayingPath more) = List.replicate (more + 1) (utf8Bytes ".") := by
    induction more with
    | zero => decide
    | succ more inductionHypothesis =>
        have here : splitPieces slashByte (utf8Bytes ".") = [utf8Bytes "."] := by decide
        rw [pathPieces, stayingPath_succ, splitPieces_append, here, ← pathPieces,
          inductionHypothesis]
        rfl
  have filled : utf8Bytes "." ≠ [] := by decide
  rw [pathSteps, pathNames, pieces, endsWithSlash_stayingPath]
  simp [filled]

theorem Entry.follow_replicate_here {top : Entry} {place : Place} {folder : Folder Entry}
    (here : top.at? place = some (.directory folder)) (opened : folder.maySearch = true)
    (followLast : Bool) (links count : Nat) :
    top.follow followLast links place (List.replicate count (utf8Bytes ".")) =
      .ok (place, .directory folder) := by
  induction count with
  | zero => exact Entry.follow_nil here followLast links
  | succ count inductionHypothesis =>
      rw [List.replicate_succ, Entry.follow_turn here (.here opened), inductionHypothesis]

/-- A tree with one source, which lies in a directory. -/
def nestedSource : FileTree where
  top := .directory
    { entries := [("a", .directory { entries := [("X.prw", .file [])] })] }
  workingDirectory := "/"

theorem wellNamed_nestedSource : nestedSource.top.WellNamed :=
  Entry.wellNamed_directory (by decide)
    (List.forall_mem_singleton.mpr (Entry.wellNamed_flat (by decide) (by decide)))

theorem mem_stayingPath {more : Nat} {byte : UInt8} (member : byte ∈ stayingPath more) :
    byte = dotByte ∨ byte = slashByte := by
  induction more with
  | zero =>
      have only : stayingPath 0 = [dotByte] := by decide
      exact Or.inl (List.mem_singleton.mp (only ▸ member))
  | succ more inductionHypothesis =>
      have dot : utf8Bytes "." = [dotByte] := by decide
      rw [stayingPath_succ, dot, List.singleton_append, List.mem_cons, List.mem_cons] at member
      obtain first | slash | inside := member
      · exact Or.inl first
      · exact Or.inr slash
      · exact inductionHypothesis inside

theorem isUsablePath_stayingPath {more : Nat} (fits : 2 * more + 1 < pathLimit) :
    IsUsablePath (stayingPath more) where
  noNull := by
    intro member
    obtain same | same := mem_stayingPath member
    · exact absurd same (by decide)
    · exact absurd same (by decide)
  filled := stayingPath_ne_nil more
  short := by
    rw [isOverlong, length_stayingPath]
    exact decide_eq_false (Nat.not_le.mpr fits)

/-- However many steps stay where they are, the path leads to the working directory. -/
theorem entry_stayingPath {more : Nat} (fits : 2 * more + 1 < pathLimit) :
    nestedSource.entry (stayingPath more) = .ok nestedSource.top := by
  have start : nestedSource.startOf (stayingPath more) = [] := by
    have working : pathNames nestedSource.workingDirectory = [] := by decide
    rw [FileTree.startOf, working, ite_self]
  have here : nestedSource.top.at? [] = some nestedSource.top := by rw [Entry.at?]
  rw [FileTree.entry, FileTree.resolve_of_usable (isUsablePath_stayingPath fits), start,
    pathSteps_stayingPath]
  rw [nestedSource] at here ⊢
  rw [Entry.follow_replicate_here here rfl]
  rfl

/-- The source in a directory of this name is sought. -/
theorem ScanPlan.seeks_nested {folder inside : Folder Entry}
    (named : childNamed "a" folder = some (.directory inside))
    (held : childNamed "X.prw" inside = some (.file [])) :
    (ScanPlan.forSources 2).Seeks 2 folder [utf8Bytes "a", utf8Bytes "X.prw"] := by
  have wanted : (ScanPlan.forSources 2).WantsName "X.prw" :=
    ⟨"prw", by decide, "prw", by decide, by decide⟩
  refine (ScanPlan.seeks_cons (by simp)).mpr ⟨inside, named, by decide, ?_⟩
  exact ScanPlan.seeks_singleton.mpr ⟨⟨[], held⟩, wanted⟩

theorem listable_nestedSource : nestedSource.top.Listable [utf8Bytes "a"] :=
  (Entry.listable_cons rfl).mpr ⟨rfl, Entry.listable_nil.mpr rfl⟩

/-- From where one is, the source is listed. -/
theorem ScanPlan.scan_lists_nestedSource :
    nestedSource.top.WellNamed ∧ nestedSource.entry "." = .ok nestedSource.top ∧
      utf8Bytes "./a/X.prw" ∈ ((ScanPlan.forSources 2).scan nestedSource ".").files := by
  have isRoot : nestedSource.entry "." = .ok nestedSource.top :=
    @entry_stayingPath 0 (by decide)
  refine ⟨wellNamed_nestedSource, isRoot, ?_⟩
  obtain ⟨places, files, listed, _⟩ :=
    (ScanPlan.forSources 2).scan_lists_places wellNamed_nestedSource isRoot
  have place : [utf8Bytes "a", utf8Bytes "X.prw"] ∈ places 2 := by
    rw [listed]
    exact {
      toSeeks := ScanPlan.seeks_nested rfl rfl
      noneOverlong := by
        intro above some first
        obtain ⟨step, further, rfl⟩ := List.exists_cons_of_ne_nil some
        obtain ⟨rfl, ended⟩ := List.cons_prefix_cons.mp first
        rw [List.prefix_nil.mp ended]
        decide
      listable := listable_nestedSource
      searchable := Entry.searchable_singleton rfl _ }
  have same := files 2
  change ((ScanPlan.forSources 2).scan nestedSource ".").files = _ at same
  rw [same]
  exact List.mem_map.mpr ⟨_, place, by decide⟩

/-- In this tree nobody may ask for the names in the directory of the source. -/
def shutSource : FileTree where
  top := .directory
    { entries := [("a", .directory { entries := [("X.prw", .file [])], mayList := false })] }
  workingDirectory := "/"

theorem wellNamed_shutSource : shutSource.top.WellNamed :=
  Entry.wellNamed_directory (by decide)
    (List.forall_mem_singleton.mpr (Entry.wellNamed_flat (by decide) (by decide)))

/-- Directories that may not be listed or have too long a path are not entered, so that the source
in them is sought and not listed. -/
theorem ScanPlan.barred_directories_not_entered :
    let plan := ScanPlan.forSources 2
    let steps := [utf8Bytes "a", utf8Bytes "X.prw"]
    (nestedSource.top.WellNamed ∧
      ∃ folder, nestedSource.entry (stayingPath 2047) = .ok (.directory folder) ∧
        plan.Seeks plan.depth folder steps ∧
        joinSteps (stayingPath 2047) steps ∉ (plan.scan nestedSource (stayingPath 2047)).files) ∧
    shutSource.top.WellNamed ∧
      ∃ folder, shutSource.entry "/" = .ok (.directory folder) ∧
        plan.Seeks plan.depth folder steps ∧
        joinSteps "/" steps ∉ (plan.scan shutSource "/").files := by
  intro plan steps
  refine ⟨⟨wellNamed_nestedSource, _, entry_stayingPath (by decide), seeks_nested rfl rfl, ?_⟩,
    wellNamed_shutSource, _, FileTree.entry_slash rfl, seeks_nested rfl rfl, ?_⟩
  · intro listed
    have lists := ScanPlan.lists_of_mem_scan wellNamed_nestedSource
      (entry_stayingPath (by decide)) (by simp [steps]) (by decide) listed
    have short := lists.noneOverlong [utf8Bytes "a"] (by decide) (List.prefix_refl _)
    have overlong : isOverlong (joinSteps (stayingPath 2047) [utf8Bytes "a"]) = true := by
      have name : IsStepName "a" := by decide
      rw [joinSteps, List.foldl_cons, List.foldl_nil, name.joinPath_eq, pathStart,
        if_neg (stayingPath_ne_nil 2047), endsWithSlash_stayingPath, if_neg Bool.false_ne_true,
        isOverlong, List.length_append, List.length_append, length_stayingPath]
      decide
    rw [overlong] at short
    exact Bool.noConfusion short
  · intro listed
    have lists := ScanPlan.lists_of_mem_scan wellNamed_shutSource (FileTree.entry_slash rfl)
      (by simp [steps]) (by decide) listed
    obtain ⟨_, inside⟩ := (Entry.listable_cons rfl).mp lists.listable
    exact Bool.noConfusion (Entry.listable_nil.mp inside)

end RoutineAtlas
