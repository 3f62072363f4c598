import RoutineAtlas.Files.Scan
import RoutineAtlas.Proofs.Files.Naming
import Mathlib.Data.List.Flatten
import Mathlib.Data.List.Nodup

/-
This file settles what a walk lists. A deeper walk lists no fewer files, and no walk of a
well-named tree lists a file twice.
-/

namespace RoutineAtlas

theorem ScanPlan.wants_congr {plan other : ScanPlan} (same : plan.extensions = other.extensions)
    (extension : Option PathName) : plan.wants extension = other.wants extension := by
  rw [ScanPlan.wants, ScanPlan.wants, same]

/-- A deeper walk keeps the files of the walk in their order. -/
theorem ScanPlan.walk_sublist {plan deeper : ScanPlan}
    (same : plan.extensions = deeper.extensions) {shallow deep : Nat} (reach : shallow ≤ deep)
    (path : PathName) (folder : Folder Entry) :
    (plan.walk shallow path folder).Sublist (deeper.walk deep path folder) := by
  induction shallow generalizing deep path folder with
  | zero => exact List.nil_sublist _
  | succ shallow inductionHypothesis =>
      obtain ⟨deep, rfl⟩ : ∃ below, deep = below + 1 := ⟨deep - 1, by omega⟩
      rw [ScanPlan.walk, ScanPlan.walk]
      apply List.Sublist.flatMap_right
      rintro ⟨name, entry⟩ _
      cases entry with
      | file content =>
          dsimp only
          rw [ScanPlan.wants_congr same]
      | device => exact List.Sublist.refl _
      | link target => exact List.Sublist.refl _
      | directory below =>
          dsimp only
          split
          · exact inductionHypothesis (by omega) _ below
          · exact List.Sublist.refl _

/-- A deeper scan of the same tree lists no fewer files. -/
theorem ScanPlan.scan_files_sublist {plan deeper : ScanPlan}
    (same : plan.extensions = deeper.extensions) (reach : plan.depth ≤ deeper.depth)
    (tree : FileTree) (root : PathName) :
    (plan.scan tree root).files.Sublist (deeper.scan tree root).files := by
  have below (folder : Folder Entry) :
      (plan.scanBelow root folder).files.Sublist (deeper.scanBelow root folder).files :=
    ScanPlan.walk_sublist same reach root folder
  rw [ScanPlan.scan, ScanPlan.scan]
  split
  · exact List.Sublist.refl _
  · rw [ScanPlan.wants_congr same]
  · exact List.Sublist.refl _
  · exact below _
  · split
    · exact List.Sublist.refl _
    · exact below _
    · exact List.Sublist.refl _

/-- These are the steps to the files of one child, when the steps below its directory are known. -/
def ScanPlan.stepsOfChild (plan : ScanPlan) (path : PathName) (folder : Folder Entry)
    (below : PathName → Folder Entry → List (List PathName)) :
    PathName × Entry → List (List PathName)
  | (name, .file _) => if plan.wants (nameExtension? name) then [[name]] else []
  | (_, .link _) => []
  | (_, .device) => []
  | (name, .directory inside) =>
      if isEntered path folder name then (below (joinPath path name) inside).map (name :: ·)
      else []

/-- These are the steps from a directory to the files that a walk lists below it. -/
def ScanPlan.stepsBelow (plan : ScanPlan) :
    (depth : Nat) → (path : PathName) → Folder Entry → List (List PathName)
  | 0, _, _ => []
  | depth + 1, path, folder =>
      (listing folder).flatMap (plan.stepsOfChild path folder (plan.stepsBelow depth))

/-- A walk takes the steps to each of its files. -/
theorem ScanPlan.walk_eq_map (plan : ScanPlan) (depth : Nat) (path : PathName)
    (folder : Folder Entry) :
    plan.walk depth path folder = (plan.stepsBelow depth path folder).map (joinSteps path) := by
  induction depth generalizing path folder with
  | zero => rfl
  | succ depth inductionHypothesis =>
      rw [ScanPlan.walk, ScanPlan.stepsBelow, List.map_flatMap]
      congr 1
      funext child
      obtain ⟨name, entry⟩ := child
      cases entry with
      | file content =>
          dsimp only [ScanPlan.stepsOfChild]
          split <;> rfl
      | device => rfl
      | link target => rfl
      | directory below =>
          dsimp only [ScanPlan.stepsOfChild]
          split
          · rw [inductionHypothesis, List.map_map]
            rfl
          · rfl

/-- The steps of a child begin with its name, and go on below it or end with a file. -/
theorem ScanPlan.mem_stepsOfChild {plan : ScanPlan} {path name : PathName} {folder : Folder Entry}
    {entry : Entry} {below : PathName → Folder Entry → List (List PathName)}
    {steps : List PathName} :
    steps ∈ plan.stepsOfChild path folder below (name, entry) ↔
      (∃ content, entry = .file content ∧ plan.wants (nameExtension? name) = true ∧
          steps = [name]) ∨
        ∃ inside rest, entry = .directory inside ∧ isEntered path folder name = true ∧
          rest ∈ below (joinPath path name) inside ∧ steps = name :: rest := by
  cases entry with
  | file content => simp [ScanPlan.stepsOfChild]
  | device => simp [ScanPlan.stepsOfChild]
  | link target => simp [ScanPlan.stepsOfChild]
  | directory inside =>
      simp only [ScanPlan.stepsOfChild, List.mem_ite_nil_right, List.mem_map]
      constructor
      · rintro ⟨entered, rest, deeper, same⟩
        exact Or.inr ⟨inside, rest, rfl, entered, deeper, same.symm⟩
      · rintro (⟨_, impossible, _⟩ | ⟨_, rest, same, entered, deeper, whole⟩)
        · exact absurd impossible (by simp)
        · obtain rfl := Entry.directory.inj same
          exact ⟨entered, rest, deeper, whole.symm⟩

theorem ScanPlan.head?_of_mem_stepsOfChild {plan : ScanPlan} {path : PathName}
    {folder : Folder Entry} {below : PathName → Folder Entry → List (List PathName)}
    {child : PathName × Entry} {steps : List PathName}
    (member : steps ∈ plan.stepsOfChild path folder below child) :
    steps.head? = some child.1 := by
  obtain ⟨_, _, _, rfl⟩ | ⟨_, _, _, _, _, rfl⟩ := ScanPlan.mem_stepsOfChild.mp member
  · rfl
  · rfl

theorem ScanPlan.ne_nil_of_mem_stepsBelow {plan : ScanPlan} {depth : Nat} {path : PathName}
    {folder : Folder Entry} {steps : List PathName}
    (member : steps ∈ plan.stepsBelow depth path folder) : steps ≠ [] := by
  cases depth with
  | zero => exact absurd member List.not_mem_nil
  | succ depth =>
      obtain ⟨child, _, inside⟩ := List.mem_flatMap.mp member
      have head := ScanPlan.head?_of_mem_stepsOfChild inside
      intro empty
      exact absurd (empty ▸ head) (by simp)

/-- The steps of a walk lead to files. -/
theorem ScanPlan.at?_of_mem_stepsBelow {plan : ScanPlan} {depth : Nat} {path : PathName}
    {folder : Folder Entry} {steps : List PathName}
    (member : steps ∈ plan.stepsBelow depth path folder) :
    ∃ content, (Entry.directory folder).at? steps = some (.file content) := by
  induction depth generalizing path folder steps with
  | zero => exact absurd member List.not_mem_nil
  | succ depth inductionHypothesis =>
      obtain ⟨⟨name, entry⟩, listed, inside⟩ := List.mem_flatMap.mp member
      have found := (mem_listing.mp listed).2
      obtain ⟨content, rfl, _, rfl⟩ | ⟨below, rest, rfl, _, deeper, rfl⟩ :=
        ScanPlan.mem_stepsOfChild.mp inside
      · exact ⟨content, by rw [Entry.at?, found]; rfl⟩
      · obtain ⟨content, reached⟩ := inductionHypothesis deeper
        exact ⟨content, by rw [Entry.at?, found]; exact reached⟩

/-- In a well-named directory a walk takes only steps that are names. -/
theorem ScanPlan.isStepName_of_mem_stepsBelow {plan : ScanPlan} {depth : Nat} {path : PathName}
    {folder : Folder Entry} (named : (Entry.directory folder).WellNamed)
    {steps : List PathName} (member : steps ∈ plan.stepsBelow depth path folder) :
    ∀ step ∈ steps, IsStepName step := by
  obtain ⟨content, found⟩ := ScanPlan.at?_of_mem_stepsBelow member
  exact (Entry.wellNamed_iff.mp named).of_at? found

/-- A walk comes to each place once. -/
theorem ScanPlan.nodup_stepsBelow (plan : ScanPlan) (depth : Nat) (path : PathName)
    (folder : Folder Entry) : (plan.stepsBelow depth path folder).Nodup := by
  induction depth generalizing path folder with
  | zero => exact List.nodup_nil
  | succ depth inductionHypothesis =>
      rw [ScanPlan.stepsBelow, List.nodup_flatMap]
      constructor
      · rintro ⟨name, entry⟩ _
        cases entry with
        | file content =>
            dsimp only [ScanPlan.stepsOfChild]
            split
            · exact List.nodup_singleton _
            · exact List.nodup_nil
        | device => exact List.nodup_nil
        | link target => exact List.nodup_nil
        | directory below =>
            dsimp only [ScanPlan.stepsOfChild]
            split
            · exact (inductionHypothesis _ below).map fun _ _ same => (List.cons.inj same).2
            · exact List.nodup_nil
      · apply (listing_pairwise folder).imp
        intro first second before steps member other
        have heads := (ScanPlan.head?_of_mem_stepsOfChild member).symm.trans
          (ScanPlan.head?_of_mem_stepsOfChild other)
        exact absurd (Option.some.inj heads).symm (ne_of_nameLt before)

/-- A walk of a well-named directory lists no file twice. -/
theorem ScanPlan.nodup_walk (plan : ScanPlan) (depth : Nat) (path : PathName)
    {folder : Folder Entry} (named : (Entry.directory folder).WellNamed) :
    (plan.walk depth path folder).Nodup := by
  rw [ScanPlan.walk_eq_map]
  apply List.Nodup.map_on ?_ (plan.nodup_stepsBelow depth path folder)
  intro first member second other same
  exact joinSteps_injective (ScanPlan.ne_nil_of_mem_stepsBelow member)
    (ScanPlan.ne_nil_of_mem_stepsBelow other)
    (ScanPlan.isStepName_of_mem_stepsBelow named member)
    (ScanPlan.isStepName_of_mem_stepsBelow named other) same

/-- A scan of a well-named tree lists no file twice. -/
theorem ScanPlan.nodup_scan_files (plan : ScanPlan) {tree : FileTree} (named : tree.top.WellNamed)
    (root : PathName) : (plan.scan tree root).files.Nodup := by
  rw [ScanPlan.scan]
  split
  · exact List.nodup_nil
  · dsimp only
    split
    · exact List.nodup_singleton _
    · exact List.nodup_nil
  · exact List.nodup_nil
  · rename_i folder found
    exact plan.nodup_walk _ _ (named.resolve found)
  · split
    · exact List.nodup_nil
    · rename_i folder found
      exact plan.nodup_walk _ _ (named.resolve found)
    · exact List.nodup_nil

end RoutineAtlas
