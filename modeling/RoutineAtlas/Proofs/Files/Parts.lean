import RoutineAtlas.Proofs.Files.Following

/-
This file takes joined paths apart. A path below a directory has the parts of the directory and
the steps below it, and leads on from where the directory's path leads.
-/

namespace RoutineAtlas

/-- These are the pieces of a directory's path without the empty one behind a slash at its end. -/
def barePieces (directory : PathName) : List PathName :=
  if endsWithSlash directory then (pathPieces directory).dropLast else pathPieces directory

/-- A slash at the end of a path stands behind everything else. -/
theorem exists_of_endsWithSlash {path : PathName} (ends : endsWithSlash path = true) :
    ∃ front, path = front ++ [slashByte] := by
  rw [endsWithSlash, beq_iff_eq] at ends
  exact List.getLast?_eq_some_iff.mp ends

theorem pathPieces_concat (front : PathName) :
    pathPieces (front ++ [slashByte]) = pathPieces front ++ [[]] := by
  rw [pathPieces, splitPieces_append]
  rfl

/-- A path that ends with a slash has an empty last piece. -/
theorem pathPieces_eq_bare (directory : PathName) :
    pathPieces directory =
      barePieces directory ++ if endsWithSlash directory then [[]] else [] := by
  rw [barePieces]
  split
  · rename_i ends
    obtain ⟨front, rfl⟩ := exists_of_endsWithSlash ends
    rw [pathPieces_concat, List.dropLast_concat]
  · rw [List.append_nil]

theorem barePieces_ne_nil (directory : PathName) : barePieces directory ≠ [] := by
  rw [barePieces]
  split
  · rename_i ends
    obtain ⟨front, rfl⟩ := exists_of_endsWithSlash ends
    rw [pathPieces_concat, List.dropLast_concat]
    exact splitPieces_ne_nil slashByte front
  · exact splitPieces_ne_nil slashByte directory

/-- A step to which an empty piece does not belong is kept by a filter that drops such pieces. -/
theorem filter_emptyPiece (ends : Bool) (keeps : PathName → Bool) (drops : keeps [] = false) :
    (if ends then [[]] else []).filter keeps = [] := by
  cases ends <;> simp [drops]

theorem pathNames_eq_bare (directory : PathName) :
    pathNames directory = (barePieces directory).filter (· != []) := by
  rw [pathNames, pathPieces_eq_bare, List.filter_append, filter_emptyPiece _ _ rfl, List.append_nil]

/-- The steps of a path are its names, and an empty one may follow. -/
theorem pathSteps_eq_or (directory : PathName) :
    pathSteps directory = pathNames directory ∨
      pathSteps directory = pathNames directory ++ [[]] := by
  rw [pathSteps]
  cases endsWithSlash directory with
  | true => exact Or.inr rfl
  | false => exact Or.inl (List.append_nil _)

section

variable {name directory : PathName} (step : IsStepName name) (filled : directory ≠ [])

include step filled

/-- The name of an entry is the last piece of its path. -/
theorem IsStepName.pathPieces_joinPath :
    pathPieces (joinPath directory name) = barePieces directory ++ [name] := by
  rw [pathPieces, step.joinPath_eq, pathStart, if_neg filled, barePieces]
  split
  · rename_i ends
    obtain ⟨front, rfl⟩ := exists_of_endsWithSlash ends
    rw [pathPieces_concat, List.dropLast_concat, List.append_assoc, List.singleton_append,
      splitPieces_append, splitPieces_of_notMem step.2, pathPieces]
  · rw [List.append_assoc, List.singleton_append, splitPieces_append,
      splitPieces_of_notMem step.2, pathPieces]

/-- A path below a directory starts where the directory's path does. -/
theorem IsStepName.isAbsolutePath_joinPath :
    RoutineAtlas.isAbsolutePath (joinPath directory name) =
      RoutineAtlas.isAbsolutePath directory := by
  rw [RoutineAtlas.isAbsolutePath, RoutineAtlas.isAbsolutePath, step.joinPath_eq, pathStart,
    if_neg filled]
  split
  · rw [List.head?_append_of_ne_nil _ filled]
  · rw [List.append_assoc, List.head?_append_of_ne_nil _ filled]

/-- The parts of a path below a directory are those of the directory and one more step. -/
theorem IsStepName.parts_joinPath (stays : name ≠ ".") :
    PathParts.of (joinPath directory name) =
      { PathParts.of directory with steps := (PathParts.of directory).steps ++ [name] } := by
  have first (more : List PathName) :
      (barePieces directory ++ more).head? = (barePieces directory).head? :=
    List.head?_append_of_ne_nil _ (barePieces_ne_nil directory)
  have last : [name].filter (fun piece => piece != [] && piece != utf8Bytes ".") = [name] := by
    simp [step.1, stays]
  rw [PathParts.of, PathParts.of, step.isAbsolutePath_joinPath filled,
    step.pathPieces_joinPath filled, pathPieces_eq_bare directory]
  have nothing : (if endsWithSlash directory then [[]] else []).filter
      (fun piece => piece != [] && piece != utf8Bytes ".") = [] := filter_emptyPiece _ _ rfl
  simp only [first, List.filter_append, last, nothing, List.append_nil]
  split <;> rfl

theorem IsStepName.startOf_joinPath (tree : FileTree) :
    tree.startOf (joinPath directory name) = tree.startOf directory := by
  rw [FileTree.startOf, FileTree.startOf, step.isAbsolutePath_joinPath filled]

theorem IsStepName.pathNames_joinPath :
    pathNames (joinPath directory name) = pathNames directory ++ [name] := by
  have last : [name].filter (· != []) = [name] := by simp [step.1]
  rw [pathNames, step.pathPieces_joinPath filled, List.filter_append, last,
    pathNames_eq_bare]

/-- A path below a directory takes the names to the directory and one more. -/
theorem IsStepName.pathSteps_joinPath :
    pathSteps (joinPath directory name) = pathNames directory ++ [name] := by
  rw [pathSteps, step.endsWithSlash_joinPath, if_neg Bool.false_ne_true, List.append_nil,
    step.pathNames_joinPath filled]

end

/-- The parts of a path below a directory are those of the directory and the steps. -/
theorem parts_joinSteps {directory : PathName} (filled : directory ≠ []) {steps : List PathName}
    (named : ∀ step ∈ steps, IsStepName step ∧ step ≠ ".") :
    PathParts.of (joinSteps directory steps) =
      { PathParts.of directory with steps := (PathParts.of directory).steps ++ steps } := by
  induction steps generalizing directory with
  | nil => simp [joinSteps]
  | cons name rest inductionHypothesis =>
      obtain ⟨step, stays⟩ := named name (by simp)
      have tail := inductionHypothesis (step.joinPath_ne_nil directory)
        fun other member => named other (List.mem_cons_of_mem _ member)
      rw [joinSteps, List.foldl_cons]
      rw [joinSteps] at tail
      rw [tail, step.parts_joinPath filled stays, List.append_assoc, List.singleton_append]

/-- A path below a directory starts where the directory's path does, and takes the names to the
directory and the steps below it. -/
theorem FileTree.steps_joinSteps (tree : FileTree) {directory : PathName}
    (filled : directory ≠ []) {steps : List PathName} (moves : steps ≠ [])
    (named : ∀ step ∈ steps, IsStepName step) :
    tree.startOf (joinSteps directory steps) = tree.startOf directory ∧
      pathSteps (joinSteps directory steps) = pathNames directory ++ steps := by
  induction steps generalizing directory with
  | nil => exact absurd rfl moves
  | cons name rest inductionHypothesis =>
      have step := named name (by simp)
      cases rest with
      | nil => exact ⟨step.startOf_joinPath filled tree, step.pathSteps_joinPath filled⟩
      | cons next others =>
          obtain ⟨start, tail⟩ := inductionHypothesis (step.joinPath_ne_nil directory) (by simp)
            fun other member => named other (List.mem_cons_of_mem _ member)
          rw [joinSteps] at start tail
          rw [joinSteps, List.foldl_cons, start, tail, step.startOf_joinPath filled,
            step.pathNames_joinPath filled, List.append_assoc, List.singleton_append]
          exact ⟨rfl, rfl⟩

/-- These are the names that a file system lists in its directories. -/
structure IsEntryName (name : PathName) : Prop where
  step : IsStepName name
  plain : IsLookupName name
  noNull : 0 ∉ name

theorem isEntryName_iff {name : PathName} :
    IsEntryName name ↔ IsStepName name ∧ IsLookupName name ∧ 0 ∉ name :=
  ⟨fun entry => ⟨entry.step, entry.plain, entry.noNull⟩,
    fun ⟨step, plain, noNull⟩ => ⟨step, plain, noNull⟩⟩

instance (name : PathName) : Decidable (IsEntryName name) :=
  decidable_of_iff _ isEntryName_iff.symm

theorem joinSteps_ne_nil {directory : PathName} (filled : directory ≠ []) {steps : List PathName}
    (named : ∀ step ∈ steps, IsStepName step) : joinSteps directory steps ≠ [] := by
  induction steps generalizing directory with
  | nil => exact filled
  | cons name rest inductionHypothesis =>
      have step := named name (by simp)
      exact inductionHypothesis (step.joinPath_ne_nil directory)
        fun other member => named other (List.mem_cons_of_mem _ member)

/-- The bytes of a path below a directory are those of the directory and the name, and slashes. -/
theorem IsStepName.mem_joinPath {name : PathName} (step : IsStepName name) {directory : PathName}
    {byte : UInt8} (member : byte ∈ joinPath directory name) :
    byte ∈ directory ∨ byte = slashByte ∨ byte ∈ name := by
  rw [step.joinPath_eq, pathStart, List.mem_append] at member
  obtain front | inside := member
  · split at front
    · exact absurd front List.not_mem_nil
    · split at front
      · exact Or.inl front
      · obtain front | slash := List.mem_append.mp front
        · exact Or.inl front
        · exact Or.inr (Or.inl (List.mem_singleton.mp slash))
  · exact Or.inr (Or.inr inside)

theorem noNull_joinSteps {directory : PathName} (noNull : 0 ∉ directory)
    {steps : List PathName} (named : ∀ step ∈ steps, IsEntryName step) :
    0 ∉ joinSteps directory steps := by
  induction steps generalizing directory with
  | nil => exact noNull
  | cons name rest inductionHypothesis =>
      have entry := named name (by simp)
      have here : 0 ∉ joinPath directory name := by
        intro member
        obtain front | slash | inside := entry.step.mem_joinPath member
        · exact noNull front
        · exact absurd slash (by decide)
        · exact entry.noNull inside
      exact inductionHypothesis here
        fun other member => named other (List.mem_cons_of_mem _ member)

/-- A path below a directory that can be used is followed from there. -/
theorem FileTree.exists_resolve_joinSteps {tree : FileTree} {directory : PathName}
    {folder : Folder Entry} (isDirectory : tree.entry directory = .ok (.directory folder))
    {steps : List PathName} (moves : steps ≠ []) (named : ∀ step ∈ steps, IsStepName step)
    (usable : IsUsablePath (joinSteps directory steps)) :
    ∃ place left, tree.top.at? place = some (.directory folder) ∧ ∀ followLast,
      tree.resolve followLast (joinSteps directory steps) =
        tree.top.follow followLast left place steps := by
  obtain ⟨usableToo, place, leads⟩ := FileTree.exists_leads_of_resolve isDirectory
  obtain ⟨left, goesOn⟩ := leads.resume (pathSteps_eq_or directory)
  obtain ⟨start, whole⟩ := tree.steps_joinSteps usableToo.filled moves named
  refine ⟨place, left, Entry.at?_of_follow leads.follow, ?_⟩
  intro followLast
  rw [FileTree.resolve_of_usable usable, start, whole, goesOn followLast steps moves]

section

variable {tree : FileTree} {directory : PathName} {folder : Folder Entry} {steps : List PathName}
  {target : Entry} (isDirectory : tree.entry directory = .ok (.directory folder))
  (moves : steps ≠ []) (named : ∀ step ∈ steps, IsEntryName step)
  (shown : (Entry.directory folder).at? steps = some target)

include isDirectory moves named

theorem FileTree.exists_follow_joinSteps (short : isOverlong (joinSteps directory steps) = false) :
    ∃ place left, tree.top.at? place = some (.directory folder) ∧
      tree.entry (joinSteps directory steps) =
        (tree.top.follow true left place steps).map Prod.snd := by
  have step (name : PathName) (member : name ∈ steps) : IsStepName name := (named name member).step
  have usable := (FileTree.exists_leads_of_resolve isDirectory).1
  have whole : IsUsablePath (joinSteps directory steps) :=
    ⟨noNull_joinSteps usable.noNull named, joinSteps_ne_nil usable.filled step, short⟩
  obtain ⟨place, left, here, goesOn⟩ :=
    FileTree.exists_resolve_joinSteps isDirectory moves step whole
  exact ⟨place, left, here, by rw [FileTree.entry, goesOn true]⟩

include shown

/-- A path that is not too long leads from a directory to the entry that lies at its steps, if the
directories on the way may be searched. -/
theorem FileTree.entry_joinSteps (searchable : (Entry.directory folder).Searchable steps)
    (noLink : ∀ linked, target ≠ .link linked)
    (short : isOverlong (joinSteps directory steps) = false) :
    tree.entry (joinSteps directory steps) = .ok target := by
  obtain ⟨place, left, here, follows⟩ :=
    FileTree.exists_follow_joinSteps isDirectory moves named short
  have plain (name : PathName) (member : name ∈ steps) := (named name member).plain
  rw [follows, Entry.follow_of_at? here plain shown searchable noLink true left]
  rfl

/-- A path below a directory is denied when a directory on the way may not be searched. -/
theorem FileTree.entry_joinSteps_of_barred
    (barred : ¬ (Entry.directory folder).Searchable steps)
    (short : isOverlong (joinSteps directory steps) = false) :
    tree.entry (joinSteps directory steps) = .error .denied := by
  obtain ⟨place, left, here, follows⟩ :=
    FileTree.exists_follow_joinSteps isDirectory moves named short
  have plain (name : PathName) (member : name ∈ steps) := (named name member).plain
  rw [follows, Entry.follow_of_barred here plain shown barred true left]
  rfl

end

theorem FileTree.isFile_of_entry {tree : FileTree} {path : PathName} {content : Bytes}
    (leads : tree.entry path = .ok (.file content)) : tree.isFile path = true := by
  rw [FileTree.isFile, leads]

theorem FileTree.exists_entry_of_isFile {tree : FileTree} {path : PathName}
    (isFile : tree.isFile path = true) : ∃ content, tree.entry path = .ok (.file content) := by
  rw [FileTree.isFile] at isFile
  split at isFile
  · rename_i content leads
    exact ⟨content, leads⟩
  · exact Bool.noConfusion isFile

theorem FileTree.read_of_entry {tree : FileTree} {path : PathName} {content : Bytes}
    (leads : tree.entry path = .ok (.file content)) : tree.read path = .ok content := by
  rw [FileTree.read, leads]

section

variable {tree : FileTree} {directory name : PathName} {folder : Folder Entry}
  (isDirectory : tree.entry directory = .ok (.directory folder))

include isDirectory

/-- A path that takes one more step from a directory is followed from there. -/
theorem FileTree.exists_resolve_joinPath (step : IsStepName name)
    (usable : IsUsablePath (joinPath directory name)) :
    ∃ place left, tree.top.at? place = some (.directory folder) ∧ ∀ followLast,
      tree.resolve followLast (joinPath directory name) =
        tree.top.follow followLast left place [name] :=
  FileTree.exists_resolve_joinSteps isDirectory (List.cons_ne_nil _ _)
    (List.forall_mem_singleton.mpr step) usable

/-- A name that a directory does not have leads to no file. -/
theorem FileTree.isFile_of_missing (entry : IsEntryName name)
    (missing : childNamed name folder = none) : tree.isFile (joinPath directory name) = false := by
  by_contra isFile
  obtain ⟨content, leads⟩ := FileTree.exists_entry_of_isFile (Bool.not_eq_false _ ▸ isFile)
  obtain ⟨usable, _⟩ := FileTree.exists_leads_of_resolve leads
  obtain ⟨place, left, here, goesOn⟩ :=
    FileTree.exists_resolve_joinPath isDirectory entry.step usable
  rw [FileTree.entry, goesOn true] at leads
  cases opened : folder.maySearch with
  | false =>
      rw [Entry.follow_denied here opened entry.plain.filled] at leads
      exact absurd leads (by simp [Except.map])
  | true =>
      rw [Entry.follow_missing here opened entry.plain missing] at leads
      exact absurd leads (by simp [Except.map])

/-- A name in a directory that may be searched names its entry there. -/
theorem FileTree.entryItself_joinPath (opened : folder.maySearch = true) (step : IsStepName name)
    (plain : IsLookupName name) (usable : IsUsablePath (joinPath directory name)) {child : Entry}
    (named : childNamed name folder = some child) :
    tree.entryItself (joinPath directory name) = .ok child := by
  obtain ⟨place, left, here, goesOn⟩ := FileTree.exists_resolve_joinPath isDirectory step usable
  rw [FileTree.entryItself, goesOn false]
  cases child with
  | link target =>
      rw [Entry.follow_linkItself here opened plain named]
      rfl
  | file | device | directory =>
      rw [Entry.follow_name here opened plain named (by simp),
        Entry.follow_nil (Entry.at?_child here named)]
      rfl

/-- A name that leads to a file from a directory is that of a file or of a link there. -/
theorem FileTree.file_or_link_of_isFile (opened : folder.maySearch = true) (step : IsStepName name)
    (plain : IsLookupName name) {content : Bytes}
    (leads : tree.entry (joinPath directory name) = .ok (.file content)) :
    childNamed name folder = some (.file content) ∨
      ∃ target, childNamed name folder = some (.link target) := by
  obtain ⟨usable, _⟩ := FileTree.exists_leads_of_resolve leads
  cases named : childNamed name folder with
  | none =>
      obtain ⟨place, left, here, goesOn⟩ := FileTree.exists_resolve_joinPath isDirectory step usable
      rw [FileTree.entry, goesOn true, Entry.follow_missing here opened plain named] at leads
      exact absurd leads (by simp [Except.map])
  | some child =>
      have own := FileTree.entryItself_joinPath isDirectory opened step plain usable named
      cases child with
      | link target => exact Or.inr ⟨target, rfl⟩
      | file | device | directory =>
          have same := (FileTree.entry_of_entryItself own (by simp)).symm.trans leads
          exact Or.inl (congrArg some (Except.ok.inj same))

end

/-- A name behind a directory makes the path longer. -/
theorem isOverlong_of_joinPath {directory name : PathName}
    (relative : isAbsolutePath name = false)
    (short : isOverlong (joinPath directory name) = false) : isOverlong directory = false := by
  have longer : directory.length ≤ (joinPath directory name).length := by
    rw [joinPath, relative, if_neg Bool.false_ne_true]
    split
    · rename_i empty
      simp [empty]
    · split
      · simp
      · simp
  simp only [isOverlong, decide_eq_false_iff_not] at short ⊢
  omega

/-- A path that leads somewhere by one more name leads without it to a directory that may be
searched, and there the name is looked up. -/
theorem FileTree.exists_directory_of_joinPath {tree : FileTree} {directory name : PathName}
    {target : Entry} (filled : directory ≠ []) (step : IsStepName name) (stays : name ≠ ".")
    (rises : name ≠ "..") (found : tree.entry (joinPath directory name) = .ok target) :
    IsLookupName name ∧ ∃ folder, folder.maySearch = true ∧
      tree.entry directory = .ok (.directory folder) := by
  obtain ⟨usable, place, leads⟩ := FileTree.exists_leads_of_resolve found
  rw [step.pathSteps_joinPath filled, step.startOf_joinPath filled] at leads
  obtain ⟨middle, folder, above⟩ := leads.exists_directory rfl
  obtain ⟨left, goesOn⟩ := above.resume (Or.inl rfl)
  have here := Entry.at?_of_follow above.follow
  have last := (goesOn true [name] (by simp)).symm.trans leads.follow
  obtain ⟨opened, plain⟩ := Entry.isLookupName_of_follow last here step.1 stays rises
  refine ⟨plain, folder, opened, ?_⟩
  have usableToo : IsUsablePath directory := by
    refine ⟨?_, filled, isOverlong_of_joinPath step.isAbsolutePath usable.short⟩
    intro member
    refine usable.noNull ?_
    rw [step.joinPath_eq, pathStart, if_neg filled]
    split <;> simp [member]
  have whole : tree.top.follow true linkLimit (tree.startOf directory) (pathSteps directory) =
      .ok (middle, .directory folder) := by
    obtain bare | ended := pathSteps_eq_or directory
    · rw [bare]
      exact above.follow
    · rw [ended, goesOn true [[]] (by simp), Entry.follow_turn here .empty, Entry.follow_nil here]
  rw [FileTree.entry, FileTree.resolve_of_usable usableToo, whole]
  rfl

/-- A lone slash leads to the top. -/
theorem FileTree.entry_slash {tree : FileTree} {folder : Folder Entry}
    (isDirectory : tree.top = .directory folder) :
    tree.entry "/" = .ok (.directory folder) := by
  have usable : IsUsablePath "/" := ⟨by decide, by decide, by decide⟩
  have steps : pathSteps "/" = [[]] := by decide
  have start : tree.startOf "/" = [] := if_pos (by decide)
  have here : tree.top.at? [] = some (.directory folder) := by rw [Entry.at?, isDirectory]
  rw [FileTree.entry, FileTree.resolve_of_usable usable, steps, start,
    Entry.follow_turn here .empty, Entry.follow_nil here]
  rfl

/-- From a lone slash the steps lead to the entry that lies there below the top. -/
theorem FileTree.entry_of_steps {tree : FileTree} {folder : Folder Entry}
    (isDirectory : tree.top = .directory folder) {path : PathName} (steps : List PathName)
    {target : Entry} (shown : tree.top.at? steps = some target)
    (searchable : tree.top.Searchable steps) (noLink : ∀ linked, target ≠ .link linked)
    (same : joinSteps "/" steps = path) (moves : steps ≠ [])
    (named : ∀ step ∈ steps, IsEntryName step) (short : isOverlong path = false) :
    tree.entry path = .ok target := by
  subst same
  rw [isDirectory] at shown searchable
  exact FileTree.entry_joinSteps (FileTree.entry_slash isDirectory) moves named shown searchable
    noLink short

/-- In a properly named tree all names are such as a file system lists. -/
def Entry.ProperlyNamed (entry : Entry) : Prop :=
  entry.AllNamed IsEntryName

end RoutineAtlas
