import RoutineAtlas.Proofs.Files.Listing
import RoutineAtlas.Proofs.Text.AsciiBytes

/-
This file settles what the paths of a scan for sources look like and where their files lie. Each
path ends with a source extension, and its file is listed by every scan that goes deep enough.
-/

namespace RoutineAtlas

/-- What stands behind the last separator goes on when a row without separators is added. -/
theorem splitPieces_append_of_notMem {A : Type} [DecidableEq A] {separator : A} (front : List A)
    {tail : List A} (absent : separator ∉ tail) :
    ∃ before last, splitPieces separator (front ++ tail) = before ++ [last ++ tail] := by
  induction front with
  | nil => exact ⟨[], [], by rw [List.nil_append, splitPieces_of_notMem absent]; rfl⟩
  | cons first rest inductionHypothesis =>
      obtain ⟨before, last, pieces⟩ := inductionHypothesis
      rw [List.cons_append, splitPieces_cons, pieces]
      split
      · exact ⟨[] :: before, last, rfl⟩
      · cases before with
        | nil => exact ⟨[], first :: last, rfl⟩
        | cons piece others => exact ⟨(first :: piece) :: others, last, rfl⟩

/-- The extension of a source is, in upper case, one of three. -/
theorem asciiUpper_of_isSourceExtension {extension : String}
    (isSource : isSourceExtension extension = true) :
    asciiUpper extension.toList ∈ [['P', 'R', 'W'], ['P', 'R', 'X'], ['P', 'R', 'G']] := by
  obtain ⟨known, member, agrees⟩ := List.any_eq_true.mp isSource
  rw [agreesIgnoringCase_iff] at agrees
  rw [← agrees]
  simp only [sourceExtensions, List.mem_cons, List.not_mem_nil, or_false] at member
  obtain rfl | rfl | rfl := member
  · decide
  · decide
  · decide

/-- A source extension has neither a dot nor a slash and is not empty. -/
theorem plain_of_isSourceExtension {extension : String}
    (isSource : isSourceExtension extension = true) :
    '.' ∉ extension.toList ∧ '/' ∉ extension.toList ∧ extension.toList ≠ [] := by
  have upper := asciiUpper_of_isSourceExtension isSource
  have letters : ∀ capitals ∈ [['P', 'R', 'W'], ['P', 'R', 'X'], ['P', 'R', 'G']],
      ∀ capital ∈ capitals, capital ∈ ['P', 'R', 'W', 'X', 'G'] := by simp
  have capital (character : Char) (member : character ∈ extension.toList) :
      character.toUpper ∈ ['P', 'R', 'W', 'X', 'G'] :=
    letters _ upper _ (List.mem_map_of_mem member)
  refine ⟨fun member => absurd (capital _ member) (by decide),
    fun member => absurd (capital _ member) (by decide), ?_⟩
  intro empty
  rw [empty] at upper
  exact absurd upper (by decide)

theorem dotByte_mem_utf8Bytes {text : String} : dotByte ∈ utf8Bytes text ↔ '.' ∈ text.toList :=
  mem_utf8Bytes_iff (by decide) (by decide)

theorem slashByte_mem_utf8Bytes {text : String} :
    slashByte ∈ utf8Bytes text ↔ '/' ∈ text.toList :=
  mem_utf8Bytes_iff (by decide) (by decide)

/-- The bytes of a source extension have no dot and no slash and are not empty. -/
theorem plainBytes_of_isSourceExtension {extension : String}
    (isSource : isSourceExtension extension = true) :
    dotByte ∉ utf8Bytes extension ∧ slashByte ∉ utf8Bytes extension ∧
      utf8Bytes extension ≠ [] := by
  obtain ⟨noDot, noSlash, filled⟩ := plain_of_isSourceExtension isSource
  refine ⟨?_, ?_, ?_⟩
  · rwa [dotByte_mem_utf8Bytes]
  · rwa [slashByte_mem_utf8Bytes]
  · rw [Ne, utf8Bytes_eq_nil_iff]
    rintro rfl
    exact filled rfl

/-- A path leads to a source when its file name ends with a dot and a source extension. -/
def IsSourcePath (path : PathName) : Prop :=
  ∃ fileName stem extension, pathFileName? path = some fileName ∧
    fileName = stem ++ dotByte :: utf8Bytes extension ∧ isSourceExtension extension = true

/-- A path that ends with a source extension is the path of a source. -/
theorem isSourcePath_of_append (front : PathName) {extension : String}
    (isSource : isSourceExtension extension = true) :
    IsSourcePath (front ++ dotByte :: utf8Bytes extension) := by
  obtain ⟨noDot, noSlash, filled⟩ := plainBytes_of_isSourceExtension isSource
  have absent : slashByte ∉ dotByte :: utf8Bytes extension := by
    rw [List.mem_cons, not_or]
    exact ⟨by decide, noSlash⟩
  obtain ⟨before, stem, pieces⟩ := splitPieces_append_of_notMem front absent
  have split := splitAtLast_append stem noDot
  -- None of these three names has anything behind its last dot.
  have apart (short : PathName) (none : (splitAtLast dotByte short).all (·.2 == []) = true) :
      stem ++ dotByte :: utf8Bytes extension ≠ short := by
    rintro rfl
    rw [split, Option.all_some, beq_iff_eq] at none
    exact filled none
  have last : (PathParts.of (front ++ dotByte :: utf8Bytes extension)).steps.getLast? =
      some (stem ++ dotByte :: utf8Bytes extension) := by
    have kept : [stem ++ dotByte :: utf8Bytes extension].filter
        (fun piece => piece != [] && piece != utf8Bytes ".") =
          [stem ++ dotByte :: utf8Bytes extension] := by
      simp [apart (utf8Bytes ".") (by decide)]
    rw [PathParts.of, pathPieces, pieces]
    simp only [List.filter_append, kept]
    split
    · rw [← List.cons_append, List.getLast?_concat]
    · rw [List.getLast?_concat]
  refine ⟨_, stem, extension, ?_, rfl, isSource⟩
  rw [pathFileName?, last]
  dsimp only
  rw [if_neg]
  rintro (same | same)
  · exact apart _ (by decide) same
  · exact apart _ (by decide) same

/-- A name below a directory ends the path. -/
theorem exists_joinPath_eq (directory name : PathName) :
    ∃ front, joinPath directory name = front ++ name := by
  rw [joinPath]
  split
  · exact ⟨[], rfl⟩
  · split
    · exact ⟨[], rfl⟩
    · split
      · exact ⟨directory, rfl⟩
      · exact ⟨directory ++ [slashByte], by simp⟩

/-- A plan for sources wants a name that ends with a source extension. -/
theorem ScanPlan.exists_of_wants_forSources {depth : Nat} {name : PathName}
    (wanted : (ScanPlan.forSources depth).wants (nameExtension? name) = true) :
    ∃ stem extension, name = stem ++ dotByte :: utf8Bytes extension ∧
      isSourceExtension extension = true := by
  obtain ⟨extension, found, known, isKnown, agrees⟩ := ScanPlan.wantsName_iff.mpr wanted
  rw [ScanPlan.extensions_forSources] at isKnown
  have isSource : isSourceExtension extension = true :=
    List.any_eq_true.mpr ⟨known, isKnown, agrees⟩
  rw [nameExtension?] at found
  split at found
  · rename_i stem own split
    split at found
    · exact absurd found (by simp)
    · obtain rfl := Option.some.inj found
      exact ⟨stem, extension, eq_of_splitAtLast split, isSource⟩
  · exact absurd found (by simp)

/-- The path leads to a file that lies at these steps below what the root leads to. -/
structure FileTree.HoldsFile (tree : FileTree) (root : PathName) (steps : List PathName)
    (path : PathName) : Prop where
  path : path = joinSteps root steps
  file : ∃ entry content, tree.entry root = .ok entry ∧ entry.at? steps = some (.file content)

/-- Nothing lies below a file. -/
theorem Entry.at?_file {content : Bytes} {steps : List PathName} {found : Entry}
    (shown : (Entry.file content).at? steps = some found) : steps = [] := by
  cases steps with
  | nil => rfl
  | cons step rest => simp [Entry.at?] at shown

/-- In a well-named tree a path leads to a file by its own steps only. -/
theorem FileTree.HoldsFile.unique {tree : FileTree} (named : tree.top.WellNamed)
    {root path : PathName} {first second : List PathName} (held : tree.HoldsFile root first path)
    (heldToo : tree.HoldsFile root second path) : first = second := by
  obtain ⟨same, entry, content, isRoot, shown⟩ := held
  obtain ⟨sameToo, other, _, isRootToo, shownToo⟩ := heldToo
  obtain rfl : entry = other := Except.ok.inj (isRoot.symm.trans isRootToo)
  have below : entry.AllNamed IsStepName := Entry.wellNamed_iff.mp (named.resolve isRoot)
  cases first with
  | nil =>
      obtain rfl : entry = .file content := by simpa [Entry.at?] using shown
      exact (Entry.at?_file shownToo).symm
  | cons step rest =>
      have moves : second ≠ [] := by
        rintro rfl
        obtain rfl := Option.some.inj (shownToo.symm.trans (by rw [Entry.at?])).symm
        exact absurd (Entry.at?_file shown) (by simp)
      exact joinSteps_injective (by simp) moves (below.of_at? shown) (below.of_at? shownToo)
        (same.symm.trans sameToo)

/-- A scan lists its root, when that is a wanted file, or files below it. -/
theorem ScanPlan.scan_files_cases {plan : ScanPlan} {tree : FileTree} {root path : PathName}
    (listed : path ∈ (plan.scan tree root).files) :
    (path = root ∧ plan.wants (pathExtension? root) = true ∧
        ∃ content, tree.entryItself root = .ok (.file content)) ∨
      ∃ folder, tree.entry root = .ok (.directory folder) := by
  rw [ScanPlan.scan] at listed
  split at listed
  · exact absurd listed List.not_mem_nil
  · rename_i content names
    obtain ⟨wanted, same⟩ := List.mem_ite_nil_right.mp listed
    exact Or.inl ⟨List.mem_singleton.mp same, wanted, content, names⟩
  · exact absurd listed List.not_mem_nil
  · rename_i folder names
    exact Or.inr ⟨folder, FileTree.entry_of_entryItself names (by simp)⟩
  · split at listed
    · exact absurd listed List.not_mem_nil
    · rename_i folder isRoot
      exact Or.inr ⟨folder, isRoot⟩
    · exact absurd listed List.not_mem_nil

/-- What a scan lists lies below its root, and every scan that goes as deep lists it too. -/
theorem ScanPlan.exists_holdsFile {plan : ScanPlan} {tree : FileTree} {root path : PathName}
    (listed : path ∈ (plan.scan tree root).files) :
    ∃ steps, tree.HoldsFile root steps path ∧
      ∀ depth, steps.length ≤ depth → path ∈ ({ plan with depth }.scan tree root).files := by
  obtain ⟨rfl, wanted, content, names⟩ | ⟨folder, isRoot⟩ := ScanPlan.scan_files_cases listed
  · have isRoot := FileTree.entry_of_entryItself names (by simp)
    refine ⟨[], ⟨rfl, _, content, isRoot, by rw [Entry.at?]⟩, ?_⟩
    intro depth _
    rw [ScanPlan.scan, names]
    exact List.mem_ite_nil_right.mpr ⟨wanted, List.mem_singleton_self _⟩
  · obtain ⟨steps, lists, rfl⟩ := (ScanPlan.mem_scan_files_iff isRoot).mp listed
    obtain ⟨content, found⟩ := lists.file
    refine ⟨steps, ⟨rfl, _, content, isRoot, found⟩, ?_⟩
    intro depth reach
    refine (ScanPlan.mem_scan_files_iff isRoot).mpr ⟨steps, ?_, rfl⟩
    exact { lists with within := reach }

/-- What a scan for sources lists is the path of a source. -/
theorem isSourcePath_of_mem_scan {depth : Nat} {tree : FileTree} {root path : PathName}
    (listed : path ∈ ((ScanPlan.forSources depth).scan tree root).files) : IsSourcePath path := by
  obtain ⟨rfl, wanted, _⟩ | ⟨folder, isRoot⟩ := ScanPlan.scan_files_cases listed
  · cases named : pathFileName? path with
    | none => simp [pathExtension?, named, ScanPlan.wants] at wanted
    | some fileName =>
        rw [pathExtension?, named, Option.bind_some] at wanted
        obtain ⟨stem, extension, text, isSource⟩ := ScanPlan.exists_of_wants_forSources wanted
        exact ⟨fileName, stem, extension, named, text, isSource⟩
  · obtain ⟨steps, lists, rfl⟩ := (ScanPlan.mem_scan_files_iff isRoot).mp listed
    obtain ⟨name, last, wanted⟩ := lists.wanted
    obtain ⟨directories, rfl⟩ := List.getLast?_eq_some_iff.mp last
    obtain ⟨stem, extension, text, isSource⟩ :=
      ScanPlan.exists_of_wants_forSources (ScanPlan.wantsName_iff.mp wanted)
    obtain ⟨front, whole⟩ := exists_joinPath_eq (joinSteps root directories) name
    have path : joinSteps root (directories ++ [name]) =
        joinPath (joinSteps root directories) name := by
      rw [joinSteps, List.foldl_append]
      rfl
    rw [path, whole, text, ← List.append_assoc]
    exact isSourcePath_of_append _ isSource

end RoutineAtlas
