import RoutineAtlas.Proofs.Lookup.Confinement

/-
This file compares the two ways to find a source at the root itself. The probe follows links and
needs no list of the names, the walk needs one and follows no links, and on everything else that has
a source extension the two agree.
-/

namespace RoutineAtlas

/-- A name with a source extension is wanted by every search for sources. -/
theorem ScanPlan.wantsName_of_isSource {name : PathName} {extension : String}
    (ended : nameExtension? name = some (utf8Bytes extension))
    (isSource : isSourceExtension extension = true) (depth : Nat) :
    (ScanPlan.forSources depth).WantsName name := by
  obtain ⟨known, isKnown, agrees⟩ := List.any_eq_true.mp isSource
  rw [← ScanPlan.extensions_forSources depth] at isKnown
  exact ⟨extension, ended, known, isKnown, agrees⟩

/-- A source at the root itself is listed by every scan that goes down at all, if the root may be
listed. -/
theorem ScanPlan.mem_scan_of_child {plan : ScanPlan} {tree : FileTree} {root name : PathName}
    {folder : Folder Entry} (isRoot : tree.entry root = .ok (.directory folder))
    (shown : folder.mayList = true) {content : Bytes}
    (named : childNamed name folder = some (.file content)) (wanted : plan.WantsName name)
    (deep : 1 ≤ plan.depth) : joinPath root name ∈ (plan.scan tree root).files := by
  obtain ⟨below, same⟩ : ∃ below, plan.depth = below + 1 := ⟨plan.depth - 1, by omega⟩
  refine (ScanPlan.mem_scan_files_iff isRoot).mpr ⟨[name], ?_, rfl⟩
  rw [same]
  exact ScanPlan.lists_singleton.mpr ⟨shown, ⟨content, named⟩, wanted⟩

/-- A scan from a directory that may not be listed only reports that directory. -/
theorem ScanPlan.scan_of_unlistable {plan : ScanPlan} {tree : FileTree} {root : PathName}
    {folder : Folder Entry} (isRoot : tree.entry root = .ok (.directory folder))
    (closed : folder.mayList = false) (deep : 1 ≤ plan.depth) :
    plan.scan tree root = .skippedRoot root .denied := by
  obtain ⟨below, same⟩ : ∃ below, plan.depth = below + 1 := ⟨plan.depth - 1, by omega⟩
  rw [ScanPlan.scan_of_directory plan isRoot, ScanPlan.scanBelow, same, ScanPlan.walk, listing,
    refusedDirectories, closed]
  rfl

/-- In a well-named tree what is listed at the root itself is a file there. -/
theorem ScanPlan.childNamed_of_mem_scan {plan : ScanPlan} {tree : FileTree} {root name : PathName}
    {folder : Folder Entry} (isRoot : tree.entry root = .ok (.directory folder))
    (proper : tree.top.WellNamed) (step : IsStepName name)
    (listed : joinPath root name ∈ (plan.scan tree root).files) :
    ∃ content, childNamed name folder = some (.file content) := by
  have lists : plan.Lists plan.depth root folder [name] :=
    ScanPlan.lists_of_mem_scan proper isRoot (by simp) (by simpa using step) listed
  obtain ⟨content, place⟩ := lists.file
  rw [Entry.at?] at place
  obtain ⟨child, named, own⟩ := Option.bind_eq_some_iff.mp place
  rw [Entry.at?] at own
  exact ⟨content, named.trans own⟩

/-- A source that is found at the root itself is listed by every scan from there, unless its file
name is that of a link, which is not listed, or the root may not be listed, which is reported. -/
theorem probed_source_listed {typed : String} {name : RoutineName}
    (accepted : RoutineName.parse typed = .ok name) {tree : FileTree} {root : PathName}
    (filled : root ≠ []) {depth : Nat} (deep : 1 ≤ depth) {path : PathName} {scanned : Nat}
    (found : lookUpRoutine tree depth root name = .found path .directProbe scanned)
    {extension : String} (ended : pathExtension? path = some (utf8Bytes extension))
    (isSource : isSourceExtension extension = true) :
    let scan := (ScanPlan.forSources depth).scan tree root
    ∃ folder, tree.entry root = .ok (.directory folder) ∧
      (folder.mayList = true → (∀ target, tree.entryItself path ≠ .ok (.link target)) →
        path ∈ scan.files) ∧
      (folder.mayList = false → scan = .skippedRoot root .denied) ∧
      (tree.top.WellNamed → path ∈ scan.files →
        ∀ target, tree.entryItself path ≠ .ok (.link target)) := by
  intro scan
  obtain ⟨_, spelling, ⟨before, after, split, names, _⟩, rfl⟩ :=
    lookUpRoutine_directProbe_iff.mp found
  have listed : spelling ∈ name.spellings := by
    rw [split]
    simp
  have inside := (RoutineName.isBare_of_parse accepted).spellings listed
  have step := inside.isStepName
  have stays : utf8Bytes spelling ≠ utf8Bytes "." :=
    mt utf8Bytes_injective (ne_here_of_namesFile filled names)
  have rises : utf8Bytes spelling ≠ utf8Bytes ".." := mt utf8Bytes_injective inside.notAbove
  obtain ⟨content, leads⟩ := FileTree.exists_entry_of_isFile names
  obtain ⟨plain, folder, opened, isRoot⟩ :=
    FileTree.exists_directory_of_joinPath filled step stays rises leads
  obtain ⟨usable, _⟩ := FileTree.exists_leads_of_resolve leads
  obtain ⟨fileName, _⟩ :=
    fileName_and_parent_of_parts (step.parts_joinPath filled stays) stays rises
  have wanted : (ScanPlan.forSources depth).WantsName spelling := by
    rw [pathExtension?, fileName, Option.bind_some] at ended
    exact ScanPlan.wantsName_of_isSource ended isSource depth
  have own {child : Entry} (named : childNamed spelling folder = some child) :
      tree.entryItself (joinPath root spelling) = .ok child :=
    FileTree.entryItself_joinPath isRoot opened step plain usable named
  refine ⟨folder, isRoot, ?_, ?_, ?_⟩
  · intro shown noLink
    obtain file | ⟨target, link⟩ := FileTree.file_or_link_of_isFile isRoot opened step plain leads
    · exact ScanPlan.mem_scan_of_child isRoot shown file wanted deep
    · exact absurd (own link) (noLink target)
  · intro closed
    exact ScanPlan.scan_of_unlistable isRoot closed deep
  · intro proper walked target link
    obtain ⟨_, file⟩ := ScanPlan.childNamed_of_mem_scan isRoot proper step walked
    rw [own file] at link
    exact Entry.noConfusion (Except.ok.inj link)

/-- One source in this folder is a link to a file of another kind, and one is a file. -/
def linkedFolder : Folder Entry where
  entries := [("X.prw", .link "Y.txt"), ("Y.txt", .file []), ("Z.prw", .file [])]

/-- The folder is the top of a tree. -/
def linkedSource : FileTree where
  top := .directory linkedFolder
  workingDirectory := "/"

theorem entry_linkedSource : linkedSource.entry "/" = .ok linkedSource.top :=
  FileTree.entry_slash rfl

theorem wellNamed_linkedSource : linkedSource.top.WellNamed :=
  Entry.wellNamed_flat (by decide) (by decide)

theorem entry_link_linkedSource : linkedSource.entry "/X.prw" = .ok (.file []) := by
  have usable : IsUsablePath "/X.prw" := ⟨by decide, by decide, by decide⟩
  have steps : pathSteps "/X.prw" = [utf8Bytes "X.prw"] := by decide
  have start : linkedSource.startOf "/X.prw" = [] := if_pos (by decide)
  have here : linkedSource.top.at? [] = some linkedSource.top := by rw [Entry.at?]
  have source : IsLookupName "X.prw" := by decide
  have text : IsLookupName "Y.txt" := by decide
  have linked : linkedSource.top.follow true linkLimit [] [utf8Bytes "X.prw"] =
      linkedSource.top.follow true 39 [] [utf8Bytes "Y.txt"] :=
    Entry.follow_link here rfl source rfl rfl 39
  rw [FileTree.entry, FileTree.resolve_of_usable usable, steps, start, linked,
    Entry.follow_name here rfl text rfl (by simp), Entry.follow_nil (Entry.at?_child here rfl)]
  rfl

/-- Nobody may ask for the names in this folder. -/
def shutFolder : Folder Entry where
  entries := [("Z.prw", .file [])]
  mayList := false

/-- The folder is the top of a tree. -/
def shutRoot : FileTree where
  top := .directory shutFolder
  workingDirectory := "/"

theorem wellNamed_shutRoot : shutRoot.top.WellNamed :=
  Entry.wellNamed_flat (by decide) (by decide)

/-- The probe finds the second spelling of a name when the first names nothing. -/
theorem lookUpRoutine_second {tree : FileTree} {folder : Folder Entry}
    (top : tree.top = .directory folder) {name : RoutineName} {fileName : String}
    {path : PathName} (split : name.spellings = name.base :: fileName :: name.spellings.drop 2)
    (entry : IsEntryName name.base) (missing : childNamed name.base folder = none)
    (below : joinPath "/" fileName = path) (leads : tree.entry path = .ok (.file [])) :
    lookUpRoutine tree 1 "/" name = .found path .directProbe 0 := by
  subst below
  refine lookUpRoutine_directProbe_iff.mpr ⟨rfl, fileName, ?_, rfl⟩
  refine ⟨[name.base], name.spellings.drop 2, split, FileTree.isFile_of_entry leads, ?_⟩
  intro other member names
  obtain rfl := List.mem_singleton.mp member
  rw [NamesFile, FileTree.isFile_of_missing (FileTree.entry_slash top) entry missing] at names
  exact Bool.noConfusion names

/-- The source that is a file is found in a tree with it at its top. -/
theorem lookUpRoutine_lastSource {tree : FileTree} {folder : Folder Entry}
    (top : tree.top = .directory folder) (opened : folder.maySearch = true)
    (named : childNamed "Z.prw" folder = some (.file [])) (alone : childNamed "Z" folder = none) :
    lookUpRoutine tree 1 "/" { typed := "Z", base := "Z" } =
      .found "/Z.prw" .directProbe 0 := by
  have here : tree.top.at? [utf8Bytes "Z.prw"] = some (.file []) := by
    rw [top, Entry.at?, named, Option.bind_some, Entry.at?]
  have leads : tree.entry "/Z.prw" = .ok (.file []) :=
    FileTree.entry_of_steps top ["Z.prw"] here (top ▸ Entry.searchable_singleton opened _)
      (by simp) (by decide) (by simp) (by decide) (by decide)
  exact @lookUpRoutine_second tree folder top _ "Z.prw" _ (by decide) (by decide) alone (by decide)
    leads

/-- The walk lists the source that is a file. -/
theorem probed_source_listed_beside_link :
    let zed : RoutineName := { typed := "Z", base := "Z" }
    RoutineName.parse "Z" = .ok zed ∧ utf8Bytes "/" ≠ [] ∧ 1 ≤ 1 ∧
      lookUpRoutine linkedSource 1 "/" zed = .found "/Z.prw" .directProbe 0 ∧
      pathExtension? "/Z.prw" = some (utf8Bytes "prw") ∧ isSourceExtension "prw" = true ∧
      utf8Bytes "/Z.prw" ∈ ((ScanPlan.forSources 1).scan linkedSource "/").files := by
  intro zed
  have accepted : RoutineName.parse "Z" = .ok zed := by decide
  have ended : pathExtension? "/Z.prw" = some (utf8Bytes "prw") := by decide
  have isSource : isSourceExtension "prw" = true := by decide
  have found : lookUpRoutine linkedSource 1 "/" zed = .found "/Z.prw" .directProbe 0 :=
    lookUpRoutine_lastSource rfl rfl rfl (by decide)
  have own : linkedSource.entryItself "/Z.prw" = .ok (.file []) :=
    @FileTree.entryItself_joinPath linkedSource "/" "Z.prw" _ entry_linkedSource rfl (by decide)
      (by decide) ⟨by decide, by decide, by decide⟩ _ rfl
  refine ⟨accepted, by decide, Nat.le_refl 1, found, ended, isSource, ?_⟩
  obtain ⟨folder, isRoot, listed, _, _⟩ :=
    probed_source_listed accepted (by decide) (Nat.le_refl 1) found ended isSource
  have shown : folder.mayList = true := by
    obtain rfl := Entry.directory.inj (Except.ok.inj (isRoot.symm.trans entry_linkedSource))
    rfl
  refine listed shown ?_
  intro target link
  rw [own] at link
  exact Entry.noConfusion (Except.ok.inj link)

/-- A link with the name of a source is found at the root itself, and so is a source in a root that
may not be listed. No walk lists them. -/
theorem probed_sources_not_listed :
    let ex : RoutineName := { typed := "X", base := "X" }
    let zed : RoutineName := { typed := "Z", base := "Z" }
    let plan := ScanPlan.forSources 1
    (RoutineName.parse "X" = .ok ex ∧ linkedSource.top.WellNamed ∧
      linkedSource.entry "/" = .ok (.directory linkedFolder) ∧
      lookUpRoutine linkedSource 1 "/" ex = .found "/X.prw" .directProbe 0 ∧
      pathExtension? "/X.prw" = some (utf8Bytes "prw") ∧ isSourceExtension "prw" = true ∧
      utf8Bytes "/X.prw" ∉ (plan.scan linkedSource "/").files) ∧
    RoutineName.parse "Z" = .ok zed ∧ shutRoot.top.WellNamed ∧
      shutRoot.entry "/" = .ok (.directory shutFolder) ∧
      lookUpRoutine shutRoot 1 "/" zed = .found "/Z.prw" .directProbe 0 ∧
      pathExtension? "/Z.prw" = some (utf8Bytes "prw") ∧ isSourceExtension "prw" = true ∧
      utf8Bytes "/Z.prw" ∉ (plan.scan shutRoot "/").files := by
  intro ex zed plan
  have linked : lookUpRoutine linkedSource 1 "/" ex = .found "/X.prw" .directProbe 0 :=
    @lookUpRoutine_second _ linkedFolder rfl _ "X.prw" _ (by decide) (by decide) rfl (by decide)
      entry_link_linkedSource
  have shut : lookUpRoutine shutRoot 1 "/" zed = .found "/Z.prw" .directProbe 0 :=
    lookUpRoutine_lastSource rfl rfl rfl (by decide)
  refine ⟨⟨by decide, wellNamed_linkedSource, entry_linkedSource, linked, by decide, by decide, ?_⟩,
    by decide, wellNamed_shutRoot, FileTree.entry_slash rfl, shut, by decide, by decide, ?_⟩
  · intro listed
    have step : IsStepName "X.prw" := by decide
    obtain ⟨content, file⟩ := ScanPlan.childNamed_of_mem_scan entry_linkedSource
      wellNamed_linkedSource step listed
    have link : childNamed "X.prw" linkedFolder = some (.link "Y.txt") := rfl
    exact Entry.noConfusion (Option.some.inj (link.symm.trans file))
  · intro listed
    have reported : plan.scan shutRoot "/" = .skippedRoot "/" .denied :=
      ScanPlan.scan_of_unlistable (FileTree.entry_slash rfl) rfl (Nat.le_refl 1)
    rw [reported] at listed
    exact List.not_mem_nil listed

end RoutineAtlas
