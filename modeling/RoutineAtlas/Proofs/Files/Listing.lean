import RoutineAtlas.Proofs.Files.Following
import RoutineAtlas.Proofs.Files.Walk

/-
This file settles what the walk of a scan lists below a directory. A file is listed for its place
there, places are in order, and a deeper walk only adds places that lie deeper.
-/

namespace RoutineAtlas

/-- A scan of a directory, or of a link to one, lists what lies below it. -/
theorem ScanPlan.scan_of_directory (plan : ScanPlan) {tree : FileTree} {root : PathName}
    {folder : Folder Entry} (isRoot : tree.entry root = .ok (.directory folder)) :
    plan.scan tree root = plan.scanBelow root folder := by
  obtain directory | ⟨target, link⟩ := tree.entryItself_of_directory isRoot
  · rw [ScanPlan.scan, directory]
  · rw [ScanPlan.scan, link]
    dsimp only
    rw [isRoot]

/-- The name has an extension that is text and agrees with one of the plan. -/
def ScanPlan.WantsName (plan : ScanPlan) (name : PathName) : Prop :=
  ∃ extension, nameExtension? name = some (utf8Bytes extension) ∧
    ∃ known ∈ plan.extensions, agreesIgnoringCase known extension = true

theorem ScanPlan.wantsName_iff {plan : ScanPlan} {name : PathName} :
    plan.WantsName name ↔ plan.wants (nameExtension? name) = true := by
  simp only [ScanPlan.WantsName, ScanPlan.wants, holdsIgnoringCase, Option.any_eq_true,
    List.any_eq_true, bind_readUtf8_eq_some_iff]

/-- The extensions of sources are looked for as they are. -/
theorem ScanPlan.extensions_forSources (depth : Nat) :
    (ScanPlan.forSources depth).extensions = sourceExtensions := by
  dsimp only [ScanPlan.forSources, ScanPlan.ofExtensions]
  decide

/-- Every directory on the way along the steps, the last one included, may be listed. -/
def Entry.Listable (entry : Entry) (steps : List PathName) : Prop :=
  ∀ above folder, above <+: steps → entry.at? above = some (.directory folder) →
    folder.mayList = true

theorem Entry.listable_cons {folder : Folder Entry} {step : PathName} {rest : List PathName}
    {child : Entry} (named : childNamed step folder = some child) :
    (Entry.directory folder).Listable (step :: rest) ↔
      folder.mayList = true ∧ child.Listable rest := by
  have deeper (above : List PathName) :
      (Entry.directory folder).at? (step :: above) = child.at? above := by
    rw [Entry.at?, named, Option.bind_some]
  constructor
  · intro listable
    refine ⟨listable [] folder List.nil_prefix (by rw [Entry.at?]), ?_⟩
    intro above inside first shown
    exact listable (step :: above) inside (List.cons_prefix_cons.mpr ⟨rfl, first⟩)
      ((deeper above).trans shown)
  · rintro ⟨shownHere, listable⟩ above inside first shown
    cases above with
    | nil =>
        rw [Entry.at?] at shown
        exact Entry.directory.inj (Option.some.inj shown) ▸ shownHere
    | cons next others =>
        obtain ⟨rfl, tail⟩ := List.cons_prefix_cons.mp first
        exact listable others inside tail ((deeper others).symm.trans shown)

theorem Entry.listable_nil {folder : Folder Entry} :
    (Entry.directory folder).Listable [] ↔ folder.mayList = true := by
  constructor
  · intro listable
    exact listable [] folder List.nil_prefix (by rw [Entry.at?])
  · intro shown above inside first found
    rw [List.prefix_nil.mp first, Entry.at?] at found
    exact Entry.directory.inj (Option.some.inj found) ▸ shown

/-- These steps lead to a wanted file, they are not too many, and no ignored directory is on the
way. -/
structure ScanPlan.Seeks (plan : ScanPlan) (depth : Nat) (folder : Folder Entry)
    (steps : List PathName) : Prop where
  file : ∃ content, (Entry.directory folder).at? steps = some (.file content)
  within : steps.length ≤ depth
  wanted : ∃ name, steps.getLast? = some name ∧ plan.WantsName name
  noneIgnored : ∀ step ∈ steps.dropLast, isIgnoredDirectory step = false

/-- Of what it seeks a scan lists these places below its root. All directories on the way can be
entered and listed. -/
structure ScanPlan.Lists (plan : ScanPlan) (depth : Nat) (root : PathName)
    (folder : Folder Entry) (steps : List PathName) : Prop
    extends plan.Seeks depth folder steps where
  noneOverlong : ∀ above, above ≠ [] → above <+: steps.dropLast →
    isOverlong (joinSteps root above) = false
  listable : (Entry.directory folder).Listable steps.dropLast
  searchable : (Entry.directory folder).Searchable steps.dropLast

/-- A single step is sought when it names a wanted file. -/
theorem ScanPlan.seeks_singleton {plan : ScanPlan} {depth : Nat} {name : PathName}
    {folder : Folder Entry} :
    plan.Seeks (depth + 1) folder [name] ↔
      (∃ content, childNamed name folder = some (.file content)) ∧ plan.WantsName name := by
  have place : (Entry.directory folder).at? [name] = childNamed name folder := by
    cases found : childNamed name folder <;> simp [Entry.at?, found]
  constructor
  · intro sought
    obtain ⟨content, found⟩ := sought.file
    obtain ⟨last, same, wanted⟩ := sought.wanted
    obtain rfl : name = last := by simpa using same
    exact ⟨⟨content, place ▸ found⟩, wanted⟩
  · rintro ⟨⟨content, found⟩, wanted⟩
    exact {
      file := ⟨content, place.trans found⟩
      within := by simp
      wanted := ⟨name, rfl, wanted⟩
      noneIgnored := by simp }

/-- Several steps are sought when the first one names a directory below which the others are. -/
theorem ScanPlan.seeks_cons {plan : ScanPlan} {depth : Nat} {name : PathName}
    {folder : Folder Entry} {rest : List PathName} (goesOn : rest ≠ []) :
    plan.Seeks (depth + 1) folder (name :: rest) ↔
      ∃ below, childNamed name folder = some (.directory below) ∧
        isIgnoredDirectory name = false ∧ plan.Seeks depth below rest := by
  obtain ⟨next, others, rfl⟩ := List.exists_cons_of_ne_nil goesOn
  constructor
  · intro sought
    obtain ⟨content, found⟩ := sought.file
    rw [Entry.at?] at found
    obtain ⟨child, named, deeper⟩ := Option.bind_eq_some_iff.mp found
    cases child with
    | file | device | link => simp [Entry.at?] at deeper
    | directory below =>
        exact ⟨below, named, sought.noneIgnored name (by simp), {
          file := ⟨content, deeper⟩
          within := by simpa using sought.within
          wanted := by simpa using sought.wanted
          noneIgnored := fun step member => sought.noneIgnored step (by simp [member]) }⟩
  · rintro ⟨below, named, known, sought⟩
    obtain ⟨content, deeper⟩ := sought.file
    exact {
      file := ⟨content, by rw [Entry.at?, named]; exact deeper⟩
      within := by simpa using sought.within
      wanted := by simpa using sought.wanted
      noneIgnored := by
        intro step member
        rw [List.dropLast_cons_cons, List.mem_cons] at member
        obtain rfl | member := member
        · exact known
        · exact sought.noneIgnored step member }

theorem ScanPlan.Lists.ne_nil {plan : ScanPlan} {depth : Nat} {root : PathName}
    {folder : Folder Entry} {steps : List PathName}
    (listed : plan.Lists depth root folder steps) : steps ≠ [] := by
  rintro rfl
  obtain ⟨name, last, _⟩ := listed.wanted
  simp at last

/-- A single step is listed for a wanted file of that name. -/
theorem ScanPlan.lists_singleton {plan : ScanPlan} {depth : Nat} {root name : PathName}
    {folder : Folder Entry} :
    plan.Lists (depth + 1) root folder [name] ↔
      folder.mayList = true ∧ (∃ content, childNamed name folder = some (.file content)) ∧
        plan.WantsName name := by
  rw [← ScanPlan.seeks_singleton]
  constructor
  · intro listed
    exact ⟨Entry.listable_nil.mp listed.listable, listed.toSeeks⟩
  · rintro ⟨shown, sought⟩
    exact {
      toSeeks := sought
      noneOverlong := by simp +contextual
      listable := Entry.listable_nil.mpr shown
      searchable := Entry.searchable_nil _ }

/-- Nothing is in the way to a directory that has a usual name, a path that can be opened and a
folder around it that may be searched. -/
theorem isEntered_iff {path name : PathName} {folder : Folder Entry} :
    isEntered path folder name = true ↔ isIgnoredDirectory name = false ∧
      isOverlong (joinPath path name) = false ∧ folder.maySearch = true := by
  rw [isEntered, wayFault?]
  cases isOverlong (joinPath path name) <;> cases folder.maySearch <;> simp

/-- Several steps are listed when the first one enters a directory below which the others are. -/
theorem ScanPlan.lists_cons {plan : ScanPlan} {depth : Nat} {root name : PathName}
    {folder : Folder Entry} {rest : List PathName} (goesOn : rest ≠ []) :
    plan.Lists (depth + 1) root folder (name :: rest) ↔
      folder.mayList = true ∧ ∃ below, childNamed name folder = some (.directory below) ∧
        isEntered root folder name = true ∧
        plan.Lists depth (joinPath root name) below rest := by
  have front : (name :: rest).dropLast = name :: rest.dropLast :=
    List.dropLast_cons_of_ne_nil goesOn
  simp only [isEntered_iff]
  constructor
  · intro listed
    obtain ⟨below, named, known, sought⟩ := (ScanPlan.seeks_cons goesOn).mp listed.toSeeks
    obtain ⟨shown, listable⟩ := (Entry.listable_cons named).mp (front ▸ listed.listable)
    obtain ⟨opened, searchable⟩ := (Entry.searchable_cons named).mp (front ▸ listed.searchable)
    refine ⟨shown, below, named, ⟨known, ?_, opened⟩, ?_⟩
    · exact listed.noneOverlong [name] (by simp) (by simp [front])
    · exact {
        toSeeks := sought
        noneOverlong := fun above some first =>
          listed.noneOverlong (name :: above) (by simp) (by simpa [front] using first)
        listable := listable
        searchable := searchable }
  · rintro ⟨shown, below, named, ⟨known, short, opened⟩, listed⟩
    exact {
      toSeeks := (ScanPlan.seeks_cons goesOn).mpr ⟨below, named, known, listed.toSeeks⟩
      noneOverlong := by
        intro above some first
        obtain ⟨step, further, rfl⟩ := List.exists_cons_of_ne_nil some
        rw [front, List.cons_prefix_cons] at first
        obtain ⟨rfl, first⟩ := first
        by_cases ended : further = []
        · rw [ended]
          exact short
        · exact listed.noneOverlong further ended first
      listable := front ▸ (Entry.listable_cons named).mpr ⟨shown, listed.listable⟩
      searchable := front ▸ (Entry.searchable_cons named).mpr ⟨opened, listed.searchable⟩ }

/-- The walk takes exactly the listed steps. -/
theorem ScanPlan.mem_stepsBelow_iff {plan : ScanPlan} {depth : Nat} {root : PathName}
    {folder : Folder Entry} {steps : List PathName} :
    steps ∈ plan.stepsBelow depth root folder ↔ plan.Lists depth root folder steps := by
  induction steps generalizing depth root folder with
  | nil =>
      constructor
      · intro member
        exact absurd rfl (ScanPlan.ne_nil_of_mem_stepsBelow member)
      · intro listed
        obtain ⟨content, found⟩ := listed.file
        simp [Entry.at?] at found
  | cons name rest inductionHypothesis =>
      cases depth with
      | zero =>
          constructor
          · intro member
            exact absurd member List.not_mem_nil
          · intro listed
            exact absurd listed.within (by simp)
      | succ depth =>
          rw [ScanPlan.stepsBelow, List.mem_flatMap]
          simp only [Prod.exists, mem_listing, ScanPlan.mem_stepsOfChild]
          by_cases ended : rest = []
          · subst ended
            rw [ScanPlan.lists_singleton]
            constructor
            · rintro ⟨first, entry, ⟨shown, named⟩, ⟨content, rfl, wanted, same⟩ |
                ⟨below, others, rfl, _, deeper, same⟩⟩
              · obtain ⟨rfl, _⟩ := List.cons.inj same
                exact ⟨shown, ⟨content, named⟩, ScanPlan.wantsName_iff.mpr wanted⟩
              · have noSteps := (List.cons.inj same).2
                exact absurd noSteps.symm (ScanPlan.ne_nil_of_mem_stepsBelow deeper)
            · rintro ⟨shown, ⟨content, named⟩, wanted⟩
              exact ⟨name, _, ⟨shown, named⟩,
                Or.inl ⟨content, rfl, ScanPlan.wantsName_iff.mp wanted, rfl⟩⟩
          · rw [ScanPlan.lists_cons ended]
            constructor
            · rintro ⟨first, entry, ⟨shown, named⟩, ⟨content, rfl, wanted, same⟩ |
                ⟨below, others, rfl, entered, deeper, same⟩⟩
              · exact absurd (List.cons.inj same).2 ended
              · obtain ⟨rfl, rfl⟩ := List.cons.inj same
                exact ⟨shown, below, named, entered, inductionHypothesis.mp deeper⟩
            · rintro ⟨shown, below, named, entered, listed⟩
              exact ⟨name, _, ⟨shown, named⟩, Or.inr ⟨below, rest, rfl, entered,
                inductionHypothesis.mpr listed, rfl⟩⟩

/-- A scan of a directory lists the paths to the listed places. -/
theorem ScanPlan.mem_scan_files_iff {plan : ScanPlan} {tree : FileTree} {root : PathName}
    {folder : Folder Entry} (isRoot : tree.entry root = .ok (.directory folder))
    {path : PathName} :
    path ∈ (plan.scan tree root).files ↔
      ∃ steps, plan.Lists plan.depth root folder steps ∧ path = joinSteps root steps := by
  have files : (plan.scan tree root).files =
      (plan.stepsBelow plan.depth root folder).map (joinSteps root) := by
    rw [ScanPlan.scan_of_directory plan isRoot]
    exact plan.walk_eq_map plan.depth root folder
  rw [files, List.mem_map]
  simp only [ScanPlan.mem_stepsBelow_iff, eq_comm]

/-- In a well-named tree a path of steps is listed for these steps only. -/
theorem ScanPlan.lists_of_mem_scan {plan : ScanPlan} {tree : FileTree}
    (proper : tree.top.WellNamed) {root : PathName} {folder : Folder Entry}
    (isRoot : tree.entry root = .ok (.directory folder)) {steps : List PathName}
    (moves : steps ≠ []) (named : ∀ step ∈ steps, IsStepName step)
    (listed : joinSteps root steps ∈ (plan.scan tree root).files) :
    plan.Lists plan.depth root folder steps := by
  obtain ⟨others, lists, same⟩ := (ScanPlan.mem_scan_files_iff isRoot).mp listed
  obtain ⟨content, found⟩ := lists.file
  have namedToo := (Entry.wellNamed_iff.mp (proper.resolve isRoot)).of_at? found
  obtain rfl := joinSteps_injective moves lists.ne_nil named namedToo same
  exact lists

/-- One place comes before another when, at the step where they part, its name has the smaller
bytes. -/
def ComesBefore (first second : List PathName) : Prop :=
  ∃ shared low high restLow restHigh, first = shared ++ low :: restLow ∧
    second = shared ++ high :: restHigh ∧ low < high

theorem ComesBefore.cons {first second : List PathName} (before : ComesBefore first second)
    (step : PathName) : ComesBefore (step :: first) (step :: second) := by
  obtain ⟨shared, low, high, restLow, restHigh, rfl, rfl, less⟩ := before
  exact ⟨step :: shared, low, high, restLow, restHigh, rfl, rfl, less⟩

/-- The steps to the files of one child are in order when those below it are. -/
theorem ScanPlan.pairwise_stepsOfChild {plan : ScanPlan} {path : PathName}
    {folder : Folder Entry} {below : PathName → Folder Entry → List (List PathName)}
    (ordered : ∀ path folder, (below path folder).Pairwise ComesBefore)
    (child : PathName × Entry) :
    (plan.stepsOfChild path folder below child).Pairwise ComesBefore := by
  obtain ⟨name, entry⟩ := child
  cases entry with
  | file content =>
      rw [ScanPlan.stepsOfChild]
      split
      · exact List.pairwise_singleton _ _
      · exact .nil
  | device => exact .nil
  | link target => exact .nil
  | directory inside =>
      rw [ScanPlan.stepsOfChild]
      split
      · rw [List.pairwise_map]
        exact (ordered (joinPath path name) inside).imp fun before => before.cons name
      · exact .nil

/-- The walk comes to the places in order. -/
theorem ScanPlan.pairwise_stepsBelow (plan : ScanPlan) (depth : Nat) (path : PathName)
    (folder : Folder Entry) : (plan.stepsBelow depth path folder).Pairwise ComesBefore := by
  induction depth generalizing path folder with
  | zero => exact .nil
  | succ depth inductionHypothesis =>
      rw [ScanPlan.stepsBelow, List.pairwise_flatMap]
      refine ⟨fun child _ => ScanPlan.pairwise_stepsOfChild inductionHypothesis child, ?_⟩
      apply (listing_pairwise folder).imp
      intro low high before first firstMember second secondMember
      have firstHead := ScanPlan.head?_of_mem_stepsOfChild firstMember
      have secondHead := ScanPlan.head?_of_mem_stepsOfChild secondMember
      obtain ⟨restLow, rfl⟩ := List.head?_eq_some_iff.mp firstHead
      obtain ⟨restHigh, rfl⟩ := List.head?_eq_some_iff.mp secondHead
      exact ⟨[], low.1, high.1, restLow, restHigh, rfl, rfl, before⟩

/-- The steps of a walk depend on the extensions of the plan only. -/
theorem ScanPlan.stepsBelow_congr {plan other : ScanPlan}
    (same : plan.extensions = other.extensions) (depth : Nat) (path : PathName)
    (folder : Folder Entry) :
    plan.stepsBelow depth path folder = other.stepsBelow depth path folder := by
  induction depth generalizing path folder with
  | zero => rfl
  | succ depth inductionHypothesis =>
      rw [ScanPlan.stepsBelow, ScanPlan.stepsBelow]
      congr 1
      funext child
      obtain ⟨name, entry⟩ := child
      cases entry with
      | file content => simp only [ScanPlan.stepsOfChild, ScanPlan.wants_congr same]
      | device => rfl
      | link target => rfl
      | directory below => simp only [ScanPlan.stepsOfChild, inductionHypothesis]

/-- A walk takes those steps of a deeper walk that are no more than its depth. -/
theorem ScanPlan.stepsBelow_eq_filter (plan : ScanPlan) {shallow deep : Nat}
    (reach : shallow ≤ deep) (path : PathName) (folder : Folder Entry) :
    plan.stepsBelow shallow path folder =
      (plan.stepsBelow deep path folder).filter fun steps => steps.length ≤ shallow := by
  induction shallow generalizing deep path folder with
  | zero =>
      symm
      rw [ScanPlan.stepsBelow, List.filter_eq_nil_iff]
      intro steps member
      simpa using ScanPlan.ne_nil_of_mem_stepsBelow member
  | succ shallow inductionHypothesis =>
      obtain ⟨deep, rfl⟩ : ∃ below, deep = below + 1 := ⟨deep - 1, by omega⟩
      rw [ScanPlan.stepsBelow, ScanPlan.stepsBelow, List.filter_flatMap]
      congr 1
      funext child
      obtain ⟨name, entry⟩ := child
      cases entry with
      | file content =>
          dsimp only [ScanPlan.stepsOfChild, Function.comp_apply]
          split <;> simp
      | device => rfl
      | link target => rfl
      | directory below =>
          dsimp only [ScanPlan.stepsOfChild, Function.comp_apply]
          split
          · rw [inductionHypothesis (Nat.le_of_succ_le_succ reach), List.filter_map]
            simp [Function.comp_def]
          · rfl

end RoutineAtlas
