import RoutineAtlas.Proofs.Origin.Lesson

/-
This file compares a classifier that has forgotten its decisions with a new one. As long as the
standard tree holds what the lesson showed, no call tells them apart.
-/

namespace RoutineAtlas

/-- Trees look alike to a classifier when the same sources are listed below the standard root and
their heads read the same. Nothing is asked of the other files. -/
structure Classifier.SeesAlike (classifier : Classifier) (tree other : FileTree) : Prop where
  files : ∀ root ∈ classifier.standardRoot,
    ((ScanPlan.forSources classifier.discoveryDepth).scan tree root).files =
      ((ScanPlan.forSources classifier.discoveryDepth).scan other root).files
  heads : ∀ root ∈ classifier.standardRoot,
    ∀ path ∈ ((ScanPlan.forSources classifier.discoveryDepth).scan tree root).files,
      inspectedHead tree path = inspectedHead other path

/-- A visit reads nothing but the head of its source. -/
theorem LeadSearch.visit_congr {tree other : FileTree} {path : PathName}
    (same : inspectedHead tree path = inspectedHead other path) (search : LeadSearch) :
    search.visit tree path = search.visit other path := by
  have verdict : readsAsStandard tree path = readsAsStandard other path := by
    rw [readsAsStandard, readsAsStandard, same]
  rw [LeadSearch.visit, LeadSearch.visit, verdict]

/-- The same is learned from trees that look alike. -/
theorem Classifier.SeesAlike.learnLeads {classifier : Classifier} {tree other : FileTree}
    (alike : classifier.SeesAlike tree other) :
    classifier.learnLeads tree = classifier.learnLeads other := by
  rw [Classifier.learnLeads, Classifier.learnLeads]
  cases standardRoot : classifier.standardRoot with
  | none => rfl
  | some root =>
      dsimp only
      rw [← alike.files root standardRoot, LeadSearch.over, LeadSearch.over]
      apply List.foldl_ext
      intro search path listed
      exact LeadSearch.visit_congr (alike.heads root standardRoot path listed) search

/-- Below a properly named directory a file reads the same in every tree that has the directory in
this place. -/
theorem FileTree.read_joinSteps_congr {tree other : FileTree} {root : PathName}
    {folder : Folder Entry} (isRoot : tree.entry root = .ok (.directory folder))
    (isRootToo : other.entry root = .ok (.directory folder))
    (proper : (Entry.directory folder).ProperlyNamed) {steps : List PathName} (moves : steps ≠ [])
    {content : Bytes} (place : (Entry.directory folder).at? steps = some (.file content)) :
    tree.read (joinSteps root steps) = other.read (joinSteps root steps) := by
  have names : ∀ step ∈ steps, IsEntryName step := Entry.AllNamed.of_at? proper place
  cases long : isOverlong (joinSteps root steps) with
  | true => simp [FileTree.read, FileTree.entry, FileTree.resolve, long]
  | false =>
      by_cases searchable : (Entry.directory folder).Searchable steps
      · have here := FileTree.entry_joinSteps isRoot moves names place searchable (by simp) long
        have there := FileTree.entry_joinSteps isRootToo moves names place searchable (by simp) long
        rw [FileTree.read_of_entry here, FileTree.read_of_entry there]
      · have here := FileTree.entry_joinSteps_of_barred isRoot moves names place searchable long
        have there := FileTree.entry_joinSteps_of_barred isRootToo moves names place searchable long
        rw [FileTree.read, FileTree.read, here, there]

/-- Trees look alike when they have the same properly named directory as the standard root. -/
theorem Classifier.SeesAlike.of_directory {classifier : Classifier} {root : PathName}
    (standardRoot : classifier.standardRoot = some root) {tree other : FileTree}
    {folder : Folder Entry} (isRoot : tree.entry root = .ok (.directory folder))
    (isRootToo : other.entry root = .ok (.directory folder))
    (proper : (Entry.directory folder).ProperlyNamed) : classifier.SeesAlike tree other where
  files := by
    intro place given
    obtain rfl : root = place := Option.some.inj (standardRoot.symm.trans given)
    rw [ScanPlan.scan_of_directory _ isRoot, ScanPlan.scan_of_directory _ isRootToo]
  heads := by
    intro place given path listed
    obtain rfl : root = place := Option.some.inj (standardRoot.symm.trans given)
    obtain ⟨steps, lists, rfl⟩ := (ScanPlan.mem_scan_files_iff isRoot).mp listed
    obtain ⟨content, shown⟩ := lists.file
    have read := FileTree.read_joinSteps_congr isRoot isRootToo proper lists.ne_nil shown
    rw [inspectedHead, inspectedHead, FileTree.readHead, FileTree.readHead, read]

/-- Two classifiers keep step on what is still to come when they remember the same, and when one
has learned the leads that the other has learned or would learn from any tree to come. -/
structure Classifier.KeepsStep (learned other : Classifier) (future : List Moment) : Prop where
  closed : learned.state = .completed
  cache : learned.cache = other.cache
  leads : ∀ moment ∈ future, other.leads moment.tree = learned.discovered

theorem Classifier.KeepsStep.tail {learned other : Classifier} {moment : Moment}
    {rest : List Moment} (step : learned.KeepsStep other (moment :: rest)) :
    learned.KeepsStep other rest :=
  ⟨step.closed, step.cache, fun next member => step.leads next (List.mem_cons_of_mem _ member)⟩

/-- Classifiers that keep step decide alike, and then they still keep step. -/
theorem Classifier.KeepsStep.classify {learned other : Classifier} {moment : Moment}
    {rest : List Moment} (step : learned.KeepsStep other (moment :: rest)) (name : RoutineName)
    (file : Option PathName) :
    (learned.classify moment.tree name file).1 = (other.classify moment.tree name file).1 ∧
      (learned.classify moment.tree name file).2.KeepsStep
        (other.classify moment.tree name file).2 rest := by
  obtain ⟨marked, answer⟩ | ⟨unmarked, origin, decided, answer⟩ |
      ⟨unmarked, undecided, answer⟩ := learned.classify_cases moment.tree name file
  · rw [answer, Classifier.classify_of_isMarked marked]
    exact ⟨rfl, step.tail⟩
  · rw [answer, Classifier.classify_of_decided unmarked (step.cache ▸ decided)]
    exact ⟨rfl, step.tail⟩
  · -- Only here may the other one have to learn the leads first.
    have ready : (other.discover moment.tree).2.discovered = learned.discovered :=
      step.leads moment (by simp)
    rw [answer, Classifier.classify_of_undecided unmarked (step.cache ▸ undecided),
      Classifier.discover_of_completed step.closed]
    dsimp only
    rw [ready]
    refine ⟨rfl, ?_, ?_, ?_⟩
    · simp [step.closed]
    · simp [step.cache]
    · intro next _
      rw [Classifier.leads_of_completed (by simp)]
      simpa using ready

/-- Classifiers that keep step reply alike to every call but the one to learn the leads. -/
theorem Classifier.KeepsStep.serve {learned other : Classifier} {moment : Moment}
    {rest : List Moment} (step : learned.KeepsStep other (moment :: rest))
    (asks : moment.call ≠ .discover) :
    (learned.serve moment.tree moment.call).1 = (other.serve moment.tree moment.call).1 ∧
      (learned.serve moment.tree moment.call).2.KeepsStep
        (other.serve moment.tree moment.call).2 rest := by
  cases subject : moment.call.subject? with
  | some asked =>
      obtain ⟨name, file⟩ := asked
      obtain ⟨answer, still⟩ := step.classify name file
      rw [Classifier.serve_of_subject subject, Classifier.serve_of_subject subject, answer]
      exact ⟨rfl, still⟩
  | none =>
      cases call : moment.call with
      | classify name file => simp [call, ClassifierCall.subject?] at subject
      | classifyName typed =>
          cases read : RoutineName.parse typed with
          | ok name => simp [call, ClassifierCall.subject?, read, Except.toOption] at subject
          | error fault =>
              simp only [Classifier.serve, Classifier.classifyName, read, true_and]
              exact step.tail
      | discover => exact absurd call asks
      | clearCache =>
          refine ⟨rfl, step.closed, rfl, ?_⟩
          intro next member
          exact (other.leads_clearCache next.tree).trans (step.tail.leads next member)

/-- Classifiers that keep step have the same log. -/
theorem Classifier.KeepsStep.log_eq {learned other : Classifier} {future : List Moment}
    (step : learned.KeepsStep other future)
    (asks : ∀ moment ∈ future, moment.call ≠ .discover) :
    learned.log future = other.log future := by
  induction future generalizing learned other with
  | nil => rfl
  | cons moment rest inductionHypothesis =>
      obtain ⟨reply, still⟩ := step.serve (asks moment (by simp))
      have tail := inductionHypothesis still
        fun next member => asks next (List.mem_cons_of_mem _ member)
      rw [Classifier.log, Classifier.log, reply, tail]

/-- Once the decisions are forgotten, a classifier replies as if it were new. -/
theorem Classifier.log_after_clearCache (standardRoot : Option PathName) (depth : Nat)
    (past future : List Moment) (asks : ∀ moment ∈ future, moment.call ≠ .discover)
    (same : ∀ lesson ∈ (Classifier.new standardRoot depth).lesson? past,
      ∀ moment ∈ future, (Classifier.new standardRoot depth).SeesAlike lesson moment.tree) :
    let start := Classifier.new standardRoot depth
    (start.after past).clearCache.log future = start.log future := by
  intro start
  obtain ⟨_, new⟩ | ⟨lesson, learned, closed, leads⟩ :=
    Classifier.after_new standardRoot depth past
  · rw [new]
    rfl
  · have step : (start.after past).clearCache.KeepsStep start future := by
      refine ⟨closed, rfl, ?_⟩
      intro moment member
      have alike := (same lesson learned moment member).learnLeads
      change start.leads moment.tree = (start.after past).discovered
      rw [leads, Classifier.leads_new, Classifier.leads_new, alike]
    exact step.log_eq asks

/-- A customer's source lies beside the vendor's. -/
def twoShelves (report : Bytes) : FileTree where
  top := .directory
    { entries :=
        [("own", .directory { entries := [("Report.prw", .file report)] }),
          ("standard", .directory
            { entries := [("Xyz.prw", .file (utf8Bytes "Function Xyz()"))] })] }
  workingDirectory := "/"

theorem entry_standard_twoShelves (report : Bytes) :
    (twoShelves report).entry "/standard" =
      .ok (.directory { entries := [("Xyz.prw", .file (utf8Bytes "Function Xyz()"))] }) :=
  FileTree.entry_of_steps rfl ["standard"] rfl (Entry.searchable_singleton rfl _) (by simp)
      (by decide) (by simp) (by decide) (by decide)

/-- The report is judged once, and then the customer changes it. -/
theorem Classifier.log_twoShelves_after_clearCache :
    let start := Classifier.new (some "/standard") 1
    let before := twoShelves []
    let after := twoShelves (utf8Bytes "User Function Report()")
    let report : RoutineName := { typed := "Report", base := "Report" }
    let past : List Moment :=
      [{ tree := before, call := .classify report (some "/own/Report.prw") }]
    let future : List Moment :=
      [{ tree := after, call := .classify report (some "/own/Report.prw") },
        { tree := after, call := .classifyName "Xyz" }, { tree := after, call := .clearCache },
        { tree := before, call := .classifyName "Report" }]
    (∀ moment ∈ future, moment.call ≠ .discover) ∧ start.lesson? past = some before ∧
      (∀ moment ∈ future, start.SeesAlike before moment.tree) ∧
      (start.after past).clearCache.log future = start.log future := by
  intro start before after report past future
  have asks : ∀ moment ∈ future, moment.call ≠ .discover := by simp [future]
  have learned : start.lesson? past = some before :=
    Classifier.lesson?_new_of_subject _ _ rfl (by decide) []
  have proper : (Entry.directory
      { entries := [("Xyz.prw", .file (utf8Bytes "Function Xyz()"))] }).ProperlyNamed :=
    Entry.allNamed_flat (by decide) (by decide)
  have alike (content : Bytes) : start.SeesAlike before (twoShelves content) :=
    .of_directory rfl (entry_standard_twoShelves []) (entry_standard_twoShelves content) proper
  have same : ∀ moment ∈ future, start.SeesAlike before moment.tree := by
    simp [future, alike, before, after]
  refine ⟨asks, learned, same, ?_⟩
  apply Classifier.log_after_clearCache (some "/standard") 1 past future asks
  intro lesson shown
  obtain rfl := Option.some.inj (learned.symm.trans shown)
  exact same

end RoutineAtlas
