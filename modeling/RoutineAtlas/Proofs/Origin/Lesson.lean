import RoutineAtlas.Proofs.Files.Listing
import RoutineAtlas.Proofs.Files.Parts
import RoutineAtlas.Proofs.Origin.Judgement
import RoutineAtlas.Proofs.Routine.Opening

/-
This file settles what a classifier takes from its lesson, the vendor's tree from which it learns
the leads. A routine that shows itself as the vendor's there is never called custom afterwards.
-/

namespace RoutineAtlas

/-- In the end the lead of a source of the vendor's has been found, or a built-in lead begins it. -/
theorem LeadSearch.found_or_builtin {tree : FileTree} {paths : List PathName} {path : PathName}
    {lead : String}
    (listed : path ∈ paths) (shown : candidateLead path = some lead)
    (vendor : readsAsStandard tree path = true) :
    lead ∈ (LeadSearch.over tree paths).found ∨ beginsWithAny builtinLeads lead.toList = true := by
  cases known : beginsWithAny builtinLeads lead.toList with
  | true => exact Or.inr rfl
  | false =>
      have teaches : TeachesLead tree path lead := teachesLead_iff.mpr ⟨shown, known, vendor⟩
      exact Or.inl (LeadSearch.mem_over_found.mpr ⟨path, listed, teaches⟩)

/-- This is the tree from which the leads are learned in a run. -/
def Classifier.lesson? (classifier : Classifier) : List Moment → Option FileTree
  | [] => none
  | moment :: rest =>
      if classifier.walksFor moment.tree moment.call then some moment.tree
      else (classifier.serve moment.tree moment.call).2.lesson? rest

theorem Classifier.leads_new (standardRoot : Option PathName) (depth : Nat) (tree : FileTree) :
    (Classifier.new standardRoot depth).leads tree =
      ((Classifier.new standardRoot depth).learnLeads tree).found.foldr insertName [] := by
  rw [Classifier.leads, Classifier.discover_of_notStarted rfl]
  rfl

/-- A call that walks the standard tree learns the leads there. -/
theorem Classifier.discovered_of_walksFor {classifier : Classifier} {tree : FileTree}
    {call : ClassifierCall} (walks : classifier.walksFor tree call = true) :
    (classifier.serve tree call).2.discovered = classifier.leads tree := by
  rw [Classifier.leads]
  rw [Classifier.walksFor] at walks
  split at walks
  · rename_i name file subject
    simp only [Bool.and_eq_true, Bool.not_eq_true', Option.isNone_iff_eq_none] at walks
    rw [Classifier.serve_of_subject subject,
      Classifier.classify_of_undecided walks.1.1 walks.1.2]
    simp
  · simp only [Bool.and_eq_true, beq_iff_eq] at walks
    rw [walks.1]
    rfl

/-- A new classifier stays new until it walks the standard tree. -/
theorem Classifier.serve_new_of_walksFor {standardRoot : Option PathName} {depth : Nat}
    {tree : FileTree} {call : ClassifierCall}
    (idle : (Classifier.new standardRoot depth).walksFor tree call = false) :
    ((Classifier.new standardRoot depth).serve tree call).2 =
      Classifier.new standardRoot depth := by
  have waiting : (Classifier.new standardRoot depth).state = .notStarted := rfl
  have learns : ((Classifier.new standardRoot depth).discover tree).1 = true := by
    rw [Classifier.discover_of_notStarted waiting]
  obtain ⟨name, file, subject, later⟩ | ⟨_, _, _, later⟩ | ⟨discovers, _⟩ | ⟨clears, _⟩ :=
    (Classifier.new standardRoot depth).serve_cases tree call
  · have undecided : (Classifier.new standardRoot depth).cache.get? name.key = none := rfl
    have marked : name.isMarked = true := by
      simpa [Classifier.walksFor, subject, learns, undecided] using idle
    rw [later, Classifier.classify_of_isMarked marked]
  · exact later
  · subst discovers
    simp [Classifier.walksFor, ClassifierCall.subject?, learns] at idle
  · rw [clears]
    rfl

/-- A new classifier takes its lesson when it first has to decide on a routine without the mark. -/
theorem Classifier.lesson?_new_of_subject (standardRoot : Option PathName) (depth : Nat)
    {moment : Moment} {name : RoutineName} {file : Option PathName}
    (subject : moment.call.subject? = some (name, file)) (unmarked : name.isMarked = false)
    (rest : List Moment) :
    (Classifier.new standardRoot depth).lesson? (moment :: rest) = some moment.tree := by
  have undecided : (Classifier.new standardRoot depth).cache.get? name.key = none := rfl
  have learns : ((Classifier.new standardRoot depth).discover moment.tree).1 = true := by
    rw [Classifier.discover_of_notStarted rfl]
  have walks : (Classifier.new standardRoot depth).walksFor moment.tree moment.call = true := by
    simp [Classifier.walksFor, subject, unmarked, undecided, learns]
  rw [Classifier.lesson?, if_pos walks]

theorem Classifier.completed_after {classifier : Classifier}
    (closed : classifier.state = .completed) (run : List Moment) :
    (classifier.after run).state = .completed := by
  induction run generalizing classifier with
  | nil => exact closed
  | cons moment rest inductionHypothesis =>
      exact inductionHypothesis (Classifier.serve_of_completed closed moment.tree moment.call).1

/-- Without a lesson a new classifier is still new, and after one it has the leads of that tree. -/
theorem Classifier.after_new (standardRoot : Option PathName) (depth : Nat) (run : List Moment) :
    let start := Classifier.new standardRoot depth
    (start.lesson? run = none ∧ start.after run = start) ∨
      ∃ lesson, start.lesson? run = some lesson ∧ (start.after run).state = .completed ∧
        (start.after run).discovered = start.leads lesson := by
  intro start
  induction run with
  | nil => exact Or.inl ⟨rfl, rfl⟩
  | cons moment rest inductionHypothesis =>
      rw [Classifier.lesson?, Classifier.after_cons]
      cases walks : start.walksFor moment.tree moment.call with
      | true =>
          have closed := Classifier.serve_of_walksFor walks
          refine Or.inr ⟨moment.tree, rfl, Classifier.completed_after closed rest, ?_⟩
          rw [Classifier.discovered_after closed, Classifier.discovered_of_walksFor walks]
      | false =>
          have still : (start.serve moment.tree moment.call).2 = start :=
            Classifier.serve_new_of_walksFor walks
          rw [still]
          exact inductionHypothesis

/-- A known lead makes a routine without the mark standard, whatever has been decided before. -/
theorem Classifier.Sound.origin_of_known {classifier : Classifier} (sound : classifier.Sound)
    (closed : classifier.state = .completed) {name : RoutineName} (unmarked : name.isMarked = false)
    (known : beginsWithKnownLead name.key classifier.discovered = true) (tree : FileTree)
    (file : Option PathName) : (classifier.classify tree name file).1.origin = .standard := by
  obtain ⟨marked, _⟩ | ⟨_, origin, decided, answer⟩ | ⟨_, _, answer⟩ :=
    classifier.classify_cases tree name file
  · rw [unmarked] at marked
    exact Bool.noConfusion marked
  · rw [answer]
    cases origin with
    | standard => rfl
    | custom => exact absurd decided (sound.standard name.key known)
  · rw [answer, Classifier.discover_of_completed closed]
    dsimp only
    rw [freshDecision_of_known known]
    rfl

/-- A source shows itself as the vendor's when its stem begins with three letters and its head can
be read and is not a customer's. Three letters leave no room for the mark. -/
structure ShowsVendor (tree : FileTree) (path : PathName) (stem : String) : Prop where
  isStem : pathStem? path = some (utf8Bytes stem)
  long : 3 ≤ (stem.toList.takeWhile isLetter).length
  legible : ∃ head, inspectedHead tree path = .ok head ∧ TextVerdict.of head ≠ .custom

theorem ShowsVendor.readsAsStandard {tree : FileTree} {path : PathName} {stem : String}
    (shows : ShowsVendor tree path stem) : readsAsStandard tree path = true :=
  readsAsStandard_iff.mpr shows.legible

theorem ShowsVendor.candidateLead {tree : FileTree} {path : PathName} {stem : String}
    (shows : ShowsVendor tree path stem) :
    ∃ lead, leadOf stem.toList = some lead ∧ candidateLead path = some lead := by
  obtain ⟨lead, shown⟩ := exists_leadOf shows.long
  obtain ⟨letters, opens, long, _⟩ := exists_opens_of_leadOf shown
  have unmarked : hasMark stem.toList = false := by
    rw [hasMark, opens.afterMark (by omega)]
    rfl
  exact ⟨lead, shown, candidateLead_eq_some.mpr ⟨stem, shows.isStem, unmarked, shown⟩⟩

/-- The key of a routine that shows itself as the vendor's begins with a lead that is learned. -/
theorem ShowsVendor.beginsWithKnownLead {root : PathName} {depth : Nat} {lesson : FileTree}
    {path : PathName} {stem : String} (shows : ShowsVendor lesson path stem)
    (listed : path ∈ ((ScanPlan.forSources depth).scan lesson root).files) {name : RoutineName}
    (accepted : RoutineName.parse stem = .ok name) :
    beginsWithKnownLead name.key ((Classifier.new (some root) depth).leads lesson) = true := by
  obtain ⟨lead, shown, candidate⟩ := shows.candidateLead
  obtain ⟨_, begins⟩ := RoutineName.lead_isPrefix_key accepted shown
  apply beginsWithKnownLead_iff.mpr
  obtain found | builtin := LeadSearch.found_or_builtin listed candidate shows.readsAsStandard
  · have learned : lead ∈ (Classifier.new (some root) depth).leads lesson := by
      rw [Classifier.leads_new]
      exact mem_foldr_insertName.mpr (Or.inl found)
    exact ⟨lead, List.mem_append_right _ learned, begins⟩
  · obtain ⟨known, isKnown, starts⟩ := beginsWithAny_iff.mp builtin
    exact ⟨known, List.mem_append_left _ isKnown, starts.trans begins⟩

/-- Every routine that showed itself as the vendor's in the lesson is standard from then on. -/
theorem Classifier.lesson_makes_standard (root : PathName) (depth : Nat) (run : List Moment)
    (closed : ((Classifier.new (some root) depth).after run).state = .completed) :
    let start := Classifier.new (some root) depth
    ∃ lesson, start.lesson? run = some lesson ∧
      ∀ path ∈ ((ScanPlan.forSources depth).scan lesson root).files, ∀ stem,
        ShowsVendor lesson path stem → ∀ name, RoutineName.parse stem = .ok name →
          ∀ tree file, ((start.after run).classify tree name file).1.origin = .standard := by
  intro start
  obtain ⟨_, new⟩ | ⟨lesson, learned, _, leads⟩ := Classifier.after_new (some root) depth run
  · rw [new] at closed
    exact GateState.noConfusion closed
  · refine ⟨lesson, learned, ?_⟩
    intro path listed stem shows name accepted tree file
    have sound := (Classifier.Sound.new (some root) depth).after run
    obtain ⟨lead, shown, _⟩ := shows.candidateLead
    obtain ⟨unmarked, _⟩ := RoutineName.lead_isPrefix_key accepted shown
    have known := shows.beginsWithKnownLead listed accepted
    rw [← leads] at known
    exact sound.origin_of_known closed unmarked known tree file

/-- The vendor's tree holds one source, whose stem looks like the name of a source itself. -/
def vendorShelf : FileTree where
  top := .directory { entries := [("Xyz.prw.prg", .file (utf8Bytes "Function Xyz()"))] }
  workingDirectory := "/"

theorem entry_vendorShelf : vendorShelf.entry "/" = .ok vendorShelf.top :=
  FileTree.entry_slash rfl

theorem files_vendorShelf :
    ((ScanPlan.forSources 1).scan vendorShelf "/").files = [utf8Bytes "/Xyz.prw.prg"] := by
  rw [ScanPlan.scan_of_directory _ entry_vendorShelf]
  decide

theorem showsVendor_vendorShelf : ShowsVendor vendorShelf "/Xyz.prw.prg" "Xyz.prw" where
  isStem := by decide
  long := by decide
  legible := by
    have source : vendorShelf.entry "/Xyz.prw.prg" = .ok (.file (utf8Bytes "Function Xyz()")) :=
      FileTree.entry_of_steps rfl ["Xyz.prw.prg"] rfl (Entry.searchable_singleton rfl _) (by simp)
      (by decide) (by simp) (by decide) (by decide)
    exact ⟨_, inspectedHead_of_read (FileTree.read_of_entry source), by decide⟩

/-- The classification of some other routine is the lesson. Then the decisions are forgotten, and
the routine is standard although no source is left. -/
theorem Classifier.lesson_makes_shelf_standard :
    let start := Classifier.new (some "/") 1
    let run : List Moment := [{ tree := vendorShelf, call := .classifyName "Report" },
      { tree := { top := .directory { entries := [] }, workingDirectory := "/" },
        call := .clearCache }]
    let name : RoutineName := { typed := "Xyz.prw", base := "Xyz" }
    (start.after run).state = .completed ∧ start.lesson? run = some vendorShelf ∧
      utf8Bytes "/Xyz.prw.prg" ∈ ((ScanPlan.forSources 1).scan vendorShelf "/").files ∧
      ShowsVendor vendorShelf "/Xyz.prw.prg" "Xyz.prw" ∧
      RoutineName.parse "Xyz.prw" = .ok name ∧
      ∀ tree file, ((start.after run).classify tree name file).1.origin = .standard := by
  intro start run name
  have learned : start.lesson? run = some vendorShelf := rfl
  have closed : (start.after run).state = .completed := by
    obtain ⟨none, _⟩ | ⟨_, _, closed, _⟩ := Classifier.after_new (some "/") 1 run
    · exact absurd (learned.symm.trans none) (by simp)
    · exact closed
  have listed : utf8Bytes "/Xyz.prw.prg" ∈
      ((ScanPlan.forSources 1).scan vendorShelf "/").files := by
    rw [files_vendorShelf]
    exact List.mem_singleton_self _
  have accepted : RoutineName.parse "Xyz.prw" = .ok name := by decide
  obtain ⟨lesson, same, standard⟩ := Classifier.lesson_makes_standard "/" 1 run closed
  obtain rfl := Option.some.inj (same.symm.trans learned)
  exact ⟨closed, learned, listed, showsVendor_vendorShelf, accepted,
    standard _ listed _ showsVendor_vendorShelf name accepted⟩

end RoutineAtlas
