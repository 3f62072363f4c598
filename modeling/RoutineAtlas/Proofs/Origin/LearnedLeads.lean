import RoutineAtlas.Proofs.Files.Walk
import RoutineAtlas.Proofs.Origin.Restart
import RoutineAtlas.Proofs.Text.NameSet
import Mathlib.Data.List.Sort

/-
This file settles what is learned from a list of sources. The leads depend on the sources alone,
not on their order, and a source whose lead has been found is passed over without loss.
-/

namespace RoutineAtlas

theorem LeadSearch.pairwise_inspect_found {search : LeadSearch}
    (ascending : search.found.Pairwise (· < ·)) (tree : FileTree) (path : PathName)
    (lead : String) :
    (search.inspect tree path lead).found.Pairwise (· < ·) := by
  rw [LeadSearch.inspect]
  dsimp only
  split
  · exact pairwise_insertName lead ascending
  · exact ascending

/-- A step learns when it adds what its source teaches, and nothing else, and keeps the leads in
ascending order. -/
structure LeadSearch.Learns (tree : FileTree) (step : LeadSearch → PathName → LeadSearch) :
    Prop where
  adds : ∀ search path lead,
    lead ∈ (step search path).found ↔ lead ∈ search.found ∨ TeachesLead tree path lead
  ordered : ∀ search path, search.found.Pairwise (· < ·) →
    (step search path).found.Pairwise (· < ·)

theorem LeadSearch.Learns.pairwise_found {tree : FileTree}
    {step : LeadSearch → PathName → LeadSearch} (learns : LeadSearch.Learns tree step)
    (paths : List PathName) {search : LeadSearch} (ascending : search.found.Pairwise (· < ·)) :
    (paths.foldl step search).found.Pairwise (· < ·) := by
  induction paths generalizing search with
  | nil => exact ascending
  | cons path rest inductionHypothesis =>
      exact inductionHypothesis (learns.ordered search path ascending)

/-- Whatever way of learning is taken, sources that teach the same leads leave the same set. -/
theorem LeadSearch.Learns.found_congr {tree : FileTree}
    {step another : LeadSearch → PathName → LeadSearch} (learns : LeadSearch.Learns tree step)
    (learnsToo : LeadSearch.Learns tree another) {paths : List PathName} {others : List PathName}
    (same : ∀ lead, (∃ path ∈ paths, TeachesLead tree path lead) ↔
      ∃ path ∈ others, TeachesLead tree path lead)
    {search : LeadSearch} (ascending : search.found.Pairwise (· < ·)) :
    (paths.foldl step search).found = (others.foldl another search).found := by
  -- An ascending list is determined by its members.
  apply (learns.pairwise_found paths ascending).eq_of_mem_iff
    (learnsToo.pairwise_found others ascending)
  intro lead
  rw [LeadSearch.mem_foldl_found fun search path => learns.adds search path lead,
    LeadSearch.mem_foldl_found fun search path => learnsToo.adds search path lead, same]

theorem LeadSearch.learns_visit (tree : FileTree) :
    LeadSearch.Learns tree (LeadSearch.visit tree) where
  adds := fun _ _ _ => LeadSearch.mem_visit_found
  ordered := by
    intro search path ascending
    cases opens : search.opens path with
    | false => rwa [LeadSearch.visit_of_closed opens]
    | true =>
        obtain ⟨lead, _, _, visit⟩ := LeadSearch.visit_of_opens opens
        rw [visit]
        exact LeadSearch.pairwise_inspect_found ascending tree path lead

/-- This visit opens the source although its lead may have been found. -/
def LeadSearch.visitAgain (tree : FileTree) (search : LeadSearch) (path : PathName) : LeadSearch :=
  match candidateLead path with
  | none => search
  | some lead =>
      if beginsWithAny builtinLeads lead.toList then search else search.inspect tree path lead

/-- No source is passed over because of what the others have taught. -/
def LeadSearch.overAll (tree : FileTree) (paths : List PathName) : LeadSearch :=
  paths.foldl (LeadSearch.visitAgain tree) { found := [], inspections := 0 }

/-- A source without a new lead teaches nothing, and any other is opened. -/
theorem LeadSearch.visitAgain_cases (tree : FileTree) (search : LeadSearch) (path : PathName) :
    (search.visitAgain tree path = search ∧ ∀ lead, ¬ TeachesLead tree path lead) ∨
      ∃ lead, candidateLead path = some lead ∧ beginsWithAny builtinLeads lead.toList = false ∧
        search.visitAgain tree path = search.inspect tree path lead := by
  rw [LeadSearch.visitAgain]
  split
  · rename_i candidate
    exact Or.inl ⟨rfl, by simp [teachesLead_iff, candidate]⟩
  · rename_i shown candidate
    cases known : beginsWithAny builtinLeads shown.toList with
    | true =>
        refine Or.inl ⟨rfl, ?_⟩
        intro lead teaches
        obtain ⟨same, unknown, _⟩ := teachesLead_iff.mp teaches
        obtain rfl := Option.some.inj (candidate.symm.trans same)
        exact Bool.noConfusion (known.symm.trans unknown)
    | false => exact Or.inr ⟨shown, candidate, known, rfl⟩

theorem LeadSearch.learns_visitAgain (tree : FileTree) :
    LeadSearch.Learns tree (LeadSearch.visitAgain tree) where
  adds := by
    intro search path lead
    obtain ⟨same, nothing⟩ | ⟨shown, candidate, unknown, opened⟩ :=
      LeadSearch.visitAgain_cases tree search path
    · rw [same, or_iff_left (nothing lead)]
    · rw [opened, LeadSearch.mem_inspect_found candidate unknown]
  ordered := by
    intro search path ascending
    obtain ⟨same, _⟩ | ⟨shown, _, _, opened⟩ := LeadSearch.visitAgain_cases tree search path
    · rwa [same]
    · rw [opened]
      exact LeadSearch.pairwise_inspect_found ascending tree path shown

/-- A visit costs no more than the same visit without passing over. -/
theorem LeadSearch.inspections_visit_le {search other : LeadSearch}
    (cheaper : search.inspections ≤ other.inspections) (tree : FileTree) (path : PathName) :
    (search.visit tree path).inspections ≤ (other.visitAgain tree path).inspections := by
  cases opens : search.opens path with
  | false =>
      rw [LeadSearch.visit_of_closed opens]
      obtain ⟨same, _⟩ | ⟨_, _, _, opened⟩ := LeadSearch.visitAgain_cases tree other path
      · rwa [same]
      · rw [opened]
        exact Nat.le_succ_of_le cheaper
  | true =>
      obtain ⟨lead, candidate, unknown, visit⟩ := LeadSearch.visit_of_opens opens
      have opened : other.visitAgain tree path = other.inspect tree path lead := by
        simp [LeadSearch.visitAgain, candidate, unknown]
      rw [visit, opened]
      exact Nat.succ_le_succ cheaper

theorem LeadSearch.inspections_foldl_le {search other : LeadSearch}
    (cheaper : search.inspections ≤ other.inspections) (tree : FileTree) (paths : List PathName) :
    (paths.foldl (LeadSearch.visit tree) search).inspections ≤
      (paths.foldl (LeadSearch.visitAgain tree) other).inspections := by
  induction paths generalizing search other with
  | nil => exact cheaper
  | cons path rest inductionHypothesis =>
      exact inductionHypothesis (LeadSearch.inspections_visit_le cheaper tree path)

/-- These sources are opened when a search goes on over the paths. -/
def LeadSearch.opened (tree : FileTree) (search : LeadSearch) : List PathName → List PathName
  | [] => []
  | path :: rest =>
      if search.opens path then path :: (search.visit tree path).opened tree rest
      else search.opened tree rest

/-- The sources are opened in their order, each as often as it is listed at most. -/
theorem LeadSearch.opened_sublist (tree : FileTree) (search : LeadSearch) (paths : List PathName) :
    (search.opened tree paths).Sublist paths := by
  induction paths generalizing search with
  | nil => exact .slnil
  | cons path rest inductionHypothesis =>
      rw [LeadSearch.opened]
      split
      · exact (inductionHypothesis _).cons_cons path
      · exact (inductionHypothesis search).cons path

/-- Every opened source is one inspection. -/
theorem LeadSearch.inspections_foldl_visit (tree : FileTree) (search : LeadSearch)
    (paths : List PathName) :
    (paths.foldl (LeadSearch.visit tree) search).inspections =
      search.inspections + (search.opened tree paths).length := by
  induction paths generalizing search with
  | nil => rfl
  | cons path rest inductionHypothesis =>
      rw [List.foldl_cons, inductionHypothesis, LeadSearch.opened]
      cases opens : search.opens path with
      | false => rw [LeadSearch.visit_of_closed opens]; rfl
      | true =>
          obtain ⟨lead, _, _, visit⟩ := LeadSearch.visit_of_opens opens
          have more : (search.visit tree path).inspections = search.inspections + 1 := by
            rw [visit, LeadSearch.inspect]
          rw [if_pos rfl, List.length_cons, more]
          omega

/-- Nothing but the opened sources is read. -/
theorem LeadSearch.foldl_visit_congr {tree other : FileTree} (search : LeadSearch)
    (paths : List PathName)
    (same : ∀ path ∈ search.opened tree paths,
      inspectedHead other path = inspectedHead tree path) :
    paths.foldl (LeadSearch.visit other) search = paths.foldl (LeadSearch.visit tree) search := by
  induction paths generalizing search with
  | nil => rfl
  | cons path rest inductionHypothesis =>
      rw [List.foldl_cons, List.foldl_cons]
      rw [LeadSearch.opened] at same
      cases opens : search.opens path with
      | false =>
          rw [LeadSearch.visit_of_closed opens, LeadSearch.visit_of_closed opens]
          rw [opens] at same
          exact inductionHypothesis search same
      | true =>
          rw [opens, if_pos rfl] at same
          rw [LeadSearch.visit_congr (same path List.mem_cons_self)]
          exact inductionHypothesis _ fun later member =>
            same later (List.mem_cons_of_mem path member)

/-- These sources are opened when the leads are learned from the paths. -/
def openedSources (tree : FileTree) (paths : List PathName) : List PathName :=
  LeadSearch.opened tree { found := [], inspections := 0 } paths

/-- A source that cannot be read may be left out, because it teaches nothing. -/
theorem exists_teachesLead_filter_iff {tree : FileTree} {paths : List PathName} {lead : String} :
    (∃ path ∈ paths.filter fun path => (inspectedHead tree path).isOk,
        TeachesLead tree path lead) ↔ ∃ path ∈ paths, TeachesLead tree path lead := by
  constructor
  · rintro ⟨path, kept, teaches⟩
    exact ⟨path, List.mem_of_mem_filter kept, teaches⟩
  · rintro ⟨path, listed, teaches⟩
    obtain ⟨head, read, _⟩ := teaches.legible
    have legible : (inspectedHead tree path).isOk = true := by
      rw [read]
      rfl
    exact ⟨path, List.mem_filter.mpr ⟨listed, legible⟩, teaches⟩

/-- A classifier learns from the walk of its standard tree. -/
theorem Classifier.learnLeads_of_root {classifier : Classifier} {root : PathName}
    (standardRoot : classifier.standardRoot = some root) (tree : FileTree) :
    classifier.learnLeads tree = LeadSearch.over tree
      ((ScanPlan.forSources classifier.discoveryDepth).scan tree root).files := by
  rw [Classifier.learnLeads, standardRoot]

/-- A lead is learned exactly when a source teaches it, in any order, and no source is opened twice.
-/
theorem LeadSearch.over_learns_what_is_taught (tree : FileTree) (paths : List PathName) :
    let search := LeadSearch.over tree paths
    let opened := openedSources tree paths
    (∀ lead, lead ∈ search.found ↔ ∃ path ∈ paths, TeachesLead tree path lead) ∧
    (∀ others, others.Perm paths → (LeadSearch.over tree others).found = search.found) ∧
    ((LeadSearch.overAll tree paths).found = search.found ∧
      search.inspections ≤ (LeadSearch.overAll tree paths).inspections) ∧
    (LeadSearch.over tree (paths.filter fun path => (inspectedHead tree path).isOk)).found =
      search.found ∧
    (opened.Sublist paths ∧ opened.length = search.inspections ∧
      ∀ other, (∀ path ∈ opened, inspectedHead other path = inspectedHead tree path) →
        LeadSearch.over other paths = search) ∧
    ∀ (classifier : Classifier) (root : PathName), classifier.standardRoot = some root →
      classifier.state = .notStarted →
      let walk := ((ScanPlan.forSources classifier.discoveryDepth).scan tree root).files
      let later := (classifier.discover tree).2
      paths.Perm walk →
        (∀ lead, lead ∈ later.discovered ↔
          lead ∈ classifier.discovered ∨ ∃ path ∈ paths, TeachesLead tree path lead) ∧
        later.inspections = classifier.inspections + (openedSources tree walk).length ∧
        (tree.top.WellNamed → opened.Nodup) := by
  intro search opened
  have counted : ∀ listed, (LeadSearch.over tree listed).inspections =
      (openedSources tree listed).length := by
    intro listed
    rw [LeadSearch.over, LeadSearch.inspections_foldl_visit]
    exact Nat.zero_add _
  have sublist : opened.Sublist paths := LeadSearch.opened_sublist tree _ paths
  have visits := LeadSearch.learns_visit tree
  refine ⟨fun lead => LeadSearch.mem_over_found, ?_, ⟨?_, ?_⟩, ?_, ⟨sublist, ?_, ?_⟩, ?_⟩
  · intro others reordered
    exact visits.found_congr visits (fun lead => by simp only [reordered.mem_iff]) .nil
  · exact (LeadSearch.learns_visitAgain tree).found_congr visits (fun lead => Iff.rfl) .nil
  · exact LeadSearch.inspections_foldl_le le_rfl tree paths
  · exact visits.found_congr visits (fun lead => exists_teachesLead_filter_iff) .nil
  · exact (counted paths).symm
  · intro other same
    exact LeadSearch.foldl_visit_congr _ paths same
  intro classifier root standardRoot waiting walk later order
  have learned : later = { classifier with
      state := .completed
      discovered := (LeadSearch.over tree walk).found.foldr insertName classifier.discovered
      inspections := classifier.inspections + (LeadSearch.over tree walk).inspections } := by
    have discovers := Classifier.discover_of_notStarted waiting tree
    rw [Classifier.learnLeads_of_root standardRoot] at discovers
    exact congrArg Prod.snd discovers
  refine ⟨?_, ?_, ?_⟩
  · intro lead
    have anyOrder : (∃ path ∈ paths, TeachesLead tree path lead) ↔
        lead ∈ (LeadSearch.over tree walk).found := by
      simp only [LeadSearch.mem_over_found, order.mem_iff]
    rw [learned, anyOrder, Or.comm]
    exact mem_foldr_insertName
  · rw [learned, ← counted walk]
  · intro named
    have once : walk.Nodup := ScanPlan.nodup_scan_files _ named root
    exact (order.nodup_iff.mpr once).sublist sublist

theorem teachesLead_vendorShelf : TeachesLead vendorShelf "/Xyz.prw.prg" "XYZ" where
  shown := ⟨"Xyz.prw", by decide, by decide, by decide⟩
  unknown := by decide
  legible := showsVendor_vendorShelf.legible

theorem wellNamed_vendorShelf : vendorShelf.top.WellNamed :=
  Entry.wellNamed_flat (by decide) (by decide)

/-- The one source on the shelf is opened once, and its lead is learned, in capital letters. -/
theorem Classifier.discover_learns_from_shelf :
    let classifier := Classifier.new (some "/") 1
    let walk := ((ScanPlan.forSources 1).scan vendorShelf "/").files
    let later := (classifier.discover vendorShelf).2
    classifier.standardRoot = some (utf8Bytes "/") ∧ classifier.state = .notStarted ∧
      [utf8Bytes "/Xyz.prw.prg"].Perm walk ∧ vendorShelf.top.WellNamed ∧
      "XYZ" ∈ later.discovered ∧ "Xyz" ∉ later.discovered ∧ later.inspections = 1 ∧
      (openedSources vendorShelf [utf8Bytes "/Xyz.prw.prg"]).Nodup := by
  intro classifier walk later
  obtain ⟨_, _, _, _, _, learned⟩ :=
    LeadSearch.over_learns_what_is_taught vendorShelf [utf8Bytes "/Xyz.prw.prg"]
  have order : [utf8Bytes "/Xyz.prw.prg"].Perm walk := by
    rw [show walk = [utf8Bytes "/Xyz.prw.prg"] from files_vendorShelf]
  obtain ⟨leads, inspected, once⟩ := learned classifier "/" rfl rfl order
  refine ⟨rfl, rfl, order, wellNamed_vendorShelf, ?_, ?_, ?_, once wellNamed_vendorShelf⟩
  · exact (leads "XYZ").mpr (Or.inr ⟨_, List.mem_singleton_self _, teachesLead_vendorShelf⟩)
  · intro member
    obtain before | ⟨path, _, teaches⟩ := (leads "Xyz").mp member
    · exact absurd before List.not_mem_nil
    · exact absurd (teaches.isLearnedLead.capital 'y' (by decide)) (by decide)
  · have opened : (openedSources vendorShelf walk).length = 1 := by
      rw [show walk = [utf8Bytes "/Xyz.prw.prg"] from files_vendorShelf]
      decide
    rw [inspected]
    exact (Nat.zero_add _).trans opened

end RoutineAtlas
