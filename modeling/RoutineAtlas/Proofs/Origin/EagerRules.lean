import RoutineAtlas.Proofs.Origin.Lesson

/-
This file compares a classification with the plain reading of the rules. There every rule is asked
with the source at hand, and the first decision counts.
-/

namespace RoutineAtlas

/-- These are the decisions of all rules on a source that has been loaded before. -/
def eagerDecisions (tree : FileTree) (discovered : List String) (key : String)
    (file : Option PathName) : List FreshDecision :=
  Rule.all.filterMap (Rule.judge (loadedSource tree file) discovered key)

/-- The fresh decision is the first of all. -/
theorem head?_eagerDecisions (tree : FileTree) (discovered : List String) (key : String)
    (file : Option PathName) :
    (eagerDecisions tree discovered key file).head? =
      some (freshDecision tree discovered key file) := by
  rw [eagerDecisions, List.head?_filterMap, findSome?_judge_all]

/-- When the source can be read, or when there is none, the first decision on the whole question is
the answer. -/
theorem firstDecision_of_loaded {tree : FileTree} {file : Option PathName} {content : Option String}
    (loaded : loadedSource tree file = .ok content) (discovered : List String) (key : String) :
    (RuleQuestion.firstDecision { marked := false, key, content, discovered }).map
        (fun found => { origin := found.2, ground := .rule found.1 }) =
      some (freshDecision tree discovered key file).answer := by
  have eager := congrArg (Option.map FreshDecision.answer)
    (findSome?_judge_all tree discovered key file)
  rw [loaded, List.map_findSome?] at eager
  rw [RuleQuestion.firstDecision, List.map_findSome?]
  refine Eq.trans ?_ eager
  congr 1
  funext rule
  simp only [Function.comp_apply, Rule.judge, Option.map_map]
  rfl

/-- With a known lead the tree is not looked at by the rules. -/
theorem Classifier.ask_all_of_known {classifier : Classifier} {key : String}
    (known : beginsWithKnownLead key classifier.discovered = true) (tree other : FileTree)
    (file : Option PathName) :
    classifier.ask other key file none Rule.all = classifier.ask tree key file none Rule.all := by
  rw [Classifier.ask_all, Classifier.ask_all, freshDecision_of_known known,
    freshDecision_of_known known]

/-- A source that can be read decides through its marks. -/
theorem freshDecision_of_readable {tree : FileTree} {discovered : List String}
    {key : String} {path : PathName} {head : String}
    (new : beginsWithKnownLead key discovered = false)
    (read : inspectedHead tree path = .ok head) :
    freshDecision tree discovered key (some path) =
      .decided .contentMarkers (if TextVerdict.of head = .custom then .custom else .standard) := by
  simp only [freshDecision, new, Bool.false_eq_true, if_false, read, TextVerdict.isStandard]
  cases TextVerdict.of head <;> rfl

theorem freshDecision_of_unreadable {tree : FileTree} {discovered : List String}
    {key : String} {path : PathName} {fault : AccessFault}
    (new : beginsWithKnownLead key discovered = false)
    (read : inspectedHead tree path = .error fault) :
    freshDecision tree discovered key (some path) = .unreadable := by
  simp only [freshDecision, new, Bool.false_eq_true, if_false, read]

/-- Without a file the shape of the key decides. -/
theorem freshDecision_of_noFile (tree : FileTree) {discovered : List String} {key : String}
    (new : beginsWithKnownLead key discovered = false) :
    freshDecision tree discovered key none =
      if hasVendorShape key.toList then .decided .shape .standard
      else .decided .otherwise .custom := by
  simp only [freshDecision, new, Bool.false_eq_true, if_false]

/-- A fresh classification is the first of the eager decisions, and it opens a file only for its
marks. -/
theorem Classifier.classify_eq_eager {classifier : Classifier} {name : RoutineName}
    (unmarked : name.isMarked = false) (undecided : classifier.cache.get? name.key = none)
    (tree : FileTree) (file : Option PathName) :
    let ready := (classifier.discover tree).2
    let known := beginsWithKnownLead name.key ready.discovered
    let result := classifier.classify tree name file
    (∃ decision, (eagerDecisions tree ready.discovered name.key file).head? = some decision ∧
      result.1 = decision.answer ∧
      result.2 = { ready with
        cache := decision.keep name.key classifier.cache
        inspections := ready.inspections + if file.isSome && !known then 1 else 0 }) ∧
    (∀ content, loadedSource tree file = .ok content →
      (RuleQuestion.firstDecision
          { marked := false, key := name.key, content, discovered := ready.discovered }).map
        (fun found => { origin := found.2, ground := .rule found.1 }) = some result.1) ∧
    (known = true → result.1 = { origin := .standard, ground := .rule .knownLead } ∧
      ∀ other, ready.ask other name.key file none Rule.all = result) ∧
    (known = false → ∀ path, file = some path →
      (∀ head, inspectedHead tree path = .ok head →
        result.1 =
          { origin := if TextVerdict.of head = .custom then .custom else .standard
            ground := .rule .contentMarkers }) ∧
      (∀ fault, inspectedHead tree path = .error fault →
        result.1 = { origin := .custom, ground := .unreadable } ∧
        result.2.cache = classifier.cache)) ∧
    (known = false → file = none →
      result.1 =
        if hasVendorShape name.key.toList then { origin := .standard, ground := .rule .shape }
        else { origin := .custom, ground := .rule .otherwise }) ∧
    ∀ more, ready.ask tree name.key file none (Rule.all ++ more) = result := by
  intro ready known result
  have asked : result = ready.ask tree name.key file none Rule.all :=
    Classifier.classify_of_ask unmarked undecided tree file
  have decided : result = ((freshDecision tree ready.discovered name.key file).answer,
      (ready.countIf (file.isSome && !known)).keep name.key
        (freshDecision tree ready.discovered name.key file)) :=
    Classifier.classify_of_undecided unmarked undecided tree file
  have learned : ready.cache = classifier.cache := Classifier.discover_cache classifier tree
  refine ⟨⟨_, head?_eagerDecisions tree ready.discovered name.key file, ?_, ?_⟩,
    ?_, ?_, ?_, ?_, ?_⟩
  · rw [decided]
  · rw [decided, Classifier.keep, Classifier.countIf, learned]
    cases file.isSome && !known <;> rfl
  · intro content loaded
    rw [firstDecision_of_loaded loaded ready.discovered name.key, decided]
  · intro isKnown
    refine ⟨?_, ?_⟩
    · rw [decided, freshDecision_of_known isKnown]
      rfl
    · intro other
      rw [asked, Classifier.ask_all_of_known isKnown tree other file]
  · rintro new path rfl
    refine ⟨?_, ?_⟩
    · intro head read
      rw [decided, freshDecision_of_readable new read]
      rfl
    · intro fault read
      rw [decided, freshDecision_of_unreadable new read]
      refine ⟨rfl, ?_⟩
      rw [Classifier.keep_cache, Classifier.countIf_cache, learned, FreshDecision.keep]
  · rintro new rfl
    rw [decided, freshDecision_of_noFile tree new]
    cases hasVendorShape name.key.toList <;> rfl
  · intro more
    rw [asked]
    exact Classifier.ask_append
      (findSome?_judge_all tree ready.discovered name.key file) more

/-- Without a standard tree nothing is learned, and the source on the shelf decides by its marks. A
directory cannot be read, and without a file nothing speaks for the vendor. -/
theorem Classifier.classify_from_shelf :
    let classifier := Classifier.new none 1
    let name : RoutineName := { typed := "Xyz", base := "Xyz" }
    let result := classifier.classify vendorShelf name
    name.isMarked = false ∧ classifier.cache.get? name.key = none ∧
      (result (some "/Xyz.prw.prg")).1 = { origin := .standard, ground := .rule .contentMarkers } ∧
      (result (some "/Xyz.prw.prg")).2.inspections = 1 ∧
      (result (some "/")).1 = { origin := .custom, ground := .unreadable } ∧
      (result (some "/")).2.cache = classifier.cache ∧
      (result none).1 = { origin := .custom, ground := .rule .otherwise } ∧
      (result none).2.inspections = 0 := by
  intro classifier name result
  have unmarked : name.isMarked = false := by decide
  have undecided : classifier.cache.get? name.key = none := rfl
  have new : beginsWithKnownLead name.key (classifier.discover vendorShelf).2.discovered =
      false := by
    decide
  have unreadable : inspectedHead vendorShelf "/" = .error .isDirectory := by
    rw [inspectedHead, FileTree.readHead, FileTree.read, entry_vendorShelf]
    rfl
  obtain ⟨head, read, vendor⟩ := showsVendor_vendorShelf.legible
  obtain ⟨⟨_, _, _, counted⟩, _, _, shelved, _⟩ :=
    Classifier.classify_eq_eager unmarked undecided vendorShelf (some "/Xyz.prw.prg")
  obtain ⟨_, _, _, blocked, _⟩ :=
    Classifier.classify_eq_eager unmarked undecided vendorShelf (some "/")
  obtain ⟨⟨_, _, _, uncounted⟩, _, _, _, bare, _⟩ :=
    Classifier.classify_eq_eager unmarked undecided vendorShelf none
  refine ⟨unmarked, undecided, ?_, ?_, ?_, ?_, ?_, ?_⟩
  · rw [(shelved new _ rfl).1 head read, if_neg vendor]
  · rw [counted, new]
    rfl
  · exact ((blocked new _ rfl).2 _ unreadable).1
  · exact ((blocked new _ rfl).2 _ unreadable).2
  · rw [bare new rfl]
    decide
  · rw [uncounted]
    rfl

end RoutineAtlas
