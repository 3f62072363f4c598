import RoutineAtlas.Proofs.Origin.RuleLoop

/-
This file settles what one classification does. Without the mark and without an earlier decision
the leads are learned first, and then the lead, the source or the shape of the name decides.
-/

namespace RoutineAtlas

/-- A known lead needs no source, and without a source the shape of the key decides. -/
def freshDecision (tree : FileTree) (discovered : List String) (key : String)
    (file : Option PathName) : FreshDecision :=
  if beginsWithKnownLead key discovered then .decided .knownLead .standard
  else match file with
    | none =>
        if hasVendorShape key.toList then .decided .shape .standard
        else .decided .otherwise .custom
    | some path =>
        match inspectedHead tree path with
        | .error _ => .unreadable
        | .ok head =>
            .decided .contentMarkers
              (if (TextVerdict.of head).isStandard then .standard else .custom)

/-- The source is opened unless the lead is known. -/
def opensSource (discovered : List String) (key : String) (file : Option PathName) : Bool :=
  file.isSome && !beginsWithKnownLead key discovered

/-- The head of a source that can be read is inspected in upper case. -/
theorem inspectedHead_of_read {tree : FileTree} {path : PathName} {content : Bytes}
    (readable : tree.read path = .ok content) :
    inspectedHead tree path = .ok (upperCase (sourceHead inspectedLines content)) := by
  rw [inspectedHead, FileTree.readHead, readable]
  rfl

/-- What a known lead decides is never custom. -/
theorem freshDecision_of_known {tree : FileTree} {discovered : List String} {key : String}
    (known : beginsWithKnownLead key discovered = true) (file : Option PathName) :
    freshDecision tree discovered key file = .decided .knownLead .standard := by
  simp [freshDecision, known]

/-- The tree matters only through the head of the file. -/
theorem freshDecision_congr {tree other : FileTree} {file : Option PathName}
    (same : ∀ path ∈ file, inspectedHead tree path = inspectedHead other path)
    (discovered : List String) (key : String) :
    freshDecision tree discovered key file = freshDecision other discovered key file := by
  cases file with
  | none => rfl
  | some path => simp only [freshDecision, same path rfl]

/-- The first rule that decides makes the fresh decision. -/
theorem findSome?_judge_all (tree : FileTree) (discovered : List String) (key : String)
    (file : Option PathName) :
    Rule.all.findSome? (Rule.judge (loadedSource tree file) discovered key) =
      some (freshDecision tree discovered key file) := by
  by_cases known : beginsWithKnownLead key discovered = true
  · cases source : loadedSource tree file <;>
      simp [Rule.all, Rule.judge, Rule.decide, Rule.needsContent, known, freshDecision]
  · cases file with
    | none =>
        by_cases shaped : hasVendorShape key.toList = true <;>
          simp [Rule.all, Rule.judge, Rule.decide, List.findSome?_cons, known, freshDecision,
            loadedSource, shaped]
    | some path =>
        cases read : inspectedHead tree path <;>
          simp [Rule.all, Rule.judge, Rule.decide, Rule.needsContent, List.findSome?_cons, known,
            freshDecision, loadedSource, read, Except.map]

/-- All rules together reach the source unless the lead is known. -/
theorem reachesSource_all (source : Except AccessFault (Option String))
    (discovered : List String) (key : String) :
    reachesSource source discovered key Rule.all = !beginsWithKnownLead key discovered := by
  have unmarked : Rule.customMark.judge source discovered key = none :=
    Rule.judge_of_free rfl source discovered key none
  have lead : Rule.knownLead.judge source discovered key =
      (if beginsWithKnownLead key discovered then some Origin.standard else none).map
        (.decided .knownLead) :=
    Rule.judge_of_free rfl source discovered key none
  rw [Rule.all, reachesSource_cons, reachesSource_cons, reachesSource_cons, unmarked, lead]
  cases beginsWithKnownLead key discovered <;> rfl

/-- The rules, asked in turn, decide as the fresh decision says. -/
theorem Classifier.ask_all (classifier : Classifier) (tree : FileTree) (key : String)
    (file : Option PathName) :
    classifier.ask tree key file none Rule.all =
      (classifier.countIf (opensSource classifier.discovered key file)).settle key
        (some (freshDecision tree classifier.discovered key file)) := by
  rw [Classifier.ask_eq_settle, findSome?_judge_all, reachesSource_all, opensSource]

/-- An open gate lets the leads be learned. -/
theorem Classifier.discover_of_notStarted {classifier : Classifier}
    (waiting : classifier.state = .notStarted) (tree : FileTree) :
    classifier.discover tree =
      (true, { classifier with
        state := .completed
        discovered := (classifier.learnLeads tree).found.foldr insertName classifier.discovered
        inspections := classifier.inspections + (classifier.learnLeads tree).inspections }) := by
  simp [Classifier.discover, waiting, GateState.enter]

/-- Behind a gate that is not open the tree is not looked at. -/
theorem Classifier.discover_of_ne {classifier : Classifier}
    (started : classifier.state ≠ .notStarted) (tree : FileTree) :
    classifier.discover tree = (false, { classifier with state := .completed }) := by
  cases state : classifier.state with
  | notStarted => exact absurd state started
  | inProgress => simp [Classifier.discover, state, GateState.enter]
  | completed => simp [Classifier.discover, state, GateState.enter]

/-- Behind a closed gate nothing is learned any more. -/
theorem Classifier.discover_of_completed {classifier : Classifier}
    (closed : classifier.state = .completed) (tree : FileTree) :
    classifier.discover tree = (false, classifier) := by
  rw [Classifier.discover_of_ne (by simp [closed]), ← closed]

@[simp] theorem Classifier.discover_cache (classifier : Classifier) (tree : FileTree) :
    (classifier.discover tree).2.cache = classifier.cache := by
  rw [Classifier.discover]
  split <;> rfl

@[simp] theorem Classifier.discover_state (classifier : Classifier) (tree : FileTree) :
    (classifier.discover tree).2.state = .completed := by
  rw [Classifier.discover]
  cases classifier.state <;> rfl

/-- For a key without a decision the new one is remembered and answered. -/
theorem Classifier.remember_of_undecided {classifier : Classifier} {key : String}
    (undecided : classifier.cache.get? key = none) (rule : Rule) (origin : Origin) :
    classifier.remember key rule origin =
      ({ origin, ground := .rule rule },
        { classifier with cache := classifier.cache.insert key origin }) := by
  simp [Classifier.remember, DecisionCache.get?_insert_self, undecided]

/-- A decision is repeated as it stands, and the tree is not looked at. -/
theorem Classifier.classify_of_decided {classifier : Classifier} {name : RoutineName}
    {origin : Origin} (unmarked : name.isMarked = false)
    (decided : classifier.cache.get? name.key = some origin) (tree : FileTree)
    (file : Option PathName) :
    classifier.classify tree name file = ({ origin, ground := .remembered }, classifier) := by
  simp [Classifier.classify, unmarked, decided]

/-- This classifier has kept a fresh decision on the key. -/
def Classifier.keep (classifier : Classifier) (key : String) (decision : FreshDecision) :
    Classifier :=
  { classifier with cache := decision.keep key classifier.cache }

@[simp] theorem Classifier.keep_cache (classifier : Classifier) (key : String)
    (decision : FreshDecision) :
    (classifier.keep key decision).cache = decision.keep key classifier.cache := rfl

@[simp] theorem Classifier.keep_discovered (classifier : Classifier) (key : String)
    (decision : FreshDecision) :
    (classifier.keep key decision).discovered = classifier.discovered := rfl

@[simp] theorem Classifier.keep_state (classifier : Classifier) (key : String)
    (decision : FreshDecision) : (classifier.keep key decision).state = classifier.state := rfl

/-- For a key without a decision a fresh one is answered and kept. -/
theorem Classifier.settle_of_undecided {classifier : Classifier} {key : String}
    (undecided : classifier.cache.get? key = none) (decision : FreshDecision) :
    classifier.settle key (some decision) = (decision.answer, classifier.keep key decision) := by
  cases decision with
  | unreadable => rfl
  | decided rule origin => exact Classifier.remember_of_undecided undecided rule origin

/-- Without a decision the leads are learned, and then all rules are asked. -/
theorem Classifier.classify_of_ask {classifier : Classifier} {name : RoutineName}
    (unmarked : name.isMarked = false) (undecided : classifier.cache.get? name.key = none)
    (tree : FileTree) (file : Option PathName) :
    classifier.classify tree name file =
      (classifier.discover tree).2.ask tree name.key file none Rule.all := by
  simp [Classifier.classify, unmarked, undecided]

/-- Without a decision the leads are learned, and then a fresh decision is made and kept. -/
theorem Classifier.classify_of_undecided {classifier : Classifier} {name : RoutineName}
    (unmarked : name.isMarked = false) (undecided : classifier.cache.get? name.key = none)
    (tree : FileTree) (file : Option PathName) :
    classifier.classify tree name file =
      let ready := (classifier.discover tree).2
      let decision := freshDecision tree ready.discovered name.key file
      (decision.answer,
        (ready.countIf (opensSource ready.discovered name.key file)).keep name.key decision) := by
  have still : ((classifier.discover tree).2.countIf
      (opensSource (classifier.discover tree).2.discovered name.key file)).cache.get?
        name.key = none := by
    rw [Classifier.countIf_cache, Classifier.discover_cache, undecided]
  rw [Classifier.classify_of_ask unmarked undecided, Classifier.ask_all,
    Classifier.settle_of_undecided still]

/-- A name is custom by its mark, or its decision is repeated, or a fresh decision is made. -/
theorem Classifier.classify_cases (classifier : Classifier) (tree : FileTree)
    (name : RoutineName) (file : Option PathName) :
    (name.isMarked = true ∧ classifier.classify tree name file =
      ({ origin := .custom, ground := .rule .customMark }, classifier)) ∨
    (name.isMarked = false ∧ ∃ origin, classifier.cache.get? name.key = some origin ∧
      classifier.classify tree name file = ({ origin, ground := .remembered }, classifier)) ∨
    (name.isMarked = false ∧ classifier.cache.get? name.key = none ∧
      classifier.classify tree name file =
        let ready := (classifier.discover tree).2
        let decision := freshDecision tree ready.discovered name.key file
        (decision.answer,
          (ready.countIf (opensSource ready.discovered name.key file)).keep
            name.key decision)) := by
  cases marked : name.isMarked with
  | true => exact Or.inl ⟨rfl, Classifier.classify_of_isMarked marked⟩
  | false =>
      cases known : classifier.cache.get? name.key with
      | some origin =>
          have repeated := Classifier.classify_of_decided marked known tree file
          exact Or.inr (Or.inl ⟨rfl, origin, rfl, repeated⟩)
      | none =>
          have afresh := Classifier.classify_of_undecided marked known tree file
          exact Or.inr (Or.inr ⟨rfl, rfl, afresh⟩)

end RoutineAtlas
