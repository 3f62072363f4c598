import RoutineAtlas.Files.Scan
import RoutineAtlas.Files.SourceHead
import RoutineAtlas.Origin.DecisionCache
import RoutineAtlas.Origin.Gate
import RoutineAtlas.Origin.Rule
import RoutineAtlas.Text.NameSet

/-
This file classifies routines. The classifier remembers its decisions, and before its first
decision it learns the leads of the vendor's names from the standard tree.
-/

namespace RoutineAtlas

/-- An answer rests on a rule, on an earlier decision, or on a source that cannot be read. -/
inductive Ground where
  | rule (rule : Rule)
  | remembered
  | unreadable
  deriving DecidableEq, Repr

/-- This is the ground's name in answers. -/
def Ground.label : Ground → String
  | .rule applied => applied.label
  | .remembered => "cache"
  | .unreadable => "unreadable"

/-- A classification tells the origin and its ground. -/
structure Classification where
  origin : Origin
  ground : Ground
  deriving DecidableEq, Repr

/-- A classification is cached when it repeats an earlier decision. -/
def Classification.isCached (classification : Classification) : Bool :=
  classification.ground == .remembered

/-- The classifier keeps its decisions, the discovered leads and the number of inspections. -/
structure Classifier where
  standardRoot : Option PathName
  discoveryDepth : Nat
  cache : DecisionCache
  discovered : List String
  state : GateState
  inspections : Nat

/-- A new classifier has decided and discovered nothing. -/
def Classifier.new (standardRoot : Option PathName) (discoveryDepth : Nat) : Classifier where
  standardRoot := standardRoot
  discoveryDepth := discoveryDepth
  cache := .empty
  discovered := []
  state := .notStarted
  inspections := 0

/-- This many lines of a source are inspected. -/
def inspectedLines : Nat := 200

/-- The head of a source is inspected in upper case. -/
def inspectedHead (tree : FileTree) (path : PathName) : Except AccessFault String :=
  (tree.readHead inspectedLines path).map upperCase

/-- The discovery keeps the leads found so far and the number of its inspections. -/
structure LeadSearch where
  found : List String
  inspections : Nat
  deriving DecidableEq, Repr

/-- A source of the vendor's tree may show a lead by its stem, if that is text. -/
def candidateLead (path : PathName) : Option String := do
  let stem ← (pathStem? path).bind readUtf8
  if hasMark stem.toList then none else leadOf stem.toList

/-- A source is the vendor's when it can be read and no customer's mark is in it. -/
def readsAsStandard (tree : FileTree) (path : PathName) : Bool :=
  match inspectedHead tree path with
  | .ok head => (TextVerdict.of head).isStandard
  | .error _ => false

/-- A source is inspected only when its lead is new. -/
def LeadSearch.visit (tree : FileTree) (search : LeadSearch) (path : PathName) : LeadSearch :=
  match candidateLead path with
  | none => search
  | some lead =>
      if search.found.contains lead || beginsWithAny builtinLeads lead.toList then search
      else
        { found := if readsAsStandard tree path then insertName lead search.found else search.found
          inspections := search.inspections + 1 }

/-- The sources are visited in the order of the walk. -/
def LeadSearch.over (tree : FileTree) (paths : List PathName) : LeadSearch :=
  paths.foldl (LeadSearch.visit tree) { found := [], inspections := 0 }

/-- Without a standard root there is nothing to learn. -/
def Classifier.learnLeads (classifier : Classifier) (tree : FileTree) : LeadSearch :=
  match classifier.standardRoot with
  | none => { found := [], inspections := 0 }
  | some root =>
      LeadSearch.over tree ((ScanPlan.forSources classifier.discoveryDepth).scan tree root).files

/-- The leads are learned at most once, and the answer tells whether this was the time. -/
def Classifier.discover (classifier : Classifier) (tree : FileTree) : Bool × Classifier :=
  match classifier.state.enter fun _ => classifier.learnLeads tree with
  | (none, state) => (false, { classifier with state })
  | (some search, state) =>
      (true, { classifier with
        state
        discovered := search.found.foldr insertName classifier.discovered
        inspections := classifier.inspections + search.inspections })

/-- A decision is remembered, and the one that is remembered is the answer. -/
def Classifier.remember (classifier : Classifier) (key : String) (rule : Rule)
    (origin : Origin) : Classification × Classifier :=
  let cache := classifier.cache.insert key origin
  ({ origin := (cache.get? key).getD origin, ground := .rule rule }, { classifier with cache })

/-- This is what the rules see of a routine without the mark. -/
def Classifier.question (classifier : Classifier) (key : String) (content : Option String) :
    RuleQuestion where
  marked := false
  key := key
  content := content
  discovered := classifier.discovered

/-- The source is loaded once, when the first rule asks for it. -/
def Classifier.load (classifier : Classifier) (tree : FileTree) (file : Option PathName)
    (loaded : Option (Option String)) (rule : Rule) :
    Except AccessFault (Option (Option String)) × Classifier :=
  if rule.needsContent && loaded.isNone then
    match file with
    | none => (.ok (some none), classifier)
    | some path =>
        ((inspectedHead tree path).map fun head => some (some head),
          { classifier with inspections := classifier.inspections + 1 })
  else (.ok loaded, classifier)

/-- The rules are asked in turn until one decides. -/
def Classifier.ask (classifier : Classifier) (tree : FileTree) (key : String)
    (file : Option PathName) (loaded : Option (Option String)) :
    List Rule → Classification × Classifier
  | [] => ({ origin := .custom, ground := .rule .otherwise }, classifier)
  | rule :: others =>
      match classifier.load tree file loaded rule with
      | (.error _, inspected) => ({ origin := .custom, ground := .unreadable }, inspected)
      | (.ok content, inspected) =>
          match rule.decide (inspected.question key content.join) with
          | some origin => inspected.remember key rule origin
          | none => inspected.ask tree key file content others

/-- A routine with the mark is custom, whatever else is known. -/
def Classifier.classify (classifier : Classifier) (tree : FileTree) (name : RoutineName)
    (file : Option PathName) : Classification × Classifier :=
  if name.isMarked then ({ origin := .custom, ground := .rule .customMark }, classifier)
  else match classifier.cache.get? name.key with
    | some origin => ({ origin, ground := .remembered }, classifier)
    | none => (classifier.discover tree).2.ask tree name.key file none Rule.all

/-- A typed name is read first, and a name alone has no file. -/
def Classifier.classifyName (classifier : Classifier) (tree : FileTree) (typed : String) :
    Except Fault Classification × Classifier :=
  match RoutineName.parse typed with
  | .error fault => (.error fault, classifier)
  | .ok name =>
      let (classification, later) := classifier.classify tree name none
      (.ok classification, later)

/-- The decisions are forgotten, what was discovered stays. -/
def Classifier.clearCache (classifier : Classifier) : Classifier :=
  { classifier with cache := .empty }

/-- The statistics of a classifier. -/
structure ClassifierCounts where
  cachedDecisions : Nat
  contentInspections : Nat
  discoveredLeads : List String
  discovery : GateState
  deriving DecidableEq, Repr

/-- These are the statistics of a classifier at this moment. -/
def Classifier.counts (classifier : Classifier) : ClassifierCounts where
  cachedDecisions := classifier.cache.size
  contentInspections := classifier.inspections
  discoveredLeads := classifier.discovered
  discovery := classifier.state

/-- A routine with the mark changes nothing. -/
theorem Classifier.classify_of_isMarked {classifier : Classifier} {tree : FileTree}
    {name : RoutineName} {file : Option PathName} (marked : name.isMarked = true) :
    classifier.classify tree name file =
      ({ origin := .custom, ground := .rule .customMark }, classifier) := by
  simp [Classifier.classify, marked]

end RoutineAtlas
