import RoutineAtlas.Origin.Classifier

/-
This file settles the loop over the rules. It loads the source only when a rule asks for it, and
the first rule that decides is the first one that would decide if the source were loaded at once.
-/

namespace RoutineAtlas

/-- A decision made afresh rests on a rule, or its source cannot be read. -/
inductive FreshDecision where
  | decided (rule : Rule) (origin : Origin)
  | unreadable
  deriving DecidableEq, Repr

/-- A source that cannot be read counts as a customer's. -/
def FreshDecision.answer : FreshDecision → Classification
  | .decided rule origin => { origin, ground := .rule rule }
  | .unreadable => { origin := .custom, ground := .unreadable }

/-- Only a decision by a rule is kept. -/
def FreshDecision.keep (decision : FreshDecision) (key : String) (cache : DecisionCache) :
    DecisionCache :=
  match decision with
  | .decided _ origin => cache.insert key origin
  | .unreadable => cache

/-- A fresh decision is not called a remembered one. -/
@[simp] theorem FreshDecision.isCached_answer (decision : FreshDecision) :
    decision.answer.isCached = false := by
  cases decision <;> rfl

/-- The source is loaded before any rule is asked. -/
def loadedSource (tree : FileTree) : Option PathName → Except AccessFault (Option String)
  | none => .ok none
  | some path => (inspectedHead tree path).map some

/-- A rule judges a routine without the mark, whose source is loaded. Only a rule that looks into
the source has to be able to read it. -/
def Rule.judge (source : Except AccessFault (Option String)) (discovered : List String)
    (key : String) (rule : Rule) : Option FreshDecision :=
  match source with
  | .ok content =>
      (rule.decide { marked := false, key, content, discovered }).map (.decided rule)
  | .error _ =>
      if rule.needsContent then some .unreadable
      else (rule.decide { marked := false, key, content := none, discovered }).map (.decided rule)

/-- The source is reached when a rule that looks into it is asked before another one decides. -/
def reachesSource (source : Except AccessFault (Option String)) (discovered : List String)
    (key : String) (rules : List Rule) : Bool :=
  (rules.find? fun rule =>
    rule.needsContent || (rule.judge source discovered key).isSome).any Rule.needsContent

theorem reachesSource_cons (source : Except AccessFault (Option String))
    (discovered : List String) (key : String) (rule : Rule) (others : List Rule) :
    reachesSource source discovered key (rule :: others) =
      (rule.needsContent || ((rule.judge source discovered key).isNone &&
        reachesSource source discovered key others)) := by
  cases needs : rule.needsContent with
  | true => simp [reachesSource, needs]
  | false => cases judged : rule.judge source discovered key <;> simp [reachesSource, needs, judged]

/-- A rule that does not look into the source says the same of every source. -/
theorem Rule.judge_of_free {rule : Rule} (free : rule.needsContent = false)
    (source : Except AccessFault (Option String)) (discovered : List String) (key : String)
    (content : Option String) :
    rule.judge source discovered key =
      (rule.decide { marked := false, key, content, discovered }).map (.decided rule) := by
  have looksAway : ∀ other, rule.decide { marked := false, key, content := other, discovered } =
      rule.decide { marked := false, key, content, discovered } := by
    intro other
    cases rule with
    | contentMarkers => exact Bool.noConfusion free
    | customMark | knownLead | shape | otherwise => rfl
  cases source with
  | ok other => rw [Rule.judge, looksAway other]
  | error fault =>
      simp only [Rule.judge, free, Bool.false_eq_true, if_false]
      rw [looksAway none]

/-- This counts one inspection when a source has been opened. -/
def Classifier.countIf (classifier : Classifier) (opens : Bool) : Classifier :=
  { classifier with inspections := classifier.inspections + opens.toNat }

@[simp] theorem Classifier.countIf_false (classifier : Classifier) :
    classifier.countIf false = classifier := rfl

@[simp] theorem Classifier.countIf_cache (classifier : Classifier) (opens : Bool) :
    (classifier.countIf opens).cache = classifier.cache := rfl

@[simp] theorem Classifier.countIf_discovered (classifier : Classifier) (opens : Bool) :
    (classifier.countIf opens).discovered = classifier.discovered := rfl

@[simp] theorem Classifier.countIf_state (classifier : Classifier) (opens : Bool) :
    (classifier.countIf opens).state = classifier.state := rfl

/-- A decision is remembered and answered. When no rule decides, the loop falls through. -/
def Classifier.settle (classifier : Classifier) (key : String) :
    Option FreshDecision → Classification × Classifier
  | none => ({ origin := .custom, ground := .rule .otherwise }, classifier)
  | some (.decided rule origin) => classifier.remember key rule origin
  | some .unreadable => ({ origin := .custom, ground := .unreadable }, classifier)

/-- Once the source is loaded, the loop is a search for the first rule that decides. -/
theorem Classifier.ask_loaded (classifier : Classifier) (tree : FileTree) (key : String)
    (file : Option PathName) (content : Option String) (rules : List Rule) :
    classifier.ask tree key file (some content) rules =
      classifier.settle key
        (rules.findSome? (Rule.judge (.ok content) classifier.discovered key)) := by
  induction rules with
  | nil => rfl
  | cons rule others inductionHypothesis =>
      have load : classifier.load tree file (some content) rule =
          (.ok (some content), classifier) := by
        simp [Classifier.load]
      rw [Classifier.ask, load, List.findSome?_cons]
      dsimp only [Rule.judge, Option.join_some, Classifier.question]
      cases rule.decide { marked := false, key, content, discovered := classifier.discovered } with
      | some origin => rfl
      | none => exact inductionHypothesis

/-- When a rule has loaded the source, it goes on as if the source had been there before. -/
theorem Classifier.ask_of_load {classifier inspected : Classifier} {tree : FileTree}
    {file : Option PathName} {content : Option String} {rule : Rule}
    (load : classifier.load tree file none rule = (.ok (some content), inspected)) (key : String)
    (others : List Rule) :
    classifier.ask tree key file none (rule :: others) =
      inspected.ask tree key file (some content) (rule :: others) := by
  have again : inspected.load tree file (some content) rule = (.ok (some content), inspected) := by
    simp [Classifier.load]
  rw [Classifier.ask, load, Classifier.ask, again]

/-- A rule that looks into the source opens the file, whatever it decides then. -/
theorem Classifier.ask_of_needsContent {rule : Rule} (needs : rule.needsContent = true)
    (classifier : Classifier) (tree : FileTree) (key : String) (file : Option PathName)
    (others : List Rule) :
    classifier.ask tree key file none (rule :: others) =
      (classifier.countIf file.isSome).settle key
        ((rule :: others).findSome?
          (Rule.judge (loadedSource tree file) classifier.discovered key)) := by
  cases file with
  | none =>
      have load : classifier.load tree none none rule = (.ok (some none), classifier) := by
        simp [Classifier.load, needs]
      rw [Classifier.ask_of_load load, Classifier.ask_loaded]
      rfl
  | some path =>
      cases read : inspectedHead tree path with
      | error fault =>
          have load : classifier.load tree (some path) none rule =
              (.error fault, classifier.countIf true) := by
            simp [Classifier.load, needs, read, Except.map, Classifier.countIf]
          simp [Classifier.ask, load, loadedSource, read, Except.map, Rule.judge, needs,
            Classifier.settle]
      | ok head =>
          have load : classifier.load tree (some path) none rule =
              (.ok (some (some head)), classifier.countIf true) := by
            simp [Classifier.load, needs, read, Except.map, Classifier.countIf]
          rw [Classifier.ask_of_load load, Classifier.ask_loaded, loadedSource, read]
          rfl

/-- A rule that needs no source leaves the question to the others or is remembered. -/
theorem Classifier.ask_of_free {rule : Rule} (free : rule.needsContent = false)
    (classifier : Classifier) (tree : FileTree) (key : String) (file : Option PathName)
    (others : List Rule) :
    classifier.ask tree key file none (rule :: others) =
      match rule.decide (classifier.question key none) with
      | some origin => classifier.remember key rule origin
      | none => classifier.ask tree key file none others := by
  have load : classifier.load tree file none rule = (.ok none, classifier) := by
    simp [Classifier.load, free]
  rw [Classifier.ask, load]
  rfl

/-- The loop decides as if the source had been loaded at once. It opens the file only when a rule
that looks into it is reached. -/
theorem Classifier.ask_eq_settle (classifier : Classifier) (tree : FileTree) (key : String)
    (file : Option PathName) (rules : List Rule) :
    classifier.ask tree key file none rules =
      (classifier.countIf (file.isSome &&
        reachesSource (loadedSource tree file) classifier.discovered key rules)).settle key
          (rules.findSome? (Rule.judge (loadedSource tree file) classifier.discovered key)) := by
  induction rules with
  | nil => simp [Classifier.ask, reachesSource, Classifier.settle]
  | cons rule others inductionHypothesis =>
      rw [reachesSource_cons]
      cases needs : rule.needsContent with
      -- From this rule on the source is loaded, whatever the rules say.
      | true => rw [Classifier.ask_of_needsContent needs, Bool.true_or, Bool.and_true]
      -- The rule is asked without the source, and it would say the same with it.
      | false =>
          have judged := Rule.judge_of_free needs (loadedSource tree file) classifier.discovered key
            none
          rw [Classifier.ask_of_free needs, List.findSome?_cons, judged, Classifier.question]
          cases rule.decide
              { marked := false, key, content := none, discovered := classifier.discovered } with
          | some origin => simp [Classifier.settle]
          | none => simpa using inductionHypothesis

/-- When one of the rules decides, whatever would be asked after them does not matter. -/
theorem Classifier.ask_append {classifier : Classifier} {tree : FileTree} {key : String}
    {file : Option PathName} {rules : List Rule} {decision : FreshDecision}
    (decided : rules.findSome? (Rule.judge (loadedSource tree file) classifier.discovered key) =
      some decision) (more : List Rule) :
    classifier.ask tree key file none (rules ++ more) =
      classifier.ask tree key file none rules := by
  have ends : (rules.find? fun rule => rule.needsContent ||
      (rule.judge (loadedSource tree file) classifier.discovered key).isSome).isSome = true := by
    obtain ⟨rule, asked, judged⟩ := List.exists_of_findSome?_eq_some decided
    exact List.find?_isSome.mpr ⟨rule, asked, by simp [judged]⟩
  have reaches : reachesSource (loadedSource tree file) classifier.discovered key (rules ++ more) =
      reachesSource (loadedSource tree file) classifier.discovered key rules := by
    rw [reachesSource, reachesSource, List.find?_append, Option.or_of_isSome ends]
  rw [Classifier.ask_eq_settle, Classifier.ask_eq_settle, reaches, List.findSome?_append, decided]
  rfl

end RoutineAtlas
