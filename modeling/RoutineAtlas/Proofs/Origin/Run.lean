import RoutineAtlas.Proofs.Origin.Decision
import RoutineAtlas.Proofs.Origin.Lead
import RoutineAtlas.Proofs.Routine.Name

/-
This file follows a classifier through any calls while the tree changes between them. What a new
classifier satisfies stays true: the leads are learned once and before the first decision is kept.
-/

namespace RoutineAtlas

/-- These calls are served by a classifier. -/
inductive ClassifierCall where
  | classify (name : RoutineName) (file : Option PathName)
  | classifyName (typed : String)
  | discover
  | clearCache
  deriving DecidableEq, Repr

/-- Every call has its reply. -/
inductive ClassifierReply where
  | classified (classification : Classification)
  | refused (fault : Fault)
  | discovered (learnedNow : Bool)
  | cleared
  deriving DecidableEq, Repr

/-- This is the routine with its file that a call asks for. -/
def ClassifierCall.subject? : ClassifierCall → Option (RoutineName × Option PathName)
  | .classify name file => some (name, file)
  | .classifyName typed => (RoutineName.parse typed).toOption.map fun name => (name, none)
  | .discover => none
  | .clearCache => none

/-- A call is served on the tree as it is at that moment. -/
def Classifier.serve (classifier : Classifier) (tree : FileTree) :
    ClassifierCall → ClassifierReply × Classifier
  | .classify name file =>
      let (classification, later) := classifier.classify tree name file
      (.classified classification, later)
  | .classifyName typed =>
      match classifier.classifyName tree typed with
      | (.ok classification, later) => (.classified classification, later)
      | (.error fault, later) => (.refused fault, later)
  | .discover =>
      let (learnedNow, later) := classifier.discover tree
      (.discovered learnedNow, later)
  | .clearCache => (.cleared, classifier.clearCache)

/-- A moment of a run is a call and the tree that it meets. -/
structure Moment where
  tree : FileTree
  call : ClassifierCall

/-- This is the classifier after a run. -/
def Classifier.after (classifier : Classifier) (run : List Moment) : Classifier :=
  run.foldl (fun current moment => (current.serve moment.tree moment.call).2) classifier

@[simp] theorem Classifier.after_nil (classifier : Classifier) : classifier.after [] = classifier :=
  rfl

@[simp] theorem Classifier.after_cons (classifier : Classifier) (moment : Moment)
    (run : List Moment) :
    classifier.after (moment :: run) =
      (classifier.serve moment.tree moment.call).2.after run := rfl

theorem Classifier.after_append (classifier : Classifier) (first second : List Moment) :
    classifier.after (first ++ second) = (classifier.after first).after second := by
  rw [Classifier.after, List.foldl_append]
  rfl

/-- A call that asks for a routine classifies it. -/
theorem Classifier.serve_of_subject {call : ClassifierCall} {name : RoutineName}
    {file : Option PathName} (subject : call.subject? = some (name, file)) (classifier : Classifier)
    (tree : FileTree) :
    classifier.serve tree call =
      (.classified (classifier.classify tree name file).1,
        (classifier.classify tree name file).2) := by
  cases call with
  | classify asked source =>
      simp only [ClassifierCall.subject?, Option.some.injEq, Prod.mk.injEq] at subject
      rw [← subject.1, ← subject.2]
      rfl
  | classifyName typed =>
      cases read : RoutineName.parse typed with
      | error fault => simp [ClassifierCall.subject?, read, Except.toOption] at subject
      | ok asked =>
          simp only [ClassifierCall.subject?, read, Except.toOption, Option.map_some,
            Option.some.injEq, Prod.mk.injEq] at subject
          rw [← subject.1, ← subject.2, Classifier.serve, Classifier.classifyName, read]
  | discover => simp [ClassifierCall.subject?] at subject
  | clearCache => simp [ClassifierCall.subject?] at subject

/-- A call classifies a routine, refuses a name, learns the leads or forgets the decisions. -/
theorem Classifier.serve_cases (classifier : Classifier) (tree : FileTree)
    (call : ClassifierCall) :
    (∃ name file, call.subject? = some (name, file) ∧
      (classifier.serve tree call).2 = (classifier.classify tree name file).2) ∨
    (call.subject? = none ∧ call ≠ .discover ∧ call ≠ .clearCache ∧
      (classifier.serve tree call).2 = classifier) ∨
    (call = .discover ∧ (classifier.serve tree call).2 = (classifier.discover tree).2) ∨
    (call = .clearCache ∧ (classifier.serve tree call).2 = classifier.clearCache) := by
  cases subject : call.subject? with
  | some asked =>
      left
      exact ⟨asked.1, asked.2, rfl, by rw [Classifier.serve_of_subject subject]⟩
  | none =>
      right
      cases call with
      | classify name file => simp [ClassifierCall.subject?] at subject
      | classifyName typed =>
          cases read : RoutineName.parse typed with
          | ok name => simp [ClassifierCall.subject?, read, Except.toOption] at subject
          | error fault =>
              left
              refine ⟨rfl, by simp, by simp, ?_⟩
              rw [Classifier.serve, Classifier.classifyName, read]
      | discover => exact Or.inr (Or.inl ⟨rfl, rfl⟩)
      | clearCache => exact Or.inr (Or.inr ⟨rfl, rfl⟩)

/-- What is true of a classifier at any moment. The leads are there before the first decision, so
that no decision has to be taken back. -/
structure Classifier.Sound (classifier : Classifier) : Prop where
  learnedFirst : 0 < classifier.cache.size → classifier.state = .completed
  leads : ∀ lead ∈ classifier.discovered, IsLearnedLead lead
  plain : ∀ key origin, classifier.cache.get? key = some origin →
    ¬ customMark.toList <+: key.toList
  standard : ∀ key, beginsWithKnownLead key classifier.discovered = true →
    classifier.cache.get? key ≠ some .custom

theorem Classifier.Sound.new (standardRoot : Option PathName) (depth : Nat) :
    (Classifier.new standardRoot depth).Sound where
  learnedFirst := by
    intro decided
    exact absurd decided (Nat.lt_irrefl 0)
  leads := by
    intro lead member
    exact absurd member List.not_mem_nil
  plain := by
    intro key origin decided
    simp [Classifier.new, DecisionCache.get?_empty] at decided
  standard := by
    intro key known
    simp [Classifier.new, DecisionCache.get?_empty]

theorem Classifier.Sound.clearCache {classifier : Classifier} (sound : classifier.Sound) :
    classifier.clearCache.Sound where
  learnedFirst := by
    intro decided
    exact absurd decided (Nat.lt_irrefl 0)
  leads := sound.leads
  plain := by
    intro key origin decided
    simp [Classifier.clearCache, DecisionCache.get?_empty] at decided
  standard := by
    intro key known
    simp [Classifier.clearCache, DecisionCache.get?_empty]

/-- New leads cannot contradict a decision, because none has been made when they are learned. -/
theorem Classifier.Sound.discover {classifier : Classifier} (sound : classifier.Sound)
    (tree : FileTree) : (classifier.discover tree).2.Sound := by
  by_cases waiting : classifier.state = .notStarted
  · have undecided : ∀ key origin, classifier.cache.get? key ≠ some origin := by
      intro key origin decided
      have closed := sound.learnedFirst (DecisionCache.size_pos_of_get? decided)
      rw [waiting] at closed
      exact GateState.noConfusion closed
    rw [Classifier.discover_of_notStarted waiting]
    refine ⟨fun _ => rfl, ?_, sound.plain, fun key _ => undecided key .custom⟩
    intro lead member
    obtain now | before := mem_foldr_insertName.mp member
    · exact Classifier.isLearnedLead_of_mem_learnLeads now
    · exact sound.leads lead before
  · rw [Classifier.discover_of_ne waiting]
    exact ⟨fun _ => rfl, sound.leads, sound.plain, sound.standard⟩

theorem Classifier.Sound.countIf {classifier : Classifier} (sound : classifier.Sound)
    (opens : Bool) : (classifier.countIf opens).Sound :=
  ⟨sound.learnedFirst, sound.leads, sound.plain, sound.standard⟩

/-- A fresh decision agrees with the leads by which it was made. -/
theorem Classifier.Sound.keep {classifier : Classifier} (sound : classifier.Sound)
    (closed : classifier.state = .completed) {key : String}
    (unmarked : ¬ customMark.toList <+: key.toList) (tree : FileTree) (file : Option PathName) :
    (classifier.keep key (freshDecision tree classifier.discovered key file)).Sound := by
  cases decision : freshDecision tree classifier.discovered key file with
  | unreadable => exact ⟨sound.learnedFirst, sound.leads, sound.plain, sound.standard⟩
  | decided rule origin =>
      refine ⟨fun _ => closed, sound.leads, ?_, ?_⟩
      · intro other found decided
        obtain before | ⟨same, _⟩ := DecisionCache.get?_insert_eq_some decided
        · exact sound.plain other found before
        · rw [same]
          exact unmarked
      · intro other known decided
        obtain before | ⟨same, custom⟩ := DecisionCache.get?_insert_eq_some decided
        · exact sound.standard other known before
        · subst same
          change beginsWithKnownLead other classifier.discovered = true at known
          rw [freshDecision_of_known known, FreshDecision.decided.injEq, ← custom] at decision
          exact Origin.noConfusion decision.2

theorem Classifier.Sound.classify {classifier : Classifier} (sound : classifier.Sound)
    (tree : FileTree) (name : RoutineName) (file : Option PathName) :
    (classifier.classify tree name file).2.Sound := by
  obtain ⟨_, answer⟩ | ⟨_, _, _, answer⟩ | ⟨unmarked, _, answer⟩ :=
    classifier.classify_cases tree name file
  · rw [answer]
    exact sound
  · rw [answer]
    exact sound
  · rw [answer]
    have ready := (sound.discover tree).countIf
      (opensSource (classifier.discover tree).2.discovered name.key file)
    exact ready.keep (classifier.discover_state tree) (RoutineName.not_mark_key unmarked) tree file

/-- Every call keeps what is true of a classifier. -/
theorem Classifier.Sound.serve {classifier : Classifier} (sound : classifier.Sound)
    (tree : FileTree) (call : ClassifierCall) : (classifier.serve tree call).2.Sound := by
  obtain ⟨name, file, _, later⟩ | ⟨_, _, _, later⟩ | ⟨_, later⟩ | ⟨_, later⟩ :=
    classifier.serve_cases tree call
  · rw [later]
    exact sound.classify tree name file
  · rw [later]
    exact sound
  · rw [later]
    exact sound.discover tree
  · rw [later]
    exact sound.clearCache

/-- Every run keeps what is true of a classifier. -/
theorem Classifier.Sound.after {classifier : Classifier} (sound : classifier.Sound)
    (run : List Moment) : (classifier.after run).Sound := by
  induction run generalizing classifier with
  | nil => exact sound
  | cons moment rest inductionHypothesis =>
      exact inductionHypothesis (sound.serve moment.tree moment.call)

/-- The standard tree is walked by a call that has to learn the leads. -/
def Classifier.walksFor (classifier : Classifier) (tree : FileTree) (call : ClassifierCall) :
    Bool :=
  match call.subject? with
  | some (name, _) =>
      !name.isMarked && (classifier.cache.get? name.key).isNone && (classifier.discover tree).1
  | none => call == .discover && (classifier.discover tree).1

/-- This is the number of calls in a run for which the standard tree is walked. -/
def Classifier.walks (classifier : Classifier) : List Moment → Nat
  | [] => 0
  | moment :: rest =>
      (classifier.walksFor moment.tree moment.call).toNat +
        (classifier.serve moment.tree moment.call).2.walks rest

/-- This is the file that a call hands to the classifier. -/
def ClassifierCall.file? (call : ClassifierCall) : Option PathName :=
  call.subject?.bind Prod.snd

/-- A call for which nothing is walked reads nothing but the head of its file. -/
theorem Classifier.serve_congr {classifier : Classifier} {tree other : FileTree}
    {call : ClassifierCall} (walks : classifier.walksFor tree call = false)
    (same : ∀ path ∈ call.file?, inspectedHead tree path = inspectedHead other path) :
    classifier.serve tree call = classifier.serve other call := by
  have alike (learned : (classifier.discover tree).1 = false) :
      classifier.discover tree = classifier.discover other := by
    have started : classifier.state ≠ .notStarted := by
      intro waiting
      rw [Classifier.discover_of_notStarted waiting] at learned
      exact Bool.noConfusion learned
    rw [Classifier.discover_of_ne started, Classifier.discover_of_ne started]
  cases subject : call.subject? with
  | some asked =>
      obtain ⟨name, file⟩ := asked
      have heads : ∀ path ∈ file, inspectedHead tree path = inspectedHead other path := by
        intro path given
        apply same path
        rw [ClassifierCall.file?, subject]
        exact given
      have classified :
          classifier.classify tree name file = classifier.classify other name file := by
        obtain ⟨marked, answer⟩ | ⟨unmarked, origin, decided, answer⟩ |
            ⟨unmarked, undecided, answer⟩ := classifier.classify_cases tree name file
        · rw [answer, Classifier.classify_of_isMarked marked]
        · rw [answer, Classifier.classify_of_decided unmarked decided]
        · simp only [Classifier.walksFor, subject, unmarked, undecided, Bool.not_false,
            Option.isNone_none, Bool.true_and] at walks
          rw [answer, Classifier.classify_of_undecided unmarked undecided, alike walks]
          simp only [freshDecision_congr heads]
      rw [Classifier.serve_of_subject subject, Classifier.serve_of_subject subject, classified]
  | none =>
      cases call with
      | classify name file => simp [ClassifierCall.subject?] at subject
      | classifyName typed =>
          cases read : RoutineName.parse typed with
          | ok name => simp [ClassifierCall.subject?, read, Except.toOption] at subject
          | error fault => simp [Classifier.serve, Classifier.classifyName, read]
      | discover =>
          simp only [Classifier.walksFor, ClassifierCall.subject?, beq_self_eq_true,
            Bool.true_and] at walks
          rw [Classifier.serve, Classifier.serve, alike walks]
      | clearCache => rfl

/-- Nothing is walked once the leads are learned. -/
theorem Classifier.walksFor_of_completed {classifier : Classifier}
    (closed : classifier.state = .completed) (tree : FileTree) (call : ClassifierCall) :
    classifier.walksFor tree call = false := by
  rw [Classifier.walksFor, Classifier.discover_of_completed closed]
  split <;> simp

/-- A call closes the gate for good, and then the discovered leads stay. -/
theorem Classifier.serve_of_completed {classifier : Classifier}
    (closed : classifier.state = .completed) (tree : FileTree) (call : ClassifierCall) :
    (classifier.serve tree call).2.state = .completed ∧
      (classifier.serve tree call).2.discovered = classifier.discovered := by
  obtain ⟨name, file, _, later⟩ | ⟨_, _, _, later⟩ | ⟨_, later⟩ | ⟨_, later⟩ :=
    classifier.serve_cases tree call
  · rw [later]
    obtain ⟨_, answer⟩ | ⟨_, _, _, answer⟩ | ⟨_, _, answer⟩ :=
      classifier.classify_cases tree name file
    · rw [answer]
      exact ⟨closed, rfl⟩
    · rw [answer]
      exact ⟨closed, rfl⟩
    · rw [answer, Classifier.discover_of_completed closed]
      simp [closed]
  · rw [later]
    exact ⟨closed, rfl⟩
  · rw [later, Classifier.discover_of_completed closed]
    exact ⟨closed, rfl⟩
  · rw [later]
    exact ⟨closed, rfl⟩

/-- A call that walks the standard tree closes the gate. -/
theorem Classifier.serve_of_walksFor {classifier : Classifier} {tree : FileTree}
    {call : ClassifierCall} (walks : classifier.walksFor tree call = true) :
    (classifier.serve tree call).2.state = .completed := by
  rw [Classifier.walksFor] at walks
  split at walks
  · rename_i name file subject
    simp only [Bool.and_eq_true, Bool.not_eq_true', Option.isNone_iff_eq_none] at walks
    rw [Classifier.serve_of_subject subject,
      Classifier.classify_of_undecided walks.1.1 walks.1.2]
    simp
  · simp only [Bool.and_eq_true, beq_iff_eq] at walks
    rw [walks.1]
    exact classifier.discover_state tree

theorem Classifier.walks_of_completed {classifier : Classifier}
    (closed : classifier.state = .completed) (run : List Moment) : classifier.walks run = 0 := by
  induction run generalizing classifier with
  | nil => rfl
  | cons moment rest inductionHypothesis =>
      have later := (Classifier.serve_of_completed closed moment.tree moment.call).1
      rw [Classifier.walks, Classifier.walksFor_of_completed closed, inductionHypothesis later]
      rfl

/-- The standard tree is walked at most once in any run. -/
theorem Classifier.walks_le_one (classifier : Classifier) (run : List Moment) :
    classifier.walks run ≤ 1 := by
  induction run generalizing classifier with
  | nil => exact Nat.zero_le 1
  | cons moment rest inductionHypothesis =>
      rw [Classifier.walks]
      cases walks : classifier.walksFor moment.tree moment.call with
      | true =>
          rw [Classifier.walks_of_completed (Classifier.serve_of_walksFor walks)]
          exact Nat.le_refl 1
      | false =>
          have later := inductionHypothesis (classifier.serve moment.tree moment.call).2
          rw [Bool.toNat_false]
          omega

/-- After the leads are learned they are the same for ever. -/
theorem Classifier.discovered_after {classifier : Classifier}
    (closed : classifier.state = .completed) (run : List Moment) :
    (classifier.after run).discovered = classifier.discovered := by
  induction run generalizing classifier with
  | nil => rfl
  | cons moment rest inductionHypothesis =>
      obtain ⟨state, same⟩ := Classifier.serve_of_completed closed moment.tree moment.call
      rw [Classifier.after_cons, inductionHypothesis state, same]

/-- The leads are learned at most once and before the first decision, and no decision contradicts
them. -/
theorem Classifier.reachable_sound (standardRoot : Option PathName) (depth : Nat)
    (run : List Moment) :
    let start := Classifier.new standardRoot depth
    let classifier := start.after run
    start.walks run ≤ 1 ∧
    (∀ tree other call, classifier.walksFor tree call = false →
      (∀ path ∈ call.file?, inspectedHead tree path = inspectedHead other path) →
        classifier.serve tree call = classifier.serve other call) ∧
    (0 < classifier.cache.size → classifier.state = .completed) ∧
    (classifier.state = .completed → ∀ future,
      (classifier.after future).discovered = classifier.discovered) ∧
    (∀ lead ∈ classifier.discovered, IsLearnedLead lead) ∧
    (∀ key origin, classifier.cache.get? key = some origin →
      ¬ customMark.toList <+: key.toList) ∧
    ∀ key, ∀ lead ∈ builtinLeads ++ classifier.discovered, lead.toList <+: key.toList →
      classifier.cache.get? key ≠ some .custom := by
  have sound := (Classifier.Sound.new standardRoot depth).after run
  refine ⟨Classifier.walks_le_one _ run, ?_, sound.learnedFirst, ?_, sound.leads, sound.plain, ?_⟩
  · intro tree other call walks same
    exact Classifier.serve_congr walks same
  · intro closed future
    exact Classifier.discovered_after closed future
  · intro key lead member begins
    exact sound.standard key (beginsWithKnownLead_iff.mpr ⟨lead, member, begins⟩)

end RoutineAtlas
