import RoutineAtlas.Proofs.Origin.Memory

/-
This file follows a classifier through judgements on one tree. What it remembers of a key in the
end is what it remembered at first, or else the first verdict on a routine of that key.
-/

namespace RoutineAtlas

/-- These are the leads by which a classifier decides on a tree. -/
def Classifier.leads (classifier : Classifier) (tree : FileTree) : List String :=
  (classifier.discover tree).2.discovered

/-- Behind a closed gate the leads are those that were discovered. -/
theorem Classifier.leads_of_completed {classifier : Classifier}
    (closed : classifier.state = .completed) (tree : FileTree) :
    classifier.leads tree = classifier.discovered := by
  rw [Classifier.leads, Classifier.discover_of_completed closed]

@[simp] theorem Classifier.leads_clearCache (classifier : Classifier) (tree : FileTree) :
    classifier.clearCache.leads tree = classifier.leads tree := by
  rw [Classifier.leads, Classifier.leads, Classifier.discover, Classifier.discover]
  cases state : classifier.state with
  | notStarted => simp [Classifier.clearCache, GateState.enter, state, Classifier.learnLeads]
  | inProgress | completed => simp [Classifier.clearCache, GateState.enter, state]

@[simp] theorem Classifier.leads_discover (classifier : Classifier) (tree : FileTree) :
    (classifier.discover tree).2.leads tree = classifier.leads tree := by
  rw [Classifier.leads_of_completed (classifier.discover_state tree), Classifier.leads]

/-- On one tree the leads stay the same, whether they have been learned yet or not. -/
@[simp] theorem Classifier.leads_classify (classifier : Classifier) (tree : FileTree)
    (name : RoutineName) (file : Option PathName) :
    (classifier.classify tree name file).2.leads tree = classifier.leads tree := by
  obtain ⟨_, answer⟩ | ⟨_, _, _, answer⟩ | ⟨_, _, answer⟩ :=
    classifier.classify_cases tree name file
  · rw [answer]
  · rw [answer]
  · rw [answer]
    dsimp only
    rw [Classifier.leads_of_completed (by simp), Classifier.keep_discovered,
      Classifier.countIf_discovered, Classifier.leads]

/-- A judgement is asked for a routine with its file. -/
structure Judgement where
  name : RoutineName
  path : PathName
  deriving DecidableEq, Repr

/-- This is the decision on a key that the judgement is worth when it is made afresh. Where the mark
decides or the file cannot be read, it is worth none. -/
def Judgement.verdict? (tree : FileTree) (leads : List String) (key : String)
    (judgement : Judgement) : Option Origin :=
  let decision := freshDecision tree leads judgement.name.key (some judgement.path)
  if judgement.name.isMarked = false ∧ judgement.name.key = key ∧
      decision.answer.ground ≠ .unreadable then some decision.answer.origin
  else none

/-- This is the first decision on a key. -/
def firstVerdict (tree : FileTree) (leads : List String) (judgements : List Judgement)
    (key : String) : Option Origin :=
  judgements.findSome? (Judgement.verdict? tree leads key)

/-- This is the classifier after a judgement. -/
def Classifier.judge (classifier : Classifier) (tree : FileTree) (judgement : Judgement) :
    Classifier :=
  (classifier.classify tree judgement.name (some judgement.path)).2

/-- This is the origin that a classifier answers for a judgement. -/
def Classifier.originOf (classifier : Classifier) (tree : FileTree) (judgement : Judgement) :
    Origin :=
  (classifier.classify tree judgement.name (some judgement.path)).1.origin

/-- A judgement adds its verdict to what is remembered of a key. -/
theorem Classifier.get?_judge (classifier : Classifier) (tree : FileTree) (judgement : Judgement)
    (key : String) :
    (classifier.judge tree judgement).cache.get? key =
      (classifier.cache.get? key).or (judgement.verdict? tree (classifier.leads tree) key) := by
  rw [Classifier.judge, Judgement.verdict?]
  obtain ⟨marked, answer⟩ | ⟨unmarked, origin, decided, answer⟩ | ⟨unmarked, undecided, answer⟩ :=
    classifier.classify_cases tree judgement.name (some judgement.path)
  · rw [answer, if_neg (by simp [marked]), Option.or_none]
  · rw [answer]
    by_cases same : judgement.name.key = key
    · rw [← same, decided, Option.some_or]
    · rw [if_neg (by simp [same]), Option.or_none]
  · rw [answer]
    simp only [Classifier.keep_cache, Classifier.countIf_cache, Classifier.discover_cache,
      unmarked, true_and]
    exact FreshDecision.get?_keep _ undecided key

/-- Judgements are made one after the other. -/
def Classifier.judgeAll (classifier : Classifier) (tree : FileTree)
    (judgements : List Judgement) : Classifier :=
  judgements.foldl (fun current judgement => current.judge tree judgement) classifier

@[simp] theorem Classifier.leads_judgeAll (classifier : Classifier) (tree : FileTree)
    (judgements : List Judgement) :
    (classifier.judgeAll tree judgements).leads tree = classifier.leads tree := by
  induction judgements generalizing classifier with
  | nil => rfl
  | cons judgement rest inductionHypothesis =>
      have tail := inductionHypothesis (classifier.judge tree judgement)
      rw [Classifier.judgeAll, List.foldl_cons, ← Classifier.judgeAll, tail, Classifier.judge,
        Classifier.leads_classify]

theorem firstVerdict_cons (tree : FileTree) (leads : List String) (judgement : Judgement)
    (rest : List Judgement) (key : String) :
    firstVerdict tree leads (judgement :: rest) key =
      (judgement.verdict? tree leads key).or (firstVerdict tree leads rest key) := by
  rw [firstVerdict, List.findSome?_cons, firstVerdict]
  cases judgement.verdict? tree leads key <;> rfl

theorem firstVerdict_append (tree : FileTree) (leads : List String)
    (first second : List Judgement) (key : String) :
    firstVerdict tree leads (first ++ second) key =
      (firstVerdict tree leads first key).or (firstVerdict tree leads second key) := by
  rw [firstVerdict, List.findSome?_append, firstVerdict, firstVerdict]

/-- This is what a classifier will remember of a key after the judgements. -/
def Classifier.willRemember (classifier : Classifier) (tree : FileTree)
    (judgements : List Judgement) (key : String) : Option Origin :=
  (classifier.cache.get? key).or (firstVerdict tree (classifier.leads tree) judgements key)

/-- What will be remembered does not change on the way. -/
theorem Classifier.willRemember_judge (classifier : Classifier) (tree : FileTree)
    (judgement : Judgement) (rest : List Judgement) (key : String) :
    (classifier.judge tree judgement).willRemember tree rest key =
      classifier.willRemember tree (judgement :: rest) key := by
  have leads : (classifier.judge tree judgement).leads tree = classifier.leads tree :=
    classifier.leads_classify tree judgement.name (some judgement.path)
  rw [Classifier.willRemember, Classifier.get?_judge, leads, Classifier.willRemember,
    firstVerdict_cons, Option.or_assoc]

/-- After the judgements the classifier remembers what was foretold. -/
theorem Classifier.get?_judgeAll (classifier : Classifier) (tree : FileTree)
    (judgements : List Judgement) (key : String) :
    (classifier.judgeAll tree judgements).cache.get? key =
      classifier.willRemember tree judgements key := by
  induction judgements generalizing classifier with
  | nil => simp [Classifier.judgeAll, Classifier.willRemember, firstVerdict]
  | cons judgement rest inductionHypothesis =>
      rw [← Classifier.willRemember_judge, ← inductionHypothesis]
      rfl

/-- For a routine without the mark whose file can be read, what is answered is what will be
remembered. -/
theorem Classifier.willRemember_eq_originOf {classifier : Classifier} {tree : FileTree}
    {judgement : Judgement} (unmarked : judgement.name.isMarked = false)
    {head : String} (readable : inspectedHead tree judgement.path = .ok head)
    (rest : List Judgement) :
    classifier.willRemember tree (judgement :: rest) judgement.name.key =
      some (classifier.originOf tree judgement) := by
  rw [Classifier.willRemember, firstVerdict_cons, Classifier.originOf]
  cases decided : classifier.cache.get? judgement.name.key with
  | some origin => rw [Classifier.classify_of_decided unmarked decided, Option.some_or]
  | none =>
      rw [Classifier.classify_of_undecided unmarked decided]
      have legible : (freshDecision tree (classifier.leads tree) judgement.name.key
          (some judgement.path)).answer.ground ≠ .unreadable := by
        rw [freshDecision]
        split
        · simp [FreshDecision.answer]
        · simp [readable, FreshDecision.answer]
      rw [Judgement.verdict?, if_pos ⟨unmarked, rfl, legible⟩, Option.none_or, Option.some_or]
      rfl

/-- The mark alone makes a routine custom. -/
theorem Classifier.originOf_of_isMarked {judgement : Judgement}
    (marked : judgement.name.isMarked = true) (classifier : Classifier) (tree : FileTree) :
    classifier.originOf tree judgement = .custom := by
  rw [Classifier.originOf, Classifier.classify_of_isMarked marked]

end RoutineAtlas
