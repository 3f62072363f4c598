import RoutineAtlas.Proofs.Origin.Run
import Mathlib.Data.List.DropRight

/-
This file compares what a classifier remembers with the log of its calls. The cache holds, for each
key, the first decision since the decisions were last forgotten.
-/

namespace RoutineAtlas

/-- An entry of the log is a call with its reply. -/
structure LogEntry where
  call : ClassifierCall
  reply : ClassifierReply
  deriving DecidableEq, Repr

/-- This is the log of a run. -/
def Classifier.log (classifier : Classifier) : List Moment → List LogEntry
  | [] => []
  | moment :: rest =>
      { call := moment.call, reply := (classifier.serve moment.tree moment.call).1 } ::
        (classifier.serve moment.tree moment.call).2.log rest

/-- An entry answers for a key when it classifies a routine of that key on any ground but an
unreadable source. -/
def LogEntry.answer? (key : String) (entry : LogEntry) : Option Origin :=
  match entry.call.subject?, entry.reply with
  | some (name, _), .classified classification =>
      if name.key = key ∧ classification.ground ≠ .unreadable then some classification.origin
      else none
  | _, _ => none

/-- The routine of an entry was typed with the mark. -/
def LogEntry.isMarked (entry : LogEntry) : Bool :=
  entry.call.subject?.any fun subject => subject.1.isMarked

/-- An answer is a decision when the mark had no part in it. -/
def LogEntry.decision? (key : String) (entry : LogEntry) : Option Origin :=
  if entry.isMarked then none else entry.answer? key

/-- These are the entries since the decisions were last forgotten. -/
def sinceCleared (log : List LogEntry) : List LogEntry :=
  log.rtakeWhile fun entry => entry.call != .clearCache

/-- This is the first origin that was said since the decisions were last forgotten. -/
def firstSaid (said : LogEntry → Option Origin) (log : List LogEntry) : Option Origin :=
  (sinceCleared log).findSome? said

theorem Classifier.log_append (classifier : Classifier) (first second : List Moment) :
    classifier.log (first ++ second) =
      classifier.log first ++ (classifier.after first).log second := by
  induction first generalizing classifier with
  | nil => rfl
  | cons moment rest inductionHypothesis =>
      rw [List.cons_append, Classifier.log, Classifier.log, inductionHypothesis]
      rfl

/-- Clearing forgets everything that was said. -/
theorem firstSaid_concat_clearCache (said : LogEntry → Option Origin) (log : List LogEntry)
    {entry : LogEntry} (clears : entry.call = .clearCache) :
    firstSaid said (log ++ [entry]) = none := by
  rw [firstSaid, sinceCleared, List.rtakeWhile_concat, if_neg (by simp [clears])]
  rfl

/-- Otherwise what was said first stays, and a new entry speaks only after silence. -/
theorem firstSaid_concat (said : LogEntry → Option Origin) (log : List LogEntry)
    {entry : LogEntry} (other : entry.call ≠ .clearCache) :
    firstSaid said (log ++ [entry]) = (firstSaid said log).or (said entry) := by
  rw [firstSaid, sinceCleared, List.rtakeWhile_concat, if_pos (by simp [other]),
    List.findSome?_append, List.findSome?_singleton]
  rfl

/-- A classified routine is a decision on its own key only. -/
theorem LogEntry.decision?_classified {call : ClassifierCall} {name : RoutineName}
    {file : Option PathName} (subject : call.subject? = some (name, file))
    (classification : Classification) (key : String) :
    LogEntry.decision? key { call, reply := .classified classification } =
      if name.isMarked = false ∧ name.key = key ∧ classification.ground ≠ .unreadable then
        some classification.origin
      else none := by
  cases marked : name.isMarked <;>
    simp [LogEntry.decision?, LogEntry.isMarked, LogEntry.answer?, subject, marked]

/-- A fresh decision that is kept is said for its own key. -/
theorem FreshDecision.get?_keep (decision : FreshDecision) {cache : DecisionCache} {key : String}
    (undecided : cache.get? key = none) (other : String) :
    (decision.keep key cache).get? other =
      (cache.get? other).or
        (if key = other ∧ decision.answer.ground ≠ .unreadable then some decision.answer.origin
        else none) := by
  cases decision with
  | unreadable => simp [FreshDecision.keep, FreshDecision.answer]
  | decided rule origin =>
      by_cases same : key = other
      · subst same
        simp [FreshDecision.keep, FreshDecision.answer, DecisionCache.get?_insert_self, undecided]
      · have apart := DecisionCache.get?_insert_of_ne cache origin (Ne.symm same)
        simp [FreshDecision.keep, FreshDecision.answer, apart, same]

/-- After a call the cache says what it said before, and for a key without a decision it says what
was decided by the call. -/
theorem Classifier.get?_serve (classifier : Classifier) (tree : FileTree) {call : ClassifierCall}
    (other : call ≠ .clearCache) (key : String) :
    (classifier.serve tree call).2.cache.get? key =
      (classifier.cache.get? key).or
        (LogEntry.decision? key { call, reply := (classifier.serve tree call).1 }) := by
  cases subject : call.subject? with
  | some asked =>
      obtain ⟨name, file⟩ := asked
      rw [Classifier.serve_of_subject subject, LogEntry.decision?_classified subject]
      obtain ⟨marked, answer⟩ | ⟨unmarked, origin, decided, answer⟩ |
          ⟨unmarked, undecided, answer⟩ := classifier.classify_cases tree name file
      · rw [answer, if_neg (by simp [marked]), Option.or_none]
      · rw [answer]
        by_cases same : name.key = key
        · rw [← same, decided, Option.some_or]
        · rw [if_neg (by simp [same]), Option.or_none]
      · rw [answer]
        simp only [Classifier.keep_cache, Classifier.countIf_cache, Classifier.discover_cache,
          unmarked, true_and]
        exact FreshDecision.get?_keep _ undecided key
  | none =>
      have silent (reply : ClassifierReply) : LogEntry.decision? key { call, reply } = none := by
        simp [LogEntry.decision?, LogEntry.isMarked, LogEntry.answer?, subject]
      rw [silent, Option.or_none]
      obtain ⟨name, file, asked, _⟩ | ⟨_, _, _, later⟩ | ⟨_, later⟩ | ⟨clears, _⟩ :=
        classifier.serve_cases tree call
      · simp [subject] at asked
      · rw [later]
      · rw [later, Classifier.discover_cache]
      · exact absurd clears other

/-- The cache of a new classifier says, after any run, what was first decided for a key since the
decisions were last forgotten. -/
theorem Classifier.get?_after_new (standardRoot : Option PathName) (depth : Nat)
    (run : List Moment) (key : String) :
    ((Classifier.new standardRoot depth).after run).cache.get? key =
      firstSaid (LogEntry.decision? key) ((Classifier.new standardRoot depth).log run) := by
  induction run using List.reverseRecOn with
  | nil => rfl
  | append_singleton past moment inductionHypothesis =>
      rw [Classifier.after_append, Classifier.log_append]
      by_cases clears : moment.call = .clearCache
      · rw [Classifier.log, Classifier.log, firstSaid_concat_clearCache _ _ clears,
          Classifier.after_cons, clears]
        rfl
      · rw [Classifier.log, Classifier.log, firstSaid_concat _ _ clears, Classifier.after_cons,
          Classifier.after_nil, Classifier.get?_serve _ _ clears, inductionHypothesis]

/-- A name without the mark keeps its first decision, and the mark alone decides for the others. -/
theorem Classifier.classify_after_run (standardRoot : Option PathName) (depth : Nat)
    (past : List Moment) (name : RoutineName) :
    let start := Classifier.new standardRoot depth
    let classifier := start.after past
    let earlier := firstSaid (LogEntry.decision? name.key) (start.log past)
    (name.isMarked = true → ∀ tree file,
      classifier.classify tree name file =
        ({ origin := .custom, ground := .rule .customMark }, classifier)) ∧
    (name.isMarked = false → ∀ origin, earlier = some origin → ∀ tree file,
      classifier.classify tree name file = ({ origin, ground := .remembered }, classifier)) ∧
    (name.isMarked = false → earlier = none → ∀ tree file,
      let leads := (classifier.discover tree).2.discovered
      let answer := (classifier.classify tree name file).1
      answer = (freshDecision tree leads name.key file).answer ∧ answer.isCached = false) := by
  have memory := Classifier.get?_after_new standardRoot depth past name.key
  refine ⟨?_, ?_, ?_⟩
  · intro marked tree file
    exact Classifier.classify_of_isMarked marked
  · intro unmarked origin decided tree file
    exact Classifier.classify_of_decided unmarked (memory.trans decided) tree file
  · intro unmarked silent tree file
    have afresh := Classifier.classify_of_undecided unmarked (memory.trans silent) tree file
    simp only [afresh, FreshDecision.isCached_answer, and_self]

/-- The answer by the mark is not a decision. A routine that was typed with the mark first is
decided afresh when it is typed without. -/
theorem Classifier.marked_answer_not_remembered :
    ¬ ∀ (standardRoot : Option PathName) (depth : Nat) (past : List Moment) (name : RoutineName),
      let start := Classifier.new standardRoot depth
      name.isMarked = false → ∀ origin,
        firstSaid (LogEntry.answer? name.key) (start.log past) = some origin → ∀ tree file,
          (start.after past).classify tree name file =
            ({ origin, ground := .remembered }, start.after past) := by
  intro remembers
  let tree : FileTree := { top := .directory { entries := [] }, workingDirectory := "/" }
  let marked : RoutineName := { typed := "U_MATA010", base := "U_MATA010" }
  let plain : RoutineName := { typed := "MATA010", base := "MATA010" }
  have repeated := remembers none 0 [{ tree, call := .classify marked none }] plain (by decide)
    .custom (by decide) tree none
  have origins := congrArg (fun answer => answer.1.origin) repeated
  exact absurd origins (by decide)

end RoutineAtlas
