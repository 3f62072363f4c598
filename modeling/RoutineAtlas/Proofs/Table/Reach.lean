import RoutineAtlas.Proofs.Origin.Judgement
import RoutineAtlas.Proofs.Table.Search

/-
This file compares two searches of one tree that start with different classifiers. They list the
same rows exactly when their classifiers will remember the same of every routine that is judged.
-/

namespace RoutineAtlas

/-- The routine of a referring file is judged with its file. -/
def TableName.judgement? (table : TableName) (tree : FileTree) (path : PathName) :
    Option Judgement :=
  (table.referral? tree path).map fun referral => { name := referral.1, path }

/-- These judgements are made by a search before it has enough rows. -/
def Tally.judgements (tree : FileTree) (table : TableName) (options : SearchOptions) :
    List PathName → Tally → List Judgement
  | [], _ => []
  | path :: rest, tally =>
      if options.maxResults ≤ tally.rows.length then []
      else (table.judgement? tree path).toList ++
        Tally.judgements tree table options rest (tally.visit tree table options path)

/-- A file moves the classifier on by its judgement, if it has one. -/
theorem TableName.classifierAfter_singleton (table : TableName) (tree : FileTree)
    (classifier : Classifier) (path : PathName) :
    table.classifierAfter tree classifier [path] =
      classifier.judgeAll tree (table.judgement? tree path).toList := by
  rw [TableName.classifierAfter, List.foldl_cons, List.foldl_nil, TableName.judgement?]
  cases table.referral? tree path with
  | none => rfl
  | some referral => rfl

/-- After a search the classifier has made the search's judgements. -/
theorem Tally.run_classifier (tree : FileTree) (table : TableName) (options : SearchOptions)
    (paths : List PathName) (tally : Tally) :
    (Tally.run tree table options paths tally).1.classifier =
      tally.classifier.judgeAll tree (Tally.judgements tree table options paths tally) := by
  induction paths generalizing tally with
  | nil => rfl
  | cons path rest inductionHypothesis =>
      rw [Tally.run, Tally.judgements]
      split
      · rfl
      · rw [inductionHypothesis, (tally.visit_eq tree table options path).2,
          TableName.classifierAfter_singleton, Classifier.judgeAll, Classifier.judgeAll,
          Classifier.judgeAll, List.foldl_append]

/-- The head of a referring file can be inspected. -/
theorem TableName.exists_head_of_referral {table : TableName} {tree : FileTree} {path : PathName}
    {name : RoutineName} {content : String}
    (refers : table.referral? tree path = some (name, content)) :
    ∃ head, inspectedHead tree path = .ok head := by
  cases read : tree.read path with
  | error fault => simp [TableName.referral?, FileTree.readSource, read, Except.map] at refers
  | ok bytes => exact ⟨_, inspectedHead_of_read read⟩

/-- The row of a referring file shows the origin that is answered for its routine. -/
theorem TableName.rowOf?_eq_iff {table : TableName} {tree : FileTree} {path : PathName}
    {name : RoutineName} {content : String}
    (refers : table.referral? tree path = some (name, content)) (includeStandard : Bool)
    (classifier other : Classifier) :
    table.rowOf? tree includeStandard classifier path =
        table.rowOf? tree includeStandard other path ↔
      classifier.originOf tree { name, path } = other.originOf tree { name, path } := by
  rw [TableName.rowOf?, TableName.rowOf?, refers, Classifier.originOf, Classifier.originOf]
  dsimp only
  generalize (classifier.classify tree name (some path)).1.origin = first
  generalize (other.classify tree name (some path)).1.origin = second
  cases first <;> cases second <;> cases includeStandard <;> simp [UsageRow.of]

/-- Two classifiers will remember the same of the routines without the mark that are judged. -/
def Classifier.AgreesOn (classifier other : Classifier) (tree : FileTree)
    (judgements : List Judgement) : Prop :=
  ∀ judgement ∈ judgements, judgement.name.isMarked = false →
    classifier.willRemember tree judgements judgement.name.key =
      other.willRemember tree judgements judgement.name.key

/-- Classifiers agree on judgements when they give the first the same origin and agree on the
others after it. -/
theorem Classifier.agreesOn_cons {classifier other : Classifier} {tree : FileTree}
    {judgement : Judgement} {rest : List Judgement} {head : String}
    (readable : inspectedHead tree judgement.path = .ok head) :
    classifier.AgreesOn other tree (judgement :: rest) ↔
      classifier.originOf tree judgement = other.originOf tree judgement ∧
        (classifier.judge tree judgement).AgreesOn (other.judge tree judgement) tree rest := by
  have first : (judgement.name.isMarked = false →
      classifier.willRemember tree (judgement :: rest) judgement.name.key =
        other.willRemember tree (judgement :: rest) judgement.name.key) ↔
      classifier.originOf tree judgement = other.originOf tree judgement := by
    cases marked : judgement.name.isMarked with
    | true => simp [Classifier.originOf_of_isMarked marked]
    | false =>
        rw [Classifier.willRemember_eq_originOf marked readable,
          Classifier.willRemember_eq_originOf marked readable]
        simp
  rw [Classifier.AgreesOn, List.forall_mem_cons, first, Classifier.AgreesOn]
  simp only [Classifier.willRemember_judge]

/-- Classifiers agree on what a search judges from a file on when they give the file the same row
and agree on the rest after it. -/
theorem TableName.agreesOn_step (table : TableName) (tree : FileTree) (includeStandard : Bool)
    (classifier other : Classifier) (path : PathName) (rest : List Judgement) :
    classifier.AgreesOn other tree ((table.judgement? tree path).toList ++ rest) ↔
      table.rowOf? tree includeStandard classifier path =
          table.rowOf? tree includeStandard other path ∧
        (table.classifierAfter tree classifier [path]).AgreesOn
          (table.classifierAfter tree other [path]) tree rest := by
  rw [TableName.classifierAfter_singleton, TableName.classifierAfter_singleton]
  cases refers : table.referral? tree path with
  | none => simp [TableName.judgement?, TableName.rowOf?, refers, Classifier.judgeAll]
  | some referral =>
      obtain ⟨name, content⟩ := referral
      obtain ⟨head, readable⟩ := TableName.exists_head_of_referral refers
      rw [TableName.rowOf?_eq_iff refers]
      simp only [TableName.judgement?, refers, Option.map_some, Option.toList_some,
        List.singleton_append]
      exact Classifier.agreesOn_cons readable

/-- Searches that have come equally far list the same rows when their classifiers agree. -/
theorem Tally.run_rows_congr {tree : FileTree} {table : TableName} {options : SearchOptions}
    {paths : List PathName} {tally other : Tally} (sameRows : tally.rows = other.rows)
    (agree : tally.classifier.AgreesOn other.classifier tree
      (Tally.judgements tree table options paths tally)) :
    (Tally.run tree table options paths tally).1.rows =
      (Tally.run tree table options paths other).1.rows := by
  induction paths generalizing tally other with
  | nil => exact sameRows
  | cons path rest inductionHypothesis =>
      obtain ⟨rows, classifier⟩ := tally.visit_eq tree table options path
      obtain ⟨rowsToo, classifierToo⟩ := other.visit_eq tree table options path
      rw [Tally.judgements] at agree
      rw [Tally.run, Tally.run, ← sameRows]
      split
      · exact sameRows
      · rename_i notFull
        rw [if_neg notFull, table.agreesOn_step tree options.includeStandard] at agree
        apply inductionHypothesis
        · rw [rows, rowsToo, sameRows, agree.1]
        · rw [classifier, classifierToo]
          exact agree.2

/-- The row of a file has its path. -/
theorem TableName.path_of_rowOf? {table : TableName} {tree : FileTree} {includeStandard : Bool}
    {classifier : Classifier} {path : PathName} {row : UsageRow}
    (found : table.rowOf? tree includeStandard classifier path = some row) : row.path = path := by
  obtain ⟨content, name, origin, _, _, _, _, _, rfl⟩ := TableName.rowOf?_eq_some_iff.mp found
  rfl

/-- A file that a search still has to visit gets its row from that visit or not at all. -/
theorem Tally.mem_run_rows_iff {tree : FileTree} {table : TableName} {options : SearchOptions}
    {path : PathName} {rest : List PathName} (once : (path :: rest).Nodup) {tally : Tally}
    (notFull : ¬ options.maxResults ≤ tally.rows.length)
    (older : ∀ row ∈ tally.rows, row.path ∉ path :: rest) {row : UsageRow} (own : row.path = path) :
    row ∈ (Tally.run tree table options (path :: rest) tally).1.rows ↔
      table.rowOf? tree options.includeStandard tally.classifier path = some row := by
  obtain ⟨rows, classifier⟩ := tally.visit_eq tree table options path
  have notOld : row ∉ tally.rows := fun member => older row member (own ▸ List.mem_cons_self)
  have notLater : row ∉ table.qualifyingRows tree options.includeStandard
      (tally.visit tree table options path).classifier rest := by
    intro member
    have paths := table.qualifyingRows_paths tree options.includeStandard
      (tally.visit tree table options path).classifier rest
    have listed := paths.subset (List.mem_map_of_mem member)
    exact (List.nodup_cons.mp once).1 (own ▸ listed)
  rw [Tally.run, if_neg notFull, Tally.run_rows, rows, List.mem_append, List.mem_append]
  simp only [notOld, false_or, Option.mem_toList]
  constructor
  · rintro (here | later)
    · exact here
    · exact absurd (List.mem_of_mem_take later) notLater
  · exact Or.inl

/-- Searches that have come equally far, and that find the same rows in the end, have classifiers
that agree. -/
theorem Tally.agreesOn_of_run_rows {tree : FileTree} {table : TableName} {options : SearchOptions}
    {paths : List PathName} (once : paths.Nodup) {tally other : Tally}
    (older : ∀ row ∈ tally.rows, row.path ∉ paths) (sameRows : tally.rows = other.rows)
    (found : (Tally.run tree table options paths tally).1.rows.Perm
      (Tally.run tree table options paths other).1.rows) :
    tally.classifier.AgreesOn other.classifier tree
      (Tally.judgements tree table options paths tally) := by
  induction paths generalizing tally other with
  | nil => simp [Tally.judgements, Classifier.AgreesOn]
  | cons path rest inductionHypothesis =>
      obtain ⟨rows, classifier⟩ := tally.visit_eq tree table options path
      obtain ⟨rowsToo, classifierToo⟩ := other.visit_eq tree table options path
      rw [Tally.judgements]
      split
      · simp [Classifier.AgreesOn]
      · rename_i notFull
        have notFullToo : ¬ options.maxResults ≤ other.rows.length := sameRows ▸ notFull
        have olderToo : ∀ row ∈ other.rows, row.path ∉ path :: rest := sameRows ▸ older
        have row : table.rowOf? tree options.includeStandard tally.classifier path =
            table.rowOf? tree options.includeStandard other.classifier path := by
          apply Option.ext
          intro listed
          constructor
          · intro here
            have own := TableName.path_of_rowOf? here
            have member := (Tally.mem_run_rows_iff once notFull older own).mpr here
            exact (Tally.mem_run_rows_iff once notFullToo olderToo own).mp (found.subset member)
          · intro here
            have own := TableName.path_of_rowOf? here
            have member := (Tally.mem_run_rows_iff once notFullToo olderToo own).mpr here
            exact (Tally.mem_run_rows_iff once notFull older own).mp (found.symm.subset member)
        rw [table.agreesOn_step tree options.includeStandard, ← classifier, ← classifierToo]
        refine ⟨row, ?_⟩
        apply inductionHypothesis (List.nodup_cons.mp once).2
        · intro listed member
          rw [rows, List.mem_append, Option.mem_toList] at member
          obtain old | new := member
          · exact fun later => older listed old (List.mem_cons_of_mem _ later)
          · rw [TableName.path_of_rowOf? new]
            exact (List.nodup_cons.mp once).1
        · rw [rows, rowsToo, sameRows, row]
        · rw [Tally.run, if_neg notFull, Tally.run, if_neg notFullToo] at found
          exact found

end RoutineAtlas
