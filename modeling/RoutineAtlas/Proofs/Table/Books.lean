import RoutineAtlas.Proofs.Table.Account
import RoutineAtlas.Proofs.Table.Reach
import Mathlib.Algebra.BigOperators.Group.List.Basic
import Mathlib.Algebra.Ring.Nat

/-
This file settles the books of a table search. Every file of the walk is scanned, skipped or left
unread, and the counts of the rows, of the vendor's routines and of the categories agree with the
files that were read.
-/

namespace RoutineAtlas

/-- A source can be read. -/
def FileTree.canRead (tree : FileTree) (path : PathName) : Bool :=
  (tree.readSource path).toBool

/-- A source that cannot be read is skipped with its fault. -/
def FileTree.readFault? (tree : FileTree) (path : PathName) : Option SkippedEntry :=
  match tree.readSource path with
  | .error fault => some { path, kind := .read, fault }
  | .ok _ => none

/-- These are the sources that cannot be read. -/
def FileTree.readFaults (tree : FileTree) (paths : List PathName) : List SkippedEntry :=
  paths.filterMap tree.readFault?

theorem FileTree.isSome_readFault? (tree : FileTree) (path : PathName) :
    (tree.readFault? path).isSome = !tree.canRead path := by
  rw [FileTree.readFault?, FileTree.canRead]
  cases tree.readSource path with
  | error fault => rfl
  | ok content => rfl

/-- A source either can be read or is skipped. -/
theorem FileTree.countP_canRead_add (tree : FileTree) (paths : List PathName) :
    paths.countP tree.canRead + (tree.readFaults paths).length = paths.length := by
  rw [FileTree.readFaults, List.length_filterMap_eq_countP,
    List.length_eq_countP_add_countP tree.canRead]
  simp [FileTree.isSome_readFault?]

/-- This is the origin that a classifier gives to a file that refers to the table. -/
def TableName.originMet? (table : TableName) (tree : FileTree) (classifier : Classifier)
    (path : PathName) : Option Origin :=
  (table.judgement? tree path).map (classifier.originOf tree)

/-- These are the origins of the referring files, each given by the classifier as the files before
left it. -/
def TableName.originsMet (table : TableName) (tree : FileTree) :
    Classifier → List PathName → List Origin
  | _, [] => []
  | classifier, path :: rest =>
      (table.originMet? tree classifier path).toList ++
        table.originsMet tree (table.classifierAfter tree classifier [path]) rest

theorem TableName.classifierAfter_append (table : TableName) (tree : FileTree)
    (classifier : Classifier) (first second : List PathName) :
    table.classifierAfter tree classifier (first ++ second) =
      table.classifierAfter tree (table.classifierAfter tree classifier first) second :=
  List.foldl_append

/-- One more file adds the origin that it gets from the classifier after the others. -/
theorem TableName.originsMet_concat (table : TableName) (tree : FileTree)
    (classifier : Classifier) (read : List PathName) (path : PathName) :
    table.originsMet tree classifier (read ++ [path]) =
      table.originsMet tree classifier read ++
        (table.originMet? tree (table.classifierAfter tree classifier read) path).toList := by
  induction read generalizing classifier with
  | nil => simp [TableName.originsMet, TableName.classifierAfter]
  | cons first rest inductionHypothesis =>
      have after := table.classifierAfter_append tree classifier [first] rest
      rw [List.singleton_append] at after
      rw [List.cons_append, TableName.originsMet, TableName.originsMet, inductionHypothesis,
        List.append_assoc, after]

/-- One more file adds its row, if the classifier after the others lets it qualify. -/
theorem TableName.qualifyingRows_concat (table : TableName) (tree : FileTree)
    (includeStandard : Bool) (classifier : Classifier) (read : List PathName) (path : PathName) :
    table.qualifyingRows tree includeStandard classifier (read ++ [path]) =
      table.qualifyingRows tree includeStandard classifier read ++
        (table.rowOf? tree includeStandard (table.classifierAfter tree classifier read)
          path).toList := by
  induction read generalizing classifier with
  | nil =>
      rw [List.nil_append, TableName.qualifyingRows_cons]
      simp [TableName.qualifyingRows, TableName.classifierAfter]
  | cons first rest inductionHypothesis =>
      have after := table.classifierAfter_append tree classifier [first] rest
      rw [List.singleton_append] at after
      rw [List.cons_append, TableName.qualifyingRows_cons, TableName.qualifyingRows_cons,
        inductionHypothesis, List.append_assoc, after]

/-- Judging a routine neither scans nor skips a file. -/
theorem Tally.judge_reading (tally : Tally) (tree : FileTree) (table : TableName)
    (options : SearchOptions) (name : RoutineName) (path : PathName) (content : String) :
    (tally.judge tree table options name path content).filesScanned = tally.filesScanned ∧
      (tally.judge tree table options name path content).skipped = tally.skipped := by
  rw [Tally.judge]
  dsimp only
  split
  · exact ⟨rfl, rfl⟩
  · exact ⟨rfl, rfl⟩

/-- A visit scans the file or skips it. -/
theorem Tally.visit_reading (tally : Tally) (tree : FileTree) (table : TableName)
    (options : SearchOptions) (path : PathName) :
    (tally.visit tree table options path).filesScanned =
        tally.filesScanned + (tree.canRead path).toNat ∧
      (tally.visit tree table options path).skipped =
        tally.skipped ++ (tree.readFault? path).toList := by
  rw [Tally.visit, FileTree.canRead, FileTree.readFault?]
  cases tree.readSource path with
  | error fault => exact ⟨rfl, rfl⟩
  | ok content =>
      rw [Option.toList_none, List.append_nil]
      dsimp only
      split
      · split
        · exact ⟨rfl, rfl⟩
        · exact Tally.judge_reading _ tree table options _ path content
      · exact ⟨rfl, rfl⟩

/-- A visit counts a routine of the vendor's unless these are wanted. -/
theorem Tally.visit_standardExcluded (tally : Tally) (tree : FileTree) (table : TableName)
    (options : SearchOptions) (path : PathName) :
    (tally.visit tree table options path).standardExcluded =
      tally.standardExcluded + if options.includeStandard then 0 else
        (table.originMet? tree tally.classifier path).toList.count .standard := by
  rw [TableName.originMet?, TableName.judgement?]
  obtain ⟨none, _, excluded, _⟩ | ⟨name, content, refers, visited⟩ :=
    tally.visit_cases tree table options path
  · rw [none, excluded]
    simp
  · rw [refers, visited, Tally.judge]
    cases verdict : (tally.classifier.classify tree name (some path)).1.origin with
    | custom => simp [Classifier.originOf, verdict]
    | standard =>
        cases wanted : options.includeStandard with
        | true => simp
        | false => simp [Classifier.originOf, verdict]

/-- A tally that began with a classifier has gone through these files and no others. -/
structure Tally.HasRead (tree : FileTree) (table : TableName) (options : SearchOptions)
    (initial : Classifier) (read : List PathName) (tally : Tally) : Prop where
  moved : tally.classifier = table.classifierAfter tree initial read
  rows : tally.rows = table.qualifyingRows tree options.includeStandard initial read
  scanned : tally.filesScanned = read.countP tree.canRead
  skipped : tally.skipped = tree.readFaults read
  excluded : tally.standardExcluded =
    if options.includeStandard then 0 else (table.originsMet tree initial read).count .standard
  accounted : tally.accounted ≤ tally.filesScanned
  capped : tally.rows.length ≤ options.maxResults

theorem Tally.HasRead.start (tree : FileTree) (table : TableName) (options : SearchOptions)
    (classifier : Classifier) :
    (Tally.start classifier).HasRead tree table options classifier [] where
  moved := rfl
  rows := rfl
  scanned := rfl
  skipped := rfl
  excluded := by simp [Tally.start, TableName.originsMet]
  accounted := Nat.le_refl 0
  capped := Nat.zero_le _

/-- A file in which the table is can be read. -/
theorem TableName.canRead_of_isIn {table : TableName} {tree : FileTree} {path : PathName}
    (isIn : table.isIn tree path = true) : tree.canRead path = true := by
  rw [TableName.isIn] at isIn
  rw [FileTree.canRead]
  cases read : tree.readSource path with
  | error fault => simp [read] at isIn
  | ok content => rfl

/-- A visit below the cap keeps the books. -/
theorem Tally.HasRead.visit {tree : FileTree} {table : TableName} {options : SearchOptions}
    {initial : Classifier} {read : List PathName} {tally : Tally}
    (books : tally.HasRead tree table options initial read) (path : PathName)
    (room : tally.rows.length < options.maxResults) :
    (tally.visit tree table options path).HasRead tree table options initial
      (read ++ [path]) := by
  obtain ⟨rows, moved⟩ := tally.visit_eq tree table options path
  obtain ⟨scanned, skipped⟩ := tally.visit_reading tree table options path
  have excluded := tally.visit_standardExcluded tree table options path
  rw [books.moved] at rows moved excluded
  refine {
    moved := by rw [moved, TableName.classifierAfter_append]
    rows := by rw [rows, books.rows, TableName.qualifyingRows_concat]
    scanned := ?_
    skipped := ?_
    excluded := ?_
    accounted := ?_
    capped := ?_ }
  · rw [scanned, books.scanned, List.countP_append, List.countP_singleton]
    cases tree.canRead path <;> rfl
  · rw [skipped, books.skipped, FileTree.readFaults, FileTree.readFaults, List.filterMap_append]
    cases fault : tree.readFault? path <;> simp [fault]
  · rw [excluded, books.excluded, TableName.originsMet_concat, List.count_append]
    cases options.includeStandard <;> rfl
  · -- Whatever is accounted for refers to the table, and so it has been scanned.
    have before := books.accounted
    rw [Tally.accounted_visit, scanned]
    cases inside : table.isIn tree path with
    | false => simp only [Bool.false_and, Bool.toNat_false]; omega
    | true =>
        have one := Bool.toNat_le (holdsRoutine path)
        rw [TableName.canRead_of_isIn inside, Bool.true_and, Bool.toNat_true]
        omega
  · have one := (table.rowOf? tree options.includeStandard
      (table.classifierAfter tree initial read) path).length_toList_le
    rw [rows, List.length_append]
    omega

/-- A search reads the files from the first one on until there are no more or its cap is reached. -/
theorem Tally.HasRead.run {tree : FileTree} {table : TableName} {options : SearchOptions}
    {initial : Classifier} {read : List PathName} {tally : Tally}
    (books : tally.HasRead tree table options initial read) (paths : List PathName) :
    ∃ more unread, paths = more ++ unread ∧
      (Tally.run tree table options paths tally).1.HasRead tree table options initial
        (read ++ more) ∧
      ((Tally.run tree table options paths tally).2 = true ↔ unread ≠ []) ∧
      (unread ≠ [] →
        (Tally.run tree table options paths tally).1.rows.length = options.maxResults) := by
  -- The files that have been read grow in the induction, and the tally grows with them.
  induction paths generalizing read tally with
  | nil => exact ⟨[], [], rfl, by simpa [Tally.run] using books, by simp [Tally.run], by simp⟩
  | cons path rest inductionHypothesis =>
      rw [Tally.run]
      by_cases full : options.maxResults ≤ tally.rows.length
      · rw [if_pos full]
        exact ⟨[], path :: rest, rfl, by simpa using books, by simp,
          fun _ => Nat.le_antisymm books.capped full⟩
      · rw [if_neg full]
        obtain ⟨more, unread, split, later, limit, reached⟩ :=
          inductionHypothesis (books.visit path (Nat.lt_of_not_le full))
        refine ⟨path :: more, unread, by rw [split, List.cons_append], ?_, limit, reached⟩
        simpa using later

/-- This summary counts the rows of the categories that have some. -/
structure CountsRows (rows : List UsageRow) (summary : List (UsageCategory × Nat)) : Prop where
  positive : ∀ entry ∈ summary, 0 < entry.2
  once : (summary.map Prod.fst).Nodup
  present : ∀ category, category ∈ summary.map Prod.fst ↔ ∃ row ∈ rows, row.category = category
  counted : ∀ entry ∈ summary, entry.2 = rows.countP fun row => row.category == entry.1
  total : (summary.map Prod.snd).sum = rows.length

theorem UsageCategory.mem_all (category : UsageCategory) : category ∈ UsageCategory.all := by
  cases category <;> decide

/-- The categories share the rows among themselves. -/
theorem sum_countP_category (rows : List UsageRow) :
    (UsageCategory.all.map fun category =>
      rows.countP fun row => row.category == category).sum = rows.length := by
  induction rows with
  | nil => rfl
  | cons row rest inductionHypothesis =>
      have own : (UsageCategory.all.map fun category =>
          if row.category == category then 1 else 0).sum = 1 := by
        cases row.category <;> rfl
      simp only [List.countP_cons]
      rw [List.sum_map_add, inductionHypothesis, own, List.length_cons]

/-- Entries without rows do not matter for the sum. -/
theorem sum_filter_positive (entries : List (UsageCategory × Nat)) :
    ((entries.filter (0 < ·.2)).map Prod.snd).sum = (entries.map Prod.snd).sum := by
  induction entries with
  | nil => rfl
  | cons entry rest inductionHypothesis =>
      rw [List.filter_cons, List.map_cons, List.sum_cons]
      split
      · rw [List.map_cons, List.sum_cons, inductionHypothesis]
      · rename_i empty
        simp only [decide_eq_true_eq, Nat.not_lt, Nat.le_zero] at empty
        rw [inductionHypothesis, empty, Nat.zero_add]

/-- A summary has the categories with their counts, less those that have no rows. -/
theorem summarize_eq (rows : List UsageRow) :
    summarize rows = (UsageCategory.all.map fun category =>
      (category, rows.countP fun row => row.category == category)).filter (0 < ·.2) := by
  simp only [summarize, List.countP_eq_length_filter]

theorem mem_summarize_iff {rows : List UsageRow} {entry : UsageCategory × Nat} :
    entry ∈ summarize rows ↔
      0 < entry.2 ∧ entry.2 = rows.countP fun row => row.category == entry.1 := by
  rw [summarize_eq, List.mem_filter, List.mem_map, decide_eq_true_eq]
  constructor
  · rintro ⟨⟨category, _, rfl⟩, positive⟩
    exact ⟨positive, rfl⟩
  · rintro ⟨positive, counted⟩
    exact ⟨⟨entry.1, entry.1.mem_all, by rw [← counted]⟩, positive⟩

/-- The summary of a search counts its rows. -/
theorem countsRows_summarize (rows : List UsageRow) : CountsRows rows (summarize rows) := by
  refine {
    positive := fun entry member => (mem_summarize_iff.mp member).1
    once := ?_
    present := ?_
    counted := fun entry member => (mem_summarize_iff.mp member).2
    total := ?_ }
  · have apart : UsageCategory.all.Pairwise (· ≠ ·) := by decide
    rw [summarize_eq, List.Nodup, List.pairwise_map]
    apply List.Pairwise.filter
    rw [List.pairwise_map]
    exact apart
  · intro category
    have some_iff : (0 < rows.countP fun row => row.category == category) ↔
        ∃ row ∈ rows, row.category = category := by
      simp [List.countP_pos_iff]
    rw [← some_iff, List.mem_map]
    constructor
    · rintro ⟨entry, member, rfl⟩
      obtain ⟨positive, counted⟩ := mem_summarize_iff.mp member
      exact counted ▸ positive
    · intro positive
      exact ⟨(category, _), mem_summarize_iff.mpr ⟨positive, rfl⟩, rfl⟩
  · rw [summarize_eq, sum_filter_positive, List.map_map]
    exact sum_countP_category rows

/-- The books of a search over a walk agree with the files that it read and those it left unread. -/
structure UsageSearch.KeepsBooks (tree : FileTree) (table : TableName) (options : SearchOptions)
    (initial : Classifier) (walk : Scan) (read unread : List PathName) (search : UsageSearch) :
    Prop where
  split : walk.files = read ++ unread
  rows : search.rows.Perm (table.qualifyingRows tree options.includeStandard initial read)
  capped : search.rows.length ≤ options.maxResults
  accounted : search.rows.length + search.standardExcluded ≤ search.filesScanned
  scanned : search.filesScanned = read.countP tree.canRead
  skipped : search.skipped = walk.skipped ++ tree.readFaults read
  indexed : search.filesIndexed =
    search.filesScanned + (tree.readFaults read).length + unread.length
  limited : search.limitReached = true ↔ unread ≠ []
  full : search.limitReached = true → search.rows.length = options.maxResults
  custom : options.includeStandard = false → ∀ row ∈ search.rows, row.origin = .custom
  excluded : options.includeStandard = false →
    search.standardExcluded = (table.originsMet tree initial read).count .standard
  nothingExcluded : options.includeStandard = true → search.standardExcluded = 0
  summary : CountsRows search.rows search.summary

/-- Without the vendor's routines all qualifying rows are customers'. -/
theorem TableName.custom_of_mem_qualifyingRows {table : TableName} {tree : FileTree}
    {classifier : Classifier} {walk : List PathName} {row : UsageRow}
    (listed : row ∈ table.qualifyingRows tree false classifier walk) : row.origin = .custom := by
  obtain ⟨place, _, found⟩ := List.mem_filterMap.mp listed
  obtain ⟨path, _, qualifies⟩ := Option.bind_eq_some_iff.mp found
  obtain ⟨content, name, origin, _, _, _, _, wanted, same⟩ :=
    TableName.rowOf?_eq_some_iff.mp qualifies
  obtain custom | absurdity := wanted
  · rw [same, UsageRow.of, custom]
  · exact Bool.noConfusion absurdity

/-- A table search fails on a cap of zero only. Otherwise it reads the walk from the first file on,
its classifier goes through the files that were read, and its books agree with them. -/
theorem searchTree_keeps_books (tree : FileTree) (depth : Nat) (root : PathName)
    (table : TableName) (options : SearchOptions) (classifier : Classifier) :
    let walk := (ScanPlan.forSources depth).scan tree root
    match searchTree tree depth root table options classifier with
    | .error fault => options.maxResults = 0 ∧ fault = .input .zeroCap
    | .ok (search, later) =>
        1 ≤ options.maxResults ∧ ∃ read unread,
          later = table.classifierAfter tree classifier read ∧
            search.KeepsBooks tree table options classifier walk read unread := by
  intro walk
  by_cases zero : options.maxResults = 0
  · rw [searchTree, if_pos zero]
    exact ⟨zero, rfl⟩
  · obtain ⟨read, unread, split, books, limited, full⟩ :=
      (Tally.HasRead.start tree table options classifier).run walk.files
    rw [List.nil_append] at books
    rw [searchTree, if_neg zero]
    refine ⟨Nat.one_le_iff_ne_zero.mpr zero, read, unread, books.moved, ?_⟩
    have order := List.mergeSort_perm (Tally.run tree table options walk.files
      (.start classifier)).1.rows UsageRow.goesBefore
    have accounted := books.accounted
    rw [Tally.accounted] at accounted
    have indexed : walk.files.length = read.countP tree.canRead + (tree.readFaults read).length +
        unread.length := by
      rw [tree.countP_canRead_add, split, List.length_append]
    rw [← books.scanned] at indexed
    refine {
      split := split
      rows := books.rows ▸ order
      capped := order.length_eq.trans_le books.capped
      accounted := order.length_eq.symm ▸ accounted
      scanned := books.scanned
      skipped := congrArg (walk.skipped ++ ·) books.skipped
      indexed := indexed
      limited := limited
      full := fun reached => order.length_eq.trans (full (limited.mp reached))
      custom := ?_
      excluded := fun unwanted => by rw [books.excluded, unwanted]; rfl
      nothingExcluded := fun wanted => by rw [books.excluded, wanted]; rfl
      summary := countsRows_summarize _ }
    intro unwanted row listed
    rw [order.mem_iff, books.rows, unwanted] at listed
    exact TableName.custom_of_mem_qualifyingRows listed

end RoutineAtlas
