import RoutineAtlas.Proofs.Origin.TextVerdict
import RoutineAtlas.Proofs.Outline.FunctionNames
import RoutineAtlas.Proofs.Table.Reference

/-
This file settles what two texts tell of a table when they are joined by a line feed. Each phrase
ends with a visible character or a word, so that a line below leaves it as it was, and what a part
shows the whole shows too.
-/

namespace RoutineAtlas

/-- The phrase is the table's name and the arrow, and ends with the arrow. -/
theorem TableName.settled_arrow (table : TableName) : Settled table.arrow :=
  (settled_afterLiteral table.label).bind (settled_afterSpaced (by decide))

theorem settled_deleteCall : Settled deleteCall :=
  (settled_afterLiteral "DBDELETE").bind (settled_afterSpaced (by decide))

theorem TableName.settled_deleteByArrow (table : TableName) : Settled table.deleteByArrow :=
  table.settled_arrow.bind
    ((settled_afterSpaced (by decide)).bind (settled_deleteCall.behindBlanks rfl))

theorem TableName.deleteByArrow_nil (table : TableName) : table.deleteByArrow [] = none := by
  rw [TableName.deleteByArrow, TableName.arrow, afterLiteral_nil table.isWordRun.filled]
  rfl

/-- The phrase opens a call that locks a record of the table, up to the comma. -/
def TableName.lockToComma (table : TableName) : Recognizer := fun text => do
  let call ← afterLiteral "RECLOCK" text
  let argument ← afterSpaced "(" call
  let closing ← afterQuoted table.label argument
  afterSpaced "," closing

theorem TableName.settled_lockToComma (table : TableName) : Settled table.lockToComma :=
  (settled_afterLiteral "RECLOCK").bind ((settled_afterSpaced (by decide)).bind
    ((settled_afterQuoted table.label).bind (settled_afterSpaced (by decide))))

/-- The blanks before the second argument belong to it as well as to the lock. A lock is settled
only with its second argument, because a line below may begin with more blanks. -/
theorem TableName.lock_bind (table : TableName) (argument : String) (text : List Char) :
    table.lock text >>= afterLiteral argument =
      table.lockToComma text >>= afterSpaced argument := by
  simp only [TableName.lock, TableName.lockToComma, Option.bind_eq_bind, Option.bind_assoc]
  rfl

theorem TableName.settled_lockWith (table : TableName) {argument : String}
    (filled : argument.toList ≠ []) :
    Settled fun text => table.lock text >>= afterLiteral argument := by
  intro text rest below read
  dsimp only at read ⊢
  rw [table.lock_bind] at read ⊢
  exact table.settled_lockToComma.bind (settled_afterSpaced filled) below read

theorem TableName.settled_lockForInsert (table : TableName) : Settled table.lockForInsert :=
  table.settled_lockWith (by decide)

theorem TableName.settled_lockForUpdate (table : TableName) : Settled table.lockForUpdate :=
  table.settled_lockWith (by decide)

/-- A phrase that begins within the reach still does, though a line below may bring one that begins
earlier. -/
theorem Persists.occursWithin {recognizer : Recognizer} (persists : Persists recognizer)
    (gap : Nat) : Persists (occursWithin recognizer gap) := by
  induction gap with
  | zero => exact persists
  | succ gap inductionHypothesis =>
      intro text below found
      cases early : recognizer (text ++ '\n' :: below) with
      | some rest => simp [RoutineAtlas.occursWithin, early]
      | none =>
          -- Nothing begins here, so the phrase begins further on, where the gap is shorter.
          have missing : recognizer text = none := by
            rw [← Option.not_isSome_iff_eq_none]
            intro here
            have still := persists below here
            rw [early] at still
            exact Bool.noConfusion still
          cases text with
          | nil => simp [RoutineAtlas.occursWithin, missing] at found
          | cons first others =>
              simp only [RoutineAtlas.occursWithin, missing] at found
              simp only [List.cons_append, RoutineAtlas.occursWithin] at early ⊢
              rw [early]
              exact inductionHypothesis below found

theorem TableName.persists_deleteAfterLock (table : TableName) : Persists table.deleteAfterLock :=
  table.settled_lockForUpdate.bind_persists
    (Settled.bind_persists (settled_afterSpaced (by decide))
      (settled_deleteCall.persists.occursWithin deleteReach))

/-- Every mark of a part is a mark of the whole. -/
structure UsageMarks.IsWithin (part whole : UsageMarks) : Prop where
  browse : part.hasBrowse = true → whole.hasBrowse = true
  insert : part.hasInsert = true → whole.hasInsert = true
  update : part.hasUpdate = true → whole.hasUpdate = true
  delete : part.hasDelete = true → whole.hasDelete = true

theorem UsageMarks.IsWithin.isCrud {part whole : UsageMarks} (within : part.IsWithin whole)
    (writes : part.isCrud = true) : whole.isCrud = true := by
  simp only [UsageMarks.isCrud, Bool.or_eq_true] at writes ⊢
  exact writes.imp (Or.imp within.insert within.update) within.delete

section Category

variable {upper : String} {flags : UsageMarks}

/-- The category that is taken shows its evidence. -/
theorem UsageCategory.shows_of : UsageCategory.shows upper flags (.of upper flags) = true := by
  rw [UsageCategory.of]
  cases found : UsageCategory.all.find? (UsageCategory.shows upper flags) with
  | none => rfl
  | some category => exact List.find?_some found

/-- No category that shows its evidence is stronger than the one that is taken. -/
theorem UsageCategory.rank_of_le {category : UsageCategory}
    (shown : UsageCategory.shows upper flags category = true) :
    (UsageCategory.of upper flags).rank ≤ category.rank := by
  have listed : category ∈ UsageCategory.all := by cases category <;> decide
  rw [UsageCategory.of]
  cases found : UsageCategory.all.find? (UsageCategory.shows upper flags) with
  | none => exact absurd shown (List.find?_eq_none.mp found category listed)
  | some taken =>
      obtain ⟨_, stronger, weaker, split, silent⟩ := List.find?_eq_some_iff_append.mp found
      have sorted : UsageCategory.all.Pairwise fun first second => first.rank ≤ second.rank := by
        decide
      rw [split] at listed sorted
      obtain before | here | behind :
          category ∈ stronger ∨ category = taken ∨ category ∈ weaker := by simpa using listed
      · have hidden := silent category before
        rw [shown] at hidden
        exact Bool.noConfusion hidden
      · exact here ▸ Nat.le_refl _
      · exact List.rel_of_pairwise_cons (List.pairwise_append.mp sorted).2.1 behind

end Category

/-- What a part tells is among what the whole tells. -/
theorem TableName.flags_joined (table : TableName) {above below part : String}
    (isPart : part = above ∨ part = below) :
    (table.flags part).IsWithin (table.flags (above ++ "\n" ++ below)) := by
  constructor
  · exact fun browses => holdsWord_joined isPart (by decide) browses
  · exact fun inserts => holdsPhrase_joined isPart table.settled_lockForInsert.persists inserts
  · exact fun updates => holdsPhrase_joined isPart table.settled_lockForUpdate.persists updates
  · intro deletes
    simp only [TableName.flags, Bool.or_eq_true] at deletes ⊢
    obtain byArrow | afterLock := deletes
    · exact Or.inl (holdsAtWordStart_joined isPart table.settled_deleteByArrow.persists
        table.deleteByArrow_nil byArrow)
    · exact Or.inr (holdsPhrase_joined isPart table.persists_deleteAfterLock afterLock)

/-- The evidence that a part shows for a category the whole shows too. -/
theorem UsageCategory.shows_joined {above below part : String} {partFlags flags : UsageMarks}
    (isPart : part = above ∨ part = below) (within : partFlags.IsWithin flags)
    {category : UsageCategory} (shown : UsageCategory.shows part partFlags category = true) :
    UsageCategory.shows (above ++ "\n" ++ below) flags category = true := by
  cases category with
  | browse => exact within.browse shown
  | crud => exact within.isCrud shown
  | query => exact holdsWord_joined isPart (by decide) shown
  | report => exact holdsWord_joined isPart (by decide) shown
  | integration => exact holdsWord_joined isPart (by decide) shown
  | other => rfl

theorem TableName.rank_joined (table : TableName) {above below part : String}
    (isPart : part = above ∨ part = below) :
    let joined := above ++ "\n" ++ below
    (UsageCategory.of joined (table.flags joined)).rank ≤
      (UsageCategory.of part (table.flags part)).rank :=
  UsageCategory.rank_of_le
    (UsageCategory.shows_joined isPart (table.flags_joined isPart) UsageCategory.shows_of)

/-- No word goes on across a line feed. -/
theorem TableName.occurrences_joined (table : TableName) (above below : String) :
    table.occurrences (above ++ "\n" ++ below) =
      table.occurrences above + table.occurrences below := by
  simp only [table.occurrences_eq]
  rw [toList_joined, wordsOf_append_cons (by decide), List.count_append]

/-- Two texts that are joined by a line feed tell together what they tell apart. -/
theorem TableName.evidence_composes (table : TableName) (above below : String) :
    let joined := above ++ "\n" ++ below
    let rank := fun text => (UsageCategory.of text (table.flags text)).rank
    table.occurrences joined = table.occurrences above + table.occurrences below ∧
      (table.flags above).IsWithin (table.flags joined) ∧
      (table.flags below).IsWithin (table.flags joined) ∧
      rank joined ≤ min (rank above) (rank below) ∧
      (FunctionNames.of joined).user =
        ((FunctionNames.of above).user ++ (FunctionNames.of below).user).eraseDups ∧
      (FunctionNames.of joined).static =
        ((FunctionNames.of above).static ++ (FunctionNames.of below).static).eraseDups ∧
      (TextVerdict.of above = .custom ∨ TextVerdict.of below = .custom →
        TextVerdict.of joined = .custom) := by
  intro joined rank
  obtain ⟨user, static⟩ := FunctionNames.of_joined above below
  refine ⟨table.occurrences_joined above below, table.flags_joined (Or.inl rfl),
    table.flags_joined (Or.inr rfl), ?_, user, static, ?_⟩
  · exact Nat.le_min.mpr ⟨table.rank_joined (Or.inl rfl), table.rank_joined (Or.inr rfl)⟩
  · rintro (speaks | speaks)
    · exact TextVerdict.of_joined (Or.inl rfl) speaks
    · exact TextVerdict.of_joined (Or.inr rfl) speaks

/-- The first text declares a function and the second deletes a record. Their join shows both. -/
theorem TableName.evidence_composes_in_deletingFunction :
    let joined := "USER FUNCTION A1()" ++ "\n" ++ "PD3->(DBDELETE())"
    referredTable.occurrences joined = 1 ∧ (referredTable.flags joined).hasDelete = true ∧
      (UsageCategory.of joined (referredTable.flags joined)).rank ≤ 2 ∧
      (FunctionNames.of joined).user = ["A1"] ∧ (FunctionNames.of joined).static = [] ∧
      TextVerdict.of joined = .custom := by
  obtain ⟨counts, _, marks, ranks, user, static, verdict⟩ :=
    referredTable.evidence_composes "USER FUNCTION A1()" "PD3->(DBDELETE())"
  refine ⟨counts.trans (by decide), marks.delete (by decide), ranks.trans (by decide),
    user.trans (by decide), static.trans (by decide), verdict (Or.inl (by decide))⟩

end RoutineAtlas
