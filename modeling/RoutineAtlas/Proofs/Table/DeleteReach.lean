import RoutineAtlas.Proofs.Table.Composition
import RoutineAtlas.Proofs.Text.Placement

/-
This file settles how far a deletion may stand behind its lock. In a text of one lock, a gap and one
deletion the lock stands at the start only and the deletion behind the whole gap only, so that the
length of the gap decides.
-/

namespace RoutineAtlas

/-- The call locks a record of the table that exists. -/
def TableName.lockCall (table : TableName) : String :=
  "RECLOCK(\"" ++ table.label ++ "\",.F.)"

/-- The text locks a record of the table, goes on with the gap and deletes the record. -/
def TableName.lockedDeletion (table : TableName) (gap : String) : String :=
  table.lockCall ++ gap ++ "DBDELETE()"

/-- A mark outside words is not in the name of a table. -/
theorem TableName.notMem_label (table : TableName) {mark : Char} (outside : isWord mark = false) :
    mark ∉ table.label.toList := by
  intro member
  rw [table.isWord_of_mem member] at outside
  exact Bool.noConfusion outside

/-- The quotes cut the call into its parts, and it ends with a parenthesis. -/
theorem TableName.toList_lockCall (table : TableName) :
    table.lockCall.toList =
      "RECLOCK(".toList ++ '"' :: (table.label.toList ++ '"' :: (",.F.".toList ++ [')'])) := by
  simp [TableName.lockCall]

theorem TableName.toList_lockedDeletion (table : TableName) (gap : String) :
    (table.lockedDeletion gap).toList =
      table.lockCall.toList ++ (gap.toList ++ "DBDELETE()".toList) := by
  simp [TableName.lockedDeletion]

/-- A lock that is found goes on with a parenthesis behind the name of the call. -/
theorem TableName.exists_call_of_lock {table : TableName} {text : List Char}
    (found : (table.lockForUpdate text).isSome = true) :
    ∃ call blanks rest, text = "RECLOCK".toList ++ call ∧ call = blanks ++ '(' :: rest ∧
      ∀ character ∈ blanks, isBlank character = true := by
  obtain ⟨second, locked⟩ := Option.isSome_iff_exists.mp (Option.isSome_of_isSome_bind found)
  obtain ⟨call, named, others⟩ := Option.bind_eq_some_iff.mp locked
  obtain ⟨rest, opened, _⟩ := Option.bind_eq_some_iff.mp others
  obtain ⟨blanks, split, blank⟩ := exists_blanks_of_afterSpaced opened
  exact ⟨call, blanks, rest, afterLiteral_eq_some.mp named, split, blank⟩

/-- In the name of the table no lock begins, because a quote follows where the parenthesis of the
lock would have to stand. -/
theorem TableName.label_ne_lock (table : TableName) {before gap behind blanks rest : List Char}
    (named : table.label.toList = before ++ ("RECLOCK".toList ++ gap))
    (blank : ∀ character ∈ blanks, isBlank character = true) :
    gap ++ '"' :: behind ≠ blanks ++ '(' :: rest := by
  intro split
  have clean : '(' ∉ gap := by
    intro member
    have noName : '(' ∉ table.label.toList := table.notMem_label (by decide)
    rw [named] at noName
    exact noName (List.mem_append_right _ (List.mem_append_right _ member))
  obtain ⟨more, rfl, onward⟩ := exists_gap_before_mark clean split
  cases more with
  | nil => exact absurd (List.cons.inj onward).1 (by decide)
  | cons first others =>
      obtain ⟨rfl, _⟩ := List.cons.inj onward
      exact absurd (blank '"' (by simp)) (by decide)

/-- A lock is found at the start of the text only. -/
theorem TableName.before_eq_nil_of_lock {table : TableName} {gap : String}
    {before behind : List Char} (noLock : ¬ "RECLOCK".toList <:+: gap.toList)
    (split : (table.lockedDeletion gap).toList = before ++ behind)
    (found : (table.lockForUpdate behind).isSome = true) : before = [] := by
  obtain ⟨call, blanks, rest, rfl, opened, blank⟩ := TableName.exists_call_of_lock found
  rw [table.toList_lockedDeletion, table.toList_lockCall] at split
  simp only [List.append_assoc, List.cons_append, List.nil_append] at split
  -- The two quotes and the last parenthesis of the call cut the text into four pieces. The word of
  -- a lock holds none of these marks, so it stands in one of the pieces.
  obtain ⟨_, inFront, _⟩ | ⟨more, _, inName⟩ :=
    placed_around_mark '"' (by decide) split.symm
  · cases before with
    | nil => rfl
    | cons first others =>
        exact absurd (infix_of_split (List.cons.inj inFront).2) (by decide)
  · exfalso
    obtain ⟨_, named, onward⟩ | ⟨_, _, inArgument⟩ :=
      placed_around_mark '"' (by decide) inName.symm
    · exact table.label_ne_lock named blank (onward.symm.trans opened)
    · obtain ⟨_, inArgument, _⟩ | ⟨_, _, inGap⟩ :=
        placed_around_mark ')' (by decide) inArgument.symm
      · exact absurd (infix_of_split inArgument) (by decide)
      · have seamless : IsSeamless "RECLOCK".toList "DBDELETE()".toList := by decide
        obtain ⟨_, _, inDeletion⟩ := seamless.placed noLock inGap.symm
        exact absurd (infix_of_split inDeletion) (by decide)

/-- At the start of the text the lock is found, and the deletion is looked for in what follows. -/
theorem TableName.deleteAfterLock_lockCall (table : TableName) (rest : List Char) :
    table.deleteAfterLock (table.lockCall.toList ++ rest) =
      occursWithin deleteCall deleteReach rest := by
  have quoted := afterQuoted_quoted table.label (",.F.".toList ++ ')' :: rest)
  generalize opening : '"' :: (table.label.toList ++ '"' :: (",.F.".toList ++ ')' :: rest)) =
    argument at quoted
  have text : table.lockCall.toList ++ rest = "RECLOCK".toList ++ '(' :: argument := by
    rw [table.toList_lockCall, ← opening]
    simp
  have call : afterLiteral "RECLOCK" ("RECLOCK".toList ++ '(' :: argument) =
      some ('(' :: argument) := afterLiteral_eq_some.mpr rfl
  have inside : afterSpaced "(" ('(' :: argument) = some argument := rfl
  rw [text, TableName.deleteAfterLock, TableName.lockForUpdate, TableName.lock]
  simp only [call, inside, quoted, Option.bind_eq_bind, Option.bind_some]
  rfl

/-- The deletion is found behind the whole gap only. -/
theorem isSome_deleteCall_within_iff {gap : List Char}
    (noDelete : ¬ "DBDELETE".toList <:+: gap) (reach : Nat) :
    (occursWithin deleteCall reach (gap ++ "DBDELETE()".toList)).isSome = true ↔
      gap.length ≤ reach := by
  rw [isSome_occursWithin_iff]
  constructor
  · rintro ⟨before, behind, split, short, found⟩
    obtain ⟨_, called⟩ := Option.isSome_iff_exists.mp found
    obtain ⟨call, named, _⟩ := Option.bind_eq_some_iff.mp called
    rw [afterLiteral_eq_some.mp named] at split
    have seamless : IsSeamless "DBDELETE".toList "DBDELETE()".toList := by decide
    obtain ⟨more, rfl, _⟩ := seamless.placed noDelete split.symm
    rw [List.length_append] at short
    exact Nat.le_of_add_right_le short
  · intro short
    exact ⟨gap, "DBDELETE()".toList, rfl, short, rfl⟩

/-- An arrow that is found follows the name of the table behind blanks. -/
theorem TableName.exists_blanks_of_arrow {table : TableName} {text : List Char}
    (found : (table.arrow text).isSome = true) :
    ∃ blanks rest, text = table.label.toList ++ (blanks ++ '-' :: '>' :: rest) ∧
      ∀ character ∈ blanks, isBlank character = true := by
  obtain ⟨rest, read⟩ := Option.isSome_iff_exists.mp found
  obtain ⟨name, spelt, arrow⟩ := Option.bind_eq_some_iff.mp read
  obtain ⟨blanks, rfl, blank⟩ := exists_blanks_of_afterSpaced arrow
  exact ⟨blanks, rest, afterLiteral_eq_some.mp spelt, blank⟩

/-- Neither the call of the lock nor the deletion has an arrow, and the name before an arrow of the
gap would be in the gap as well. -/
theorem TableName.arrow_notFound {table : TableName} {gap : String} {before behind : List Char}
    (noTable : ¬ table.label.toList <:+: gap.toList)
    (split : (table.lockedDeletion gap).toList = before ++ behind) : table.arrow behind = none := by
  rw [← Option.not_isSome_iff_eq_none]
  intro found
  obtain ⟨blanks, rest, rfl, blank⟩ := TableName.exists_blanks_of_arrow found
  have outside {mark : Char} (noWord : isWord mark = false) (noBlank : isBlank mark = false) :
      mark ∉ table.label.toList ++ blanks := by
    rw [List.mem_append, not_or]
    refine ⟨table.notMem_label noWord, ?_⟩
    intro member
    rw [blank mark member] at noBlank
    exact Bool.noConfusion noBlank
  have noArrow : '-' ∉ table.lockCall.toList := by
    have noName : '-' ∉ table.label.toList := table.notMem_label (by decide)
    simp [table.toList_lockCall, noName]
  rw [table.toList_lockedDeletion,
    show before ++ (table.label.toList ++ (blanks ++ '-' :: '>' :: rest)) =
      (before ++ (table.label.toList ++ blanks)) ++ '-' :: '>' :: rest by simp] at split
  obtain ⟨upToArrow, named, onward⟩ := exists_gap_before_mark noArrow split
  -- The arrow is neither in the call nor in the deletion, so what leads up to it is in the gap.
  have within : upToArrow <+: gap.toList := by
    obtain ⟨surplus, _, deletion⟩ | ⟨more, longer, _⟩ := List.append_eq_append_iff.mp onward
    · have arrow : '-' ∈ "DBDELETE()".toList := deletion ▸ List.mem_append_right surplus (by simp)
      exact absurd arrow (by decide)
    · exact ⟨more, longer.symm⟩
  -- The name reaches over blanks to the arrow and cannot go over the last parenthesis of the call.
  let front := "RECLOCK(".toList ++ '"' :: (table.label.toList ++ '"' :: ",.F.".toList)
  have closing : before ++ ((table.label.toList ++ blanks) ++ []) = front ++ ')' :: upToArrow := by
    rw [List.append_nil, named, table.toList_lockCall]
    simp [front]
  obtain ⟨_, _, nothing⟩ | ⟨_, _, inGap⟩ :=
    placed_around_mark ')' (outside (by decide) (by decide)) closing
  · exact absurd nothing (by simp)
  · rw [List.append_nil] at inGap
    exact noTable ((infix_of_split inGap).trans within.isInfix)

/-- The text deletes by the lock alone. -/
theorem TableName.hasDelete_lockedDeletion (table : TableName) {gap : String}
    (noLock : ¬ "RECLOCK".toList <:+: gap.toList)
    (noTable : ¬ table.label.toList <:+: gap.toList) :
    (table.flags (table.lockedDeletion gap)).hasDelete =
      (occursWithin deleteCall deleteReach (gap.toList ++ "DBDELETE()".toList)).isSome := by
  have byArrow : holdsAtWordStart table.deleteByArrow (table.lockedDeletion gap) = false := by
    rw [Bool.eq_false_iff, Ne, holdsAtWordStart, occursAtWordStart_iff table.deleteByArrow_nil]
    rintro ⟨before, behind, split, _, found⟩
    have arrow := TableName.isSome_arrow_of_delete found
    rw [TableName.arrow_notFound noTable split] at arrow
    exact Bool.noConfusion arrow
  have afterLock : (table.flags (table.lockedDeletion gap)).hasDelete =
      holdsPhrase table.deleteAfterLock (table.lockedDeletion gap) := by
    simp only [TableName.flags, byArrow, Bool.false_or]
  rw [afterLock, ← table.deleteAfterLock_lockCall, ← table.toList_lockedDeletion, Bool.eq_iff_iff,
    holdsPhrase, occursAnywhere_iff]
  constructor
  · rintro ⟨before, behind, split, _, found⟩
    obtain rfl := TableName.before_eq_nil_of_lock noLock split
      (TableName.isSome_lockForUpdate_of_delete found)
    rw [split]
    exact found
  · intro found
    exact ⟨[], _, rfl, rfl, found⟩

/-- Behind a lock of the table and a gap that holds no deletion, no lock and not the table's name, a
deletion counts exactly when the gap has at most four hundred characters, whatever they are. -/
theorem TableName.hasDelete_lockedDeletion_iff (table : TableName) (gap : String)
    (noDelete : ¬ "DBDELETE".toList <:+: gap.toList)
    (noLock : ¬ "RECLOCK".toList <:+: gap.toList)
    (noTable : ¬ table.label.toList <:+: gap.toList) :
    (table.flags (table.lockedDeletion gap)).hasDelete = true ↔ gap.length ≤ 400 := by
  rw [table.hasDelete_lockedDeletion noLock noTable, isSome_deleteCall_within_iff noDelete,
    String.length_toList, deleteReach]

/-- This gap repeats a closing parenthesis, a quote, a line feed and a letter outside ASCII, and
ends with some more blanks. -/
def mixedGap (repeats more : Nat) : String :=
  String.ofList ((List.replicate repeats [')', '"', '\n', Char.ofNat 0xE9]).flatten ++
    List.replicate more ' ')

theorem length_mixedGap (repeats more : Nat) :
    (mixedGap repeats more).length = repeats * 4 + more := by
  rw [mixedGap, String.length_ofList, List.length_append, List.length_flatten, List.map_replicate,
    List.sum_replicate_nat, List.length_replicate]
  rfl

/-- The gap misses every phrase with a letter that it does not repeat. -/
theorem not_infix_mixedGap (letter : Char) {phrase : List Char} (member : letter ∈ phrase)
    (other : letter ∉ [')', '"', '\n', Char.ofNat 0xE9, ' ']) (repeats more : Nat) :
    ¬ phrase <:+: (mixedGap repeats more).toList := by
  intro inside
  rw [mixedGap, String.toList_ofList] at inside
  have repeated : letter ∈ [')', '"', '\n', Char.ofNat 0xE9, ' '] := by
    obtain block | blank := List.mem_append.mp (inside.subset member)
    · obtain ⟨marks, isBlock, inBlock⟩ := List.mem_flatten.mp block
      rw [List.eq_of_mem_replicate isBlock] at inBlock
      exact List.mem_append_left [' '] inBlock
    · rw [List.eq_of_mem_replicate blank]
      simp
  exact other repeated

/-- Behind four hundred characters of such a gap a deletion counts, and one more is too many. -/
theorem TableName.hasDelete_behind_mixedGap :
    (mixedGap 100 0).length = 400 ∧ (mixedGap 100 1).length = 401 ∧
      (referredTable.flags (referredTable.lockedDeletion (mixedGap 100 0))).hasDelete = true ∧
      (referredTable.flags (referredTable.lockedDeletion (mixedGap 100 1))).hasDelete = false := by
  have counts (more : Nat) :
      (referredTable.flags (referredTable.lockedDeletion (mixedGap 100 more))).hasDelete = true ↔
        (mixedGap 100 more).length ≤ 400 :=
    referredTable.hasDelete_lockedDeletion_iff (mixedGap 100 more)
      (not_infix_mixedGap 'D' (by decide) (by decide) 100 more)
      (not_infix_mixedGap 'R' (by decide) (by decide) 100 more)
      (not_infix_mixedGap 'P' (by decide) (by decide) 100 more)
  have reach := length_mixedGap 100 0
  have further := length_mixedGap 100 1
  refine ⟨reach, further, (counts 0).mpr (reach ▸ Nat.le_refl _), ?_⟩
  rw [Bool.eq_false_iff, Ne, counts 1, further]
  decide

end RoutineAtlas
