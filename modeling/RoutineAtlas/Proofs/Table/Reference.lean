import RoutineAtlas.Proofs.Table.Search
import RoutineAtlas.Proofs.Text.Occurrence
import RoutineAtlas.Proofs.Text.Words

/-
This file settles which texts refer to a table. Whatever phrase names the table, its name stands
there as a whole word, so that the words of the text decide.
-/

namespace RoutineAtlas

/-- The name of a table is a run of word characters. -/
theorem TableName.isWordRun (table : TableName) : IsWordRun table.label.toList where
  filled := String.toList_eq_nil_iff.not.mpr table.notEmpty
  words := fun _ member => table.isWord_of_mem member

/-- The text holds the content between two marks that belong to no word. -/
def HoldsQuoted (content : String) (text : List Char) : Prop :=
  ∃ before opening closing behind,
    text = before ++ opening :: (content.toList ++ closing :: behind) ∧
      isWord opening = false ∧ isWord closing = false

theorem HoldsQuoted.of_suffix {content : String} {rest text : List Char}
    (holds : HoldsQuoted content rest) (suffix : rest <:+ text) : HoldsQuoted content text := by
  obtain ⟨front, rfl⟩ := suffix
  obtain ⟨before, opening, closing, behind, rfl, outside⟩ := holds
  exact ⟨front ++ before, opening, closing, behind, (List.append_assoc _ _ _).symm, outside⟩

theorem isSuffix_of_afterLiteral {literal : String} {text rest : List Char}
    (read : afterLiteral literal text = some rest) : rest <:+ text :=
  ⟨literal.toList, (afterLiteral_eq_some.mp read).symm⟩

theorem isSuffix_of_afterSpaced {literal : String} {text rest : List Char}
    (read : afterSpaced literal text = some rest) : rest <:+ text :=
  (isSuffix_of_afterLiteral read).trans (List.dropWhile_suffix isBlank)

/-- A quote of either kind belongs to no word. -/
theorem exists_of_afterQuote {text rest : List Char} (read : afterQuote text = some rest) :
    ∃ quote, text = quote :: rest ∧ isWord quote = false := by
  obtain ⟨quote, split, isQuote⟩ := afterQuote_eq_some_iff.mp read
  refine ⟨quote, split, ?_⟩
  obtain rfl | rfl := isQuote
  · decide
  · decide

theorem holdsQuoted_of_afterQuoted {content : String} {text rest : List Char}
    (read : afterQuoted content text = some rest) : HoldsQuoted content text := by
  simp only [afterQuoted, Option.bind_eq_bind, Option.bind_eq_some_iff] at read
  obtain ⟨inside, opened, between, spelt, closed⟩ := read
  obtain ⟨opening, skipped, opensOutside⟩ := exists_of_afterQuote opened
  obtain ⟨closing, rfl, closesOutside⟩ := exists_of_afterQuote closed
  have quoted : HoldsQuoted content (skipBlanks text) :=
    ⟨[], opening, closing, rest, by rw [skipped, afterLiteral_eq_some.mp spelt]; rfl,
      opensOutside, closesOutside⟩
  exact quoted.of_suffix (List.dropWhile_suffix isBlank)

/-- An argument list that is recognised holds the name between quotes. -/
theorem TableName.holdsQuoted_of_quotedArgument {table : TableName} {text : List Char}
    (found : (table.quotedArgument text).isSome = true) : HoldsQuoted table.label text := by
  obtain ⟨rest, read⟩ := Option.isSome_iff_exists.mp found
  simp only [TableName.quotedArgument, Option.bind_eq_bind, Option.bind_eq_some_iff] at read
  obtain ⟨argument, opened, closing, quoted, _⟩ := read
  exact (holdsQuoted_of_afterQuoted quoted).of_suffix (isSuffix_of_afterLiteral opened)

theorem TableName.holdsQuoted_of_selection {table : TableName} {text : List Char}
    (found : (table.selection text).isSome = true) : HoldsQuoted table.label text := by
  obtain ⟨rest, read⟩ := Option.isSome_iff_exists.mp found
  simp only [TableName.selection, Option.bind_eq_bind, Option.bind_eq_some_iff] at read
  obtain ⟨call, named, argument⟩ := read
  have quoted := TableName.holdsQuoted_of_quotedArgument (Option.isSome_of_eq_some argument)
  exact quoted.of_suffix
    ((List.dropWhile_suffix isBlank).trans (isSuffix_of_afterLiteral named))

theorem TableName.holdsQuoted_of_lock {table : TableName} {text rest : List Char}
    (read : table.lock text = some rest) : HoldsQuoted table.label text := by
  simp only [TableName.lock, Option.bind_eq_bind, Option.bind_eq_some_iff] at read
  obtain ⟨call, named, argument, opened, closing, quoted, _⟩ := read
  exact (holdsQuoted_of_afterQuoted quoted).of_suffix
    ((isSuffix_of_afterSpaced opened).trans (isSuffix_of_afterLiteral named))

/-- A lock names the table between quotes, whatever its second argument is. -/
theorem TableName.holdsQuoted_of_lockWith {table : TableName} {argument : String}
    {text : List Char} (found : (table.lock text >>= afterLiteral argument).isSome = true) :
    HoldsQuoted table.label text := by
  obtain ⟨second, locked⟩ := Option.isSome_iff_exists.mp (Option.isSome_of_isSome_bind found)
  exact TableName.holdsQuoted_of_lock locked

/-- A deletion after a lock begins with the lock. -/
theorem TableName.isSome_lockForUpdate_of_delete {table : TableName} {text : List Char}
    (found : (table.deleteAfterLock text).isSome = true) :
    (table.lockForUpdate text).isSome = true :=
  Option.isSome_of_isSome_bind found

/-- A text that goes on with the arrow goes on with no word. -/
theorem stops_isWord_of_arrow {text rest : List Char} (read : afterSpaced "->" text = some rest) :
    Stops isWord text := by
  cases text with
  | nil => simp [Stops]
  | cons first others =>
      apply stops_cons.mpr
      cases blank : isBlank first with
      | true =>
          by_contra word
          rw [Bool.not_eq_false] at word
          rw [isBlank_of_isWord word] at blank
          exact Bool.noConfusion blank
      | false =>
          rw [afterSpaced, skipBlanks_cons_of_not_blank blank, afterLiteral_eq_some] at read
          obtain rfl : first = '-' := (List.cons.inj read).1
          decide

/-- Before an arrow the name of a table is a whole word. -/
theorem TableName.isSome_word_of_arrow {table : TableName} {text : List Char}
    (found : (table.arrow text).isSome = true) : (table.word text).isSome = true := by
  obtain ⟨rest, read⟩ := Option.isSome_iff_exists.mp found
  obtain ⟨name, spelt, arrow⟩ := Option.bind_eq_some_iff.mp read
  exact Option.isSome_of_eq_some
    (afterWord_eq_some_iff.mpr ⟨afterLiteral_eq_some.mp spelt, stops_isWord_of_arrow arrow⟩)

theorem TableName.isSome_arrow_of_delete {table : TableName} {text : List Char}
    (found : (table.deleteByArrow text).isSome = true) : (table.arrow text).isSome = true :=
  Option.isSome_of_isSome_bind found

theorem TableName.word_nil (table : TableName) : table.word [] = none :=
  afterWord_of_stops table.isWordRun (by simp [Stops])

/-- A name between quotes stands as a whole word. -/
theorem TableName.holds_word_of_holdsQuoted {table : TableName} {text : String}
    (holds : HoldsQuoted table.label text.toList) : holdsAtWordStart table.word text = true := by
  obtain ⟨before, opening, closing, behind, split, opensOutside, closesOutside⟩ := holds
  refine (occursAtWordStart_iff table.word_nil).mpr
    ⟨before ++ [opening], table.label.toList ++ closing :: behind, by simp [split], ?_, ?_⟩
  · rw [isOpenBehind_append_cons, opensOutside]
    rfl
  · exact Option.isSome_of_eq_some
      (afterWord_eq_some_iff.mpr ⟨rfl, stops_cons.mpr closesOutside⟩)

/-- A phrase that holds the name between quotes brings it as a whole word. -/
theorem TableName.holds_word_of_phrase {table : TableName} {recognizer : Recognizer}
    (quotes : ∀ place, (recognizer place).isSome = true → HoldsQuoted table.label place)
    {text : String} (holds : holdsPhrase recognizer text = true) :
    holdsAtWordStart table.word text = true := by
  obtain ⟨before, behind, split, _, found⟩ := occursAnywhere_iff.mp holds
  exact TableName.holds_word_of_holdsQuoted
    ((quotes behind found).of_suffix ⟨before, split.symm⟩)

/-- A phrase that begins with the name as a whole word brings it as one. -/
theorem TableName.holds_word_of_arrow {table : TableName} {recognizer : Recognizer}
    (names : ∀ place, (recognizer place).isSome = true → (table.word place).isSome = true)
    {text : String} (holds : holdsAtWordStart recognizer text = true) :
    holdsAtWordStart table.word text = true := by
  have filled : recognizer [] = none := by
    rw [← Option.not_isSome_iff_eq_none]
    intro found
    have word := names [] found
    rw [table.word_nil] at word
    exact Bool.noConfusion word
  exact (occursAtWordStart_iff table.word_nil).mpr
    (((occursAtWordStart_iff filled).mp holds).imp names)

/-- A text refers to a table when it holds its name as a whole word. The other phrases never change
the answer. -/
theorem TableName.isReferenced_eq_word (table : TableName) (text : String) :
    table.isReferenced text = holdsAtWordStart table.word text := by
  rw [Bool.eq_iff_iff, TableName.isReferenced]
  simp only [Bool.or_eq_true]
  constructor
  · rintro (((word | selection) | argument) | arrow)
    · exact word
    · exact TableName.holds_word_of_phrase
        (fun _ found => TableName.holdsQuoted_of_selection found) selection
    · exact TableName.holds_word_of_phrase
        (fun _ found => TableName.holdsQuoted_of_quotedArgument found) argument
    · exact TableName.holds_word_of_arrow
        (fun _ found => TableName.isSome_word_of_arrow found) arrow
  · exact fun word => Or.inl (Or.inl (Or.inl word))

/-- The occurrences of a table are the words that are its name. -/
theorem TableName.occurrences_eq (table : TableName) (text : String) :
    table.occurrences text = (wordsOf text.toList).count table.label.toList :=
  (countAtWordStart_afterWord table.isWordRun text.toList).1

theorem TableName.isReferenced_iff (table : TableName) (text : String) :
    table.isReferenced text = true ↔ 1 ≤ table.occurrences text := by
  rw [table.isReferenced_eq_word, holdsAtWordStart, occursAtWordStart_eq_decide,
    decide_eq_true_iff]
  rfl

/-- The occurrences of a table in a text are as many as the words of the text that are its name. -/
theorem TableName.occurrences_are_words (table : TableName) (text : String) :
    table.occurrences text = (wordsOf text.toList).count table.label.toList ∧
      table.occurrences text = countInTurn table.word false 0 text.toList ∧
      (table.isReferenced text = true ↔
        1 ≤ (wordsOf text.toList).count table.label.toList) ∧
      table.isReferenced text = holdsAtWordStart table.word text := by
  refine ⟨table.occurrences_eq text, ?_, ?_, table.isReferenced_eq_word text⟩
  · exact (countInTurn_afterWord table.isWordRun (by simp) (by simp)).symm
  · rw [table.isReferenced_iff, table.occurrences_eq]

/-- A write to the records of a table names the table as a whole word. -/
theorem TableName.holds_word_of_isCrud {table : TableName} {text : String}
    (writes : (table.flags text).isCrud = true) : holdsAtWordStart table.word text = true := by
  simp only [UsageMarks.isCrud, TableName.flags, Bool.or_eq_true] at writes
  obtain (insert | update) | byArrow | afterLock := writes
  · exact TableName.holds_word_of_phrase
      (fun _ found => TableName.holdsQuoted_of_lockWith found) insert
  · exact TableName.holds_word_of_phrase
      (fun _ found => TableName.holdsQuoted_of_lockWith found) update
  · exact TableName.holds_word_of_arrow
      (fun _ found => TableName.isSome_word_of_arrow (TableName.isSome_arrow_of_delete found))
      byArrow
  · exact TableName.holds_word_of_phrase
      (fun _ found => TableName.holdsQuoted_of_lockWith
        (TableName.isSome_lockForUpdate_of_delete found)) afterLock

/-- Any record-level mark of a text comes with a reference to the table, and a deletion after a lock
comes with an update. So a search judges every file with a routine's name that shows such a mark. -/
theorem TableName.marks_refer (table : TableName) :
    (∀ text : String,
      (table.flags text).hasInsert = true ∨ (table.flags text).hasUpdate = true ∨
          (table.flags text).hasDelete = true →
        table.isReferenced text = true ∧ 1 ≤ table.occurrences text) ∧
    (∀ text : String, holdsPhrase table.deleteAfterLock text = true →
      (table.flags text).hasDelete = true ∧ (table.flags text).hasUpdate = true) ∧
    ∀ (tally : Tally) (tree : FileTree) (options : SearchOptions) (path : PathName)
      (content : String),
      tree.readSource path = .ok content →
      (table.flags (upperCase content)).isCrud = true →
        let scanned := { tally with filesScanned := tally.filesScanned + 1 }
        tally.visit tree table options path =
          match routineOfPath path with
          | none => scanned
          | some name => scanned.judge tree table options name path content := by
  have refers {text : String} (writes : (table.flags text).isCrud = true) :
      table.isReferenced text = true := by
    rw [table.isReferenced_eq_word]
    exact TableName.holds_word_of_isCrud writes
  refine ⟨?_, ?_, ?_⟩
  · intro text mark
    have referenced : table.isReferenced text = true := by
      apply refers
      simpa [UsageMarks.isCrud, or_assoc] using mark
    exact ⟨referenced, (table.isReferenced_iff text).mp referenced⟩
  · intro text deletes
    obtain ⟨before, behind, split, allowed, found⟩ := occursAnywhere_iff.mp deletes
    refine ⟨by rw [TableName.flags, deletes, Bool.or_true], occursAnywhere_iff.mpr ?_⟩
    exact ⟨before, behind, split, allowed, TableName.isSome_lockForUpdate_of_delete found⟩
  · intro tally tree options path content read writes
    rw [Tally.visit, read]
    dsimp only
    refine (if_pos (refers writes)).trans ?_
    cases routineOfPath path <;> rfl

/-- The only source of this tree locks a record of the table and deletes it. -/
def deletingSource : FileTree where
  top := .directory { entries := [
    ("A1.prw", .file (utf8Bytes "RecLock('PD3', .F.)\n  DbDelete()"))] }
  workingDirectory := "/"

theorem read_deletingSource :
    deletingSource.readSource "/A1.prw" = .ok "RecLock('PD3', .F.)\n  DbDelete()" := by
  have held : deletingSource.entry "/A1.prw" =
      .ok (.file (utf8Bytes "RecLock('PD3', .F.)\n  DbDelete()")) :=
    FileTree.entry_of_steps rfl ["A1.prw"] rfl (Entry.searchable_singleton rfl _) (by simp)
      (by decide) (by simp) (by decide) (by decide)
  simp [FileTree.readSource, FileTree.read_of_entry held, Except.map]

/-- The source refers to the table, it updates and deletes, and a search judges its routine. -/
theorem TableName.marks_refer_in_deletingSource :
    let content := "RecLock('PD3', .F.)\n  DbDelete()"
    let marks := referredTable.flags (upperCase content)
    marks.hasDelete = true ∧ marks.hasUpdate = true ∧
      1 ≤ referredTable.occurrences (upperCase content) ∧
      ∀ classifier options,
        (Tally.start classifier).visit deletingSource referredTable options "/A1.prw" =
          ({ Tally.start classifier with filesScanned := 1 } : Tally).judge deletingSource
            referredTable options { typed := "A1", base := "A1" } "/A1.prw" content := by
  intro content marks
  obtain ⟨refer, deletes, judged⟩ := TableName.marks_refer referredTable
  have afterLock : holdsPhrase referredTable.deleteAfterLock (upperCase content) = true := by decide
  obtain ⟨delete, update⟩ := deletes (upperCase content) afterLock
  refine ⟨delete, update, (refer (upperCase content) (Or.inr (Or.inr delete))).2, ?_⟩
  intro classifier options
  have writes : marks.isCrud = true := by rw [UsageMarks.isCrud, delete, Bool.or_true]
  have held : routineOfPath "/A1.prw" = some { typed := "A1", base := "A1" } := by decide
  have visited := judged (.start classifier) deletingSource options "/A1.prw" content
    read_deletingSource writes
  rwa [held] at visited

end RoutineAtlas
