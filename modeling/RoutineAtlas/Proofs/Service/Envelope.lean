import RoutineAtlas.Proofs.Document.Encoding
import RoutineAtlas.Proofs.Lookup.Request

/-
This file reads the document of an answer back. It tells a success exactly where the answer has data
and no account of a failure, and for a search exactly where there is a row.
-/

namespace RoutineAtlas

/-- An answer is consistent when it is positive exactly where it has data, and exactly where it has
no account. -/
structure Answer.IsConsistent {A : Type} (answer : Answer A) : Prop where
  data : answer.isPositive = true ↔ answer.data?.isSome = true
  account : answer.isPositive = true ↔ answer.account? = none

theorem Answer.isConsistent {A : Type} (answer : Answer A) : answer.IsConsistent where
  data := by rw [Answer.isPositive]
  account := by rw [Answer.isPositive_eq, Option.isNone_iff_eq_none]

/-- This is the document of a field of a record. -/
def Document.field? (name : String) : Document → Option Document
  | .record fields => fields.lookup name
  | _ => none

/-- The document of an answer is consistent when it tells a success exactly where it has data, and
exactly where it has no account. -/
structure Document.IsConsistent (document : Document) : Prop where
  told : ∃ success, document.field? "success" = some (.bool success)
  data : document.field? "success" = some (.bool true) ↔ (document.field? "data").isSome = true
  diagnostics : document.field? "success" = some (.bool true) ↔
    document.field? "diagnostics" = none

/-- These are the fields of a document that was made of an answer. -/
structure Answer.HasFields {A : Type} (encode : A → Except AccessFault Document)
    (answer : Answer A) (document : Document) : Prop where
  success : document.field? "success" = some (.bool answer.isPositive)
  data : answer.data?.mapM encode = .ok (document.field? "data")
  diagnostics : answer.account?.mapM SearchAccount.document = .ok (document.field? "diagnostics")

theorem Answer.hasFields_of_document {A : Type} {encode : A → Except AccessFault Document}
    {answer : Answer A} {document : Document} (made : answer.document encode = .ok document) :
    answer.HasFields encode document := by
  obtain ⟨data, encoded, made⟩ := exists_of_bind_eq_ok made
  obtain ⟨provenance, _, made⟩ := exists_of_bind_eq_ok made
  obtain ⟨account, told, made⟩ := exists_of_bind_eq_ok made
  obtain rfl := Except.ok.inj made
  refine ⟨rfl, encoded.trans (congrArg Except.ok ?_), told.trans (congrArg Except.ok ?_)⟩
  · cases data <;> cases account <;> rfl
  · cases data <;> cases account <;> rfl

/-- An optional value is encoded to one that is there exactly when it is there. -/
theorem isSome_of_mapM_eq_ok {A B : Type} {encode : A → Except AccessFault B} {item : Option A}
    {encoded : Option B} (made : item.mapM encode = .ok encoded) :
    encoded.isSome = item.isSome := by
  cases item with
  | none =>
      obtain rfl := Except.ok.inj made
      rfl
  | some item =>
      rw [Option.mapM_some] at made
      obtain ⟨value, _, own⟩ := exists_of_bind_eq_ok made
      obtain rfl := Except.ok.inj own
      rfl

/-- The documents of all answers are consistent. -/
theorem Answer.isConsistent_document {A : Type} {encode : A → Except AccessFault Document}
    {answer : Answer A} {document : Document} (made : answer.document encode = .ok document) :
    document.IsConsistent where
  told := ⟨_, (hasFields_of_document made).success⟩
  data := by
    rw [(hasFields_of_document made).success,
      isSome_of_mapM_eq_ok (hasFields_of_document made).data, Answer.isPositive]
    simp
  diagnostics := by
    rw [(hasFields_of_document made).success, ← Option.isNone_iff_eq_none, ← Option.not_isSome,
      isSome_of_mapM_eq_ok (hasFields_of_document made).diagnostics, Answer.isPositive_eq]
    simp

/-- The data of the document are a list of rows, with one row at least. -/
def Document.HasRows (document : Document) : Prop :=
  ∃ row rows, document.field? "data" = some (.list (row :: rows))

/-- Rows are encoded one by one. -/
theorem exists_list_of_rowsDocument {row : UsageRow} {rows : List UsageRow} {document : Document}
    (made : rowsDocument (row :: rows) = .ok document) :
    ∃ first others, document = .list (first :: others) := by
  obtain ⟨documents, encoded, own⟩ := exists_of_bind_eq_ok made
  obtain rfl := Except.ok.inj own
  rw [List.mapM_cons] at encoded
  obtain ⟨first, _, encoded⟩ := exists_of_bind_eq_ok encoded
  obtain ⟨others, _, own⟩ := exists_of_bind_eq_ok encoded
  obtain rfl := Except.ok.inj own
  exact ⟨first, others, rfl⟩

/-- The answer of a search has rows exactly when the search has some. -/
theorem hasRows_tableAnswer {place : NamedRoot} {search : UsageSearch} {document : Document}
    (made : tableDocument (tableAnswer place search) = .ok document) :
    document.HasRows ↔ search.rows ≠ [] := by
  have encoded := (Answer.hasFields_of_document made).data
  constructor
  · rintro ⟨row, rows, own⟩
    have there := isSome_of_mapM_eq_ok encoded
    rw [own, Option.isSome_some, eq_comm, Option.isSome_iff_exists] at there
    obtain ⟨listed, data⟩ := there
    obtain ⟨same, some⟩ := data_tableAnswer_eq_some_iff.mp data
    rwa [same]
  · intro there
    obtain ⟨row, rows, split⟩ := List.exists_cons_of_ne_nil there
    rw [data_tableAnswer_eq_some_iff.mpr ⟨rfl, there⟩, split, Option.mapM_some] at encoded
    obtain ⟨data, listed, own⟩ := exists_of_bind_eq_ok encoded
    obtain ⟨first, others, rfl⟩ := exists_list_of_rowsDocument listed
    exact ⟨first, others, (Except.ok.inj own).symm⟩

/-- The answer of a search tells a success exactly when the search has rows. -/
theorem isPositive_tableAnswer (place : NamedRoot) (search : UsageSearch) :
    (tableAnswer place search).isPositive = true ↔ search.rows ≠ [] := by
  rw [Answer.isPositive, Option.isSome_iff_exists]
  constructor
  · rintro ⟨rows, data⟩
    obtain ⟨rfl, there⟩ := data_tableAnswer_eq_some_iff.mp data
    exact there
  · intro there
    exact ⟨_, data_tableAnswer_eq_some_iff.mpr ⟨rfl, there⟩⟩

end RoutineAtlas
