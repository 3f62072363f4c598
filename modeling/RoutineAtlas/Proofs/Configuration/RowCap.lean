import RoutineAtlas.Configuration.Override
import RoutineAtlas.Proofs.Lookup.Request

/-
This file settles which row cap a configuration ends up with. It is positive unless the file writes
zero and no setting overrides it.
-/

namespace RoutineAtlas

/-- This is the row cap that a record of limits writes. -/
def YamlDocument.rowCap? (document : YamlDocument) (limits : YamlNode) : Option Nat := do
  let fields ← document.record? limits
  let cap ← fields.lookup "max-results"
  document.limit? cap

/-- This is the row cap that a configuration text writes, if it writes one. -/
def writtenRowCap? (text : String) : Option Nat := do
  match ← YamlStream.read text with
  | .empty => none
  | .document content => do
      let fields ← content.record? content.root
      let limits ← fields.lookup "search"
      content.rowCap? limits

/-- The entries of a name begin with the one that is looked up. -/
theorem lookup_eq_head?_filter (name : String) (fields : List (String × YamlNode)) :
    fields.lookup name = ((fields.filter fun field => field.1 == name).head?).map Prod.snd := by
  induction fields with
  | nil => rfl
  | cons field rest inductionHypothesis =>
      obtain ⟨key, value⟩ := field
      by_cases same : key = name
      · simp [same]
      · have other : (name == key) = false := by simpa using Ne.symm same
        simp [List.lookup_cons, same, other, inductionHypothesis]

/-- A field that is read is absent and usual, or it is the one of its name. -/
theorem readField_cases {A : Type} {read : YamlNode → Option A} {usual value : A} {name : String}
    {fields : List (String × YamlNode)} (found : readField read usual name fields = some value) :
    (fields.lookup name = none ∧ value = usual) ∨
      ∃ node, fields.lookup name = some node ∧ read node = some value := by
  rw [lookup_eq_head?_filter]
  rw [readField] at found
  split at found
  · rename_i absent
    exact Or.inl ⟨by rw [absent]; rfl, (Option.some.inj found).symm⟩
  · rename_i key node once
    exact Or.inr ⟨node, by rw [once]; rfl, found⟩
  · exact absurd found (by simp)

/-- Limits that are read have the cap that is written, or else the usual one. -/
theorem SearchLimits.maxResults_of_node {document : YamlDocument} {node : YamlNode}
    {limits : SearchLimits} (read : SearchLimits.ofNode document node = some limits) :
    limits.maxResults = (document.rowCap? node).getD SearchLimits.usual.maxResults := by
  simp only [SearchLimits.ofNode, Option.bind_eq_bind, Option.bind_eq_some_iff] at read
  obtain ⟨fields, record, cap, found, routine, _, table, _, discovery, _, same⟩ := read
  obtain rfl := Option.some.inj same
  simp only [YamlDocument.rowCap?, record, Option.bind_eq_bind, Option.bind_some]
  obtain ⟨absent, usual⟩ | ⟨written, present, own⟩ := readField_cases found
  · rw [absent, usual]
    rfl
  · rw [present, Option.bind_some, own]
    rfl

/-- A configuration that is read has the cap that its text writes, or else the usual one. -/
theorem Configuration.maxResults_of_text {text : String} {configured : Configuration}
    (loaded : Configuration.ofText text = some configured) :
    configured.search.maxResults =
      (writtenRowCap? text).getD SearchLimits.usual.maxResults := by
  simp only [Configuration.ofText, Option.bind_eq_bind, Option.bind_eq_some_iff] at loaded
  obtain ⟨stream, read, loaded⟩ := loaded
  rw [writtenRowCap?, read, Option.bind_eq_bind, Option.bind_some]
  cases stream with
  | empty =>
      obtain rfl := Option.some.inj loaded
      rfl
  | document content =>
      simp only [Configuration.ofDocument, Option.bind_eq_bind, Option.bind_eq_some_iff] at loaded
      obtain ⟨fields, record, roots, _, search, found, same⟩ := loaded
      obtain rfl := Option.some.inj same
      simp only [record, Option.bind_eq_bind, Option.bind_some]
      obtain ⟨absent, usual⟩ | ⟨limits, present, own⟩ := readField_cases found
      · rw [absent, usual]
        rfl
      · rw [present, Option.bind_some, SearchLimits.maxResults_of_node own]

/-- A row cap that a setting gives is positive. -/
theorem pos_of_readRowCap {value : String} {cap : Nat} (read : readRowCap value = some cap) :
    1 ≤ cap := by
  obtain ⟨_, positive⟩ := Option.filter_eq_some_iff.mp read
  exact of_decide_eq_true positive

/-- An override that succeeds leaves the cap, or a setting is given and the cap is positive. -/
theorem Configuration.maxResults_override {configured configuration : Configuration}
    {lookup : Setting → Option String}
    (overridden : configured.override lookup = (configuration, none)) :
    (givenValue lookup .maxResults = none ∧
        configuration.search.maxResults = configured.search.maxResults) ∨
      ((givenValue lookup .maxResults).isSome ∧ 1 ≤ configuration.search.maxResults) := by
  rw [Configuration.override] at overridden
  dsimp only at overridden
  split at overridden
  · rename_i absent
    obtain rfl := congrArg Prod.fst overridden
    exact Or.inl ⟨absent, rfl⟩
  · rename_i value given
    split at overridden
    · rename_i cap read
      obtain rfl := congrArg Prod.fst overridden
      exact Or.inr ⟨by rw [given]; rfl, pos_of_readRowCap read⟩
    · exact absurd (congrArg Prod.snd overridden) (by simp)

/-- The name of a table is never refused for the cap. -/
theorem TableName.parse_ne_zeroCap (typed : String) :
    TableName.parse typed ≠ .error (.input .zeroCap) := by
  intro refused
  rw [TableName.parse] at refused
  split at refused
  · exact absurd refused (by simp)
  · split at refused
    · exact absurd refused (by simp)
    · exact absurd refused (by simp)

/-- A table request fails on the cap only when the cap that counts is zero. -/
theorem Atlas.RefusesTable.zero_of_zeroCap {atlas : Atlas} {query : TableQuery}
    (refused : atlas.RefusesTable query (.input .zeroCap)) :
    query.maxResults.getD atlas.configuration.search.maxResults = 0 := by
  cases refused with
  | name rejected => exact absurd rejected (TableName.parse_ne_zeroCap query.table)
  | cap _ _ zero => exact zero

/-- The row cap is positive unless the configuration text writes zero and no setting gives a cap. -/
theorem Configuration.rowCap_positive_unless_written_zero {text : String}
    {lookup : Setting → Option String} {configured configuration : Configuration}
    (loaded : Configuration.ofText text = some configured)
    (overridden : configured.override lookup = (configuration, none)) :
    (1 ≤ configuration.search.maxResults ↔
      writtenRowCap? text ≠ some 0 ∨ (givenValue lookup .maxResults).isSome) ∧
    ∀ (classifier : Classifier) (host : Host) (query : TableQuery), query.maxResults = none →
      ((Atlas.mk configuration classifier).answerTable host query).1 = .error (.input .zeroCap) →
        writtenRowCap? text = some 0 ∧ givenValue lookup .maxResults = none := by
  have positive : 1 ≤ configuration.search.maxResults ↔
      writtenRowCap? text ≠ some 0 ∨ (givenValue lookup .maxResults).isSome := by
    obtain ⟨absent, kept⟩ | ⟨given, positive⟩ := Configuration.maxResults_override overridden
    · rw [kept, Configuration.maxResults_of_text loaded, absent]
      cases writtenRowCap? text with
      | none => simp [SearchLimits.usual]
      | some cap => simp [Nat.one_le_iff_ne_zero]
    · exact iff_of_true positive (Or.inr given)
  refine ⟨positive, ?_⟩
  intro classifier host query without failed
  have zero : configuration.search.maxResults = 0 := by
    obtain ⟨fault, refused, answer⟩ | ⟨table, place, searches⟩ :=
      (Atlas.mk configuration classifier).refusesTable_or_searches host query
    · rw [answer] at failed
      obtain rfl := Except.error.inj failed
      simpa [without] using refused.zero_of_zeroCap
    · obtain ⟨search, later, _, answer⟩ := searches.exists_search
      rw [answer] at failed
      exact absurd failed (by simp)
  have neither : ¬ (writtenRowCap? text ≠ some 0 ∨ (givenValue lookup .maxResults).isSome) := by
    intro other
    have mended := positive.mpr other
    omega
  rwa [not_or, ne_eq, Decidable.not_not, Option.not_isSome_iff_eq_none] at neither

/-- This configuration text writes a row cap of zero. -/
def zeroCapText : String := "search:\n  max-results: 0\n"

/-- This is the usual configuration with a row cap of its own. -/
def Configuration.capped (cap : Nat) : Configuration :=
  { Configuration.usual with search := { SearchLimits.usual with maxResults := cap } }

theorem Configuration.ofText_zeroCapText :
    Configuration.ofText zeroCapText = some (Configuration.capped 0) := by
  decide +kernel

/-- This process sets a row cap of seven. -/
def sevenRows : Setting → Option String
  | .maxResults => some " 7 "
  | _ => none

/-- A setting mends a row cap of zero. -/
theorem Configuration.rowCap_seven_over_zero :
    Configuration.ofText zeroCapText = some (Configuration.capped 0) ∧
      (Configuration.capped 0).override sevenRows = (Configuration.capped 7, none) ∧
      1 ≤ (Configuration.capped 7).search.maxResults := by
  have overridden :
      (Configuration.capped 0).override sevenRows = (Configuration.capped 7, none) := by
    decide
  obtain ⟨positive, _⟩ :=
    Configuration.rowCap_positive_unless_written_zero Configuration.ofText_zeroCapText overridden
  exact ⟨Configuration.ofText_zeroCapText, overridden, positive.mpr (Or.inr (by decide))⟩

/-- This request gives a root and no cap of its own. -/
def uncappedQuery : TableQuery where
  table := "PD3"
  environment := .auto
  root := some (utf8Bytes "/")
  includeStandard := true
  maxResults := none

/-- A text that writes zero is accepted. Without a setting the cap is then zero, and a request that
leaves the cap to the configuration fails on every host. -/
theorem Configuration.rowCap_zero_of_text :
    Configuration.ofText zeroCapText = some (Configuration.capped 0) ∧
      (Configuration.capped 0).override (fun _ => none) = (Configuration.capped 0, none) ∧
      (Configuration.capped 0).search.maxResults = 0 ∧
      uncappedQuery.maxResults = none ∧
      ∀ host, ((Atlas.new (.capped 0)).answerTable host uncappedQuery).1 =
        .error (.input .zeroCap) := by
  refine ⟨Configuration.ofText_zeroCapText, by decide, by decide, rfl, ?_⟩
  intro host
  have accepted : (TableName.parse uncappedQuery.table).toOption.isSome := by decide
  cases parsed : TableName.parse uncappedQuery.table with
  | error fault =>
      rw [parsed] at accepted
      exact Bool.noConfusion accepted
  | ok table =>
      have capped : (Atlas.new (.capped 0)).RefusesTable uncappedQuery (.input .zeroCap) :=
        .cap parsed (Or.inl (by decide)) (by decide)
      obtain ⟨fault, refused, answer⟩ | ⟨other, place, searches⟩ :=
        (Atlas.new (.capped 0)).refusesTable_or_searches host uncappedQuery
      · rw [answer, refused.unique capped]
      · exact absurd capped (searches.not_refuses _)

end RoutineAtlas
