import RoutineAtlas.Document.Encoding

/-
This file tells which answers have a document. A document holds paths as texts, so that it can be
made exactly when every path that it holds is one.
-/

namespace RoutineAtlas

/-- A computation that ends well has gone through its first step. -/
theorem exists_of_bind_eq_ok {E A B : Type} {first : Except E A} {next : A → Except E B} {made : B}
    (done : first >>= next = .ok made) : ∃ value, first = .ok value ∧ next value = .ok made := by
  cases first with
  | error stop => exact absurd done (by simp [bind, Except.bind])
  | ok value => exact ⟨value, rfl, done⟩

/-- A path is text when it is the UTF-8 form of one. -/
def PathName.IsText (path : PathName) : Prop :=
  ∃ text : String, path = utf8Bytes text

/-- What is made of these paths is there when all of them are text, and else it is refused. -/
inductive NeedsText {B : Type} (paths : List PathName) : Except AccessFault B → Prop
  | made {value : B} (text : ∀ path ∈ paths, path.IsText) : NeedsText paths (.ok value)
  | refused {path : PathName} (listed : path ∈ paths) (noText : ¬ path.IsText) :
      NeedsText paths (.error .pathNotUtf8)

theorem NeedsText.exists_of_text {B : Type} {paths : List PathName} {made : Except AccessFault B}
    (needs : NeedsText paths made) (text : ∀ path ∈ paths, path.IsText) :
    ∃ value, made = .ok value := by
  cases needs with
  | made => exact ⟨_, rfl⟩
  | refused listed noText => exact absurd (text _ listed) noText

theorem NeedsText.eq_error {B : Type} {paths : List PathName} {made : Except AccessFault B}
    (needs : NeedsText paths made) {path : PathName} (listed : path ∈ paths)
    (noText : ¬ path.IsText) : made = .error .pathNotUtf8 := by
  cases needs with
  | made text => exact absurd (text path listed) noText
  | refused => rfl

/-- What is made of no path is there. -/
theorem needsText_pure {B : Type} (value : B) : NeedsText [] (pure value : Except AccessFault B) :=
  .made (by simp)

/-- A step that needs some paths and a step that needs others need all of them together. -/
theorem NeedsText.bind {A B : Type} {first : Except AccessFault A}
    {next : A → Except AccessFault B} {paths others : List PathName} (needs : NeedsText paths first)
    (also : ∀ value, NeedsText others (next value)) :
    NeedsText (paths ++ others) (first >>= next) := by
  cases needs with
  | refused listed noText => exact .refused (List.mem_append_left others listed) noText
  | @made value text =>
      have step : (Except.ok value >>= next) = next value := rfl
      have more := also value
      rw [step]
      generalize next value = last at more ⊢
      cases more with
      | made textToo =>
          exact .made fun path listed => (List.mem_append.mp listed).elim (text path) (textToo path)
      | refused listed noText => exact .refused (List.mem_append_right paths listed) noText

/-- A last step that needs nothing does not count. -/
theorem NeedsText.map {A B : Type} {first : Except AccessFault A} {paths : List PathName}
    (needs : NeedsText paths first) (finish : A → B) :
    NeedsText paths (first >>= fun value => pure (finish value)) := by
  have both := needs.bind fun value => needsText_pure (finish value)
  rwa [List.append_nil] at both

/-- A list needs what its items need. -/
theorem NeedsText.mapM {A B : Type} {encode : A → Except AccessFault B} {paths : A → List PathName}
    (needs : ∀ item, NeedsText (paths item) (encode item)) (items : List A) :
    NeedsText (items.flatMap paths) (items.mapM encode) := by
  induction items with
  | nil => exact needsText_pure []
  | cons item items inductionHypothesis =>
      rw [List.mapM_cons, List.flatMap_cons]
      exact (needs item).bind fun first => inductionHypothesis.map (first :: ·)

/-- An optional value needs what the value needs when it is there. -/
theorem NeedsText.optional {A B : Type} {encode : A → Except AccessFault B}
    {paths : A → List PathName} (needs : ∀ item, NeedsText (paths item) (encode item))
    (item : Option A) : NeedsText (item.toList.flatMap paths) (item.mapM encode) := by
  cases item with
  | none => exact needsText_pure none
  | some item =>
      have made := (needs item).map some
      simpa using made

theorem needsText_pathDocument (path : PathName) : NeedsText [path] (pathDocument path) := by
  rw [pathDocument]
  split
  · rename_i text read
    exact .made (by simpa using ⟨text, (readUtf8_eq_some_iff.mp read).symm⟩)
  · rename_i unread
    refine .refused (List.mem_singleton_self path) ?_
    rintro ⟨text, rfl⟩
    exact absurd unread (by simp)

/-- These are the paths in an answer: its root, those of its data, and the root of its account. -/
def Answer.paths {A : Type} (dataPaths : A → List PathName) (answer : Answer A) : List PathName :=
  answer.data?.toList.flatMap dataPaths ++
    (answer.provenance.place.root :: answer.account?.toList.map SearchAccount.searchedRoot)

/-- An answer has a document exactly when its paths are text. -/
theorem Answer.needsText_document {A : Type} {encode : A → Except AccessFault Document}
    {dataPaths : A → List PathName} (needs : ∀ data, NeedsText (dataPaths data) (encode data))
    (answer : Answer A) : NeedsText (answer.paths dataPaths) (answer.document encode) := by
  have provenance : NeedsText [answer.provenance.place.root] answer.provenance.document :=
    ((needsText_pathDocument _).map _).map _
  have account : NeedsText (answer.account?.toList.flatMap fun account => [account.searchedRoot])
      (answer.account?.mapM SearchAccount.document) :=
    NeedsText.optional (fun account => (needsText_pathDocument _).map _) answer.account?
  have whole := (NeedsText.optional needs answer.data?).bind fun data =>
    provenance.bind fun provenance => account.map fun account =>
      Document.record ([("success", .bool answer.isPositive), ("message", .text answer.message)] ++
        optionalField "data" data ++ [("metadata", provenance)] ++
        optionalField "diagnostics" account)
  rw [← List.map_eq_flatMap] at whole
  exact whole

/-- These are the paths in the answer to a routine query. -/
def routinePaths (answer : Answer RoutineFacts) : List PathName :=
  answer.paths fun facts => [facts.path]

/-- These are the paths in the answer to a table query. -/
def tablePaths (answer : Answer (List UsageRow)) : List PathName :=
  answer.paths fun rows => rows.map UsageRow.path

theorem needsText_routineDocument (answer : Answer RoutineFacts) :
    NeedsText (routinePaths answer) (routineDocument answer) :=
  answer.needsText_document fun _ => (needsText_pathDocument _).map _

theorem UsageRow.needsText_document (row : UsageRow) : NeedsText [row.path] row.document :=
  (needsText_pathDocument row.path).map _

theorem needsText_tableDocument (answer : Answer (List UsageRow)) :
    NeedsText (tablePaths answer) (tableDocument answer) := by
  refine answer.needsText_document fun rows => ?_
  have needs := (NeedsText.mapM UsageRow.needsText_document rows).map Document.list
  rwa [← List.map_eq_flatMap] at needs

end RoutineAtlas
