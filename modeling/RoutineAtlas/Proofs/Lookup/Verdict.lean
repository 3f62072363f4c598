import RoutineAtlas.Proofs.Files.Parts
import RoutineAtlas.Proofs.Lookup.Request
import RoutineAtlas.Proofs.Lookup.SourceFile
import RoutineAtlas.Proofs.Origin.Judgement

/-
This file compares the classifications of one source that is asked for under several spellings.
They agree exactly when all of the spellings bear the mark or none does.
-/

namespace RoutineAtlas

/-- This is the path of the source that an answer tells. -/
def Answer.path? (answer : Answer RoutineFacts) : Option PathName :=
  answer.data?.map RoutineFacts.path

/-- This is the classification that an answer tells. -/
def Answer.classification? (answer : Answer RoutineFacts) : Option (Origin × Ground) :=
  match answer.provenance.subject with
  | .routine _ classification => classification
  | .table _ => none

@[simp] theorem Answer.path?_negativeAnswer (name : RoutineName) (place : NamedRoot)
    (root : PathName) (spellings : List String) (scanned : Nat) (skipped : List SkippedEntry) :
    (negativeAnswer name place root spellings scanned skipped).path? = none := rfl

@[simp] theorem Answer.path?_positiveAnswer (name : RoutineName) (place : NamedRoot)
    (path : PathName) (classification : Classification) (detail : RoutineDetail) :
    (positiveAnswer name place path classification detail).path? = some path := rfl

@[simp] theorem Answer.classification?_positiveAnswer (name : RoutineName) (place : NamedRoot)
    (path : PathName) (classification : Classification) (detail : RoutineDetail) :
    (positiveAnswer name place path classification detail).classification? =
      some (classification.origin, classification.ground) := rfl

/-- This is the verdict on a source when nothing is remembered. The mark decides before anything
else, and without it the spelling counts only by its key. -/
def freshVerdict (tree : FileTree) (leads : List String) (name : RoutineName) (path : PathName) :
    Classification :=
  if name.isMarked then { origin := .custom, ground := .rule .customMark }
  else (freshDecision tree leads name.key (some path)).answer

/-- A new classifier answers the fresh verdict. -/
theorem Classifier.classify_new (standardRoot : Option PathName) (depth : Nat) (tree : FileTree)
    (name : RoutineName) (path : PathName) :
    let start := Classifier.new standardRoot depth
    (start.classify tree name (some path)).1 =
      freshVerdict tree (start.leads tree) name path := by
  intro start
  rw [freshVerdict]
  cases marked : name.isMarked with
  | true => rw [Classifier.classify_of_isMarked marked, if_pos rfl]
  | false =>
      have undecided : start.cache.get? name.key = none := rfl
      rw [Classifier.classify_of_undecided marked undecided, if_neg Bool.false_ne_true,
        Classifier.leads]

/-- No fresh decision rests on the mark. -/
theorem freshDecision_ground_ne_customMark (tree : FileTree) (leads : List String) (key : String)
    (file : Option PathName) :
    (freshDecision tree leads key file).answer.ground ≠ .rule .customMark := by
  simp only [freshDecision]
  split
  · simp [FreshDecision.answer]
  · split
    · split <;> simp [FreshDecision.answer]
    · split <;> simp [FreshDecision.answer]

/-- Names of one key have the same fresh verdict exactly when both bear the mark or none does. -/
theorem freshVerdict_eq_iff (tree : FileTree) (leads : List String) {name other : RoutineName}
    (sameKey : name.key = other.key) (path : PathName) :
    freshVerdict tree leads name path = freshVerdict tree leads other path ↔
      name.isMarked = other.isMarked := by
  have apart := freshDecision_ground_ne_customMark tree leads other.key (some path)
  rw [freshVerdict, freshVerdict, sameKey]
  constructor
  · intro same
    have grounds := congrArg Classification.ground same
    cases marked : name.isMarked <;> cases markedToo : other.isMarked
    · rfl
    · simp only [marked, markedToo, if_true, Bool.false_eq_true, if_false] at grounds
      exact absurd grounds apart
    · simp only [marked, markedToo, if_true, Bool.false_eq_true, if_false] at grounds
      exact absurd grounds.symm apart
    · rfl
  · intro same
    rw [same]

/-- A fresh atlas tells the fresh verdict on the source that it finds. -/
theorem Atlas.classification_of_path (configuration : Configuration) {host : Host}
    {query : RoutineQuery} {name : RoutineName}
    (accepted : RoutineName.parse query.routine = .ok name) {answer : Answer RoutineFacts}
    (answered : ((Atlas.new configuration).answerRoutine host query).1 = .ok answer)
    {path : PathName} (found : answer.path? = some path) :
    let fresh := Atlas.new configuration
    let verdict := freshVerdict host.tree (fresh.classifier.leads host.tree) name path
    answer.classification? = some (verdict.origin, verdict.ground) := by
  intro fresh verdict
  obtain ⟨fault, _, failed⟩ | ⟨sought, place, seeks⟩ := fresh.refusesRoutine_or_seeks host query
  · rw [failed] at answered
    exact absurd answered (by simp)
  · obtain rfl : sought = name := Except.ok.inj (seeks.accepted.symm.trans accepted)
    cases outcome : fresh.outcome host sought place with
    | notFound root spellings scanned skipped =>
        rw [seeks.answer_of_notFound outcome] at answered
        obtain rfl := Except.ok.inj answered
        simp at found
    | found source way scanned =>
        rw [seeks.answer_of_found outcome] at answered
        dsimp only at answered
        split at answered
        · exact absurd answered (by simp)
        · obtain rfl := Except.ok.inj answered
          obtain rfl : source = path := by simpa using found
          have judged := Classifier.classify_new configuration.roots.standard
            configuration.search.discoveryDepth host.tree sought source
          rw [Answer.classification?_positiveAnswer]
          simp only [fresh, Atlas.new, judged, verdict]

/-- One source is told alike under two names exactly when both bear the mark or neither does. -/
theorem Atlas.same_classification_iff (configuration : Configuration) {host other : Host}
    (sameTree : other.tree = host.tree) {query queryToo : RoutineQuery}
    {name nameToo : RoutineName} (accepted : RoutineName.parse query.routine = .ok name)
    (acceptedToo : RoutineName.parse queryToo.routine = .ok nameToo)
    (sameKey : name.key = nameToo.key) {answer answerToo : Answer RoutineFacts}
    (answered : ((Atlas.new configuration).answerRoutine host query).1 = .ok answer)
    (answeredToo : ((Atlas.new configuration).answerRoutine other queryToo).1 = .ok answerToo)
    {path : PathName} (found : answer.path? = some path) (foundToo : answerToo.path? = some path) :
    (answer.classification? = answerToo.classification? ↔ name.isMarked = nameToo.isMarked) ∧
      (name.isMarked = true → answer.classification? = some (.custom, .rule .customMark)) := by
  have told := Atlas.classification_of_path configuration accepted answered found
  have toldToo := Atlas.classification_of_path configuration acceptedToo answeredToo foundToo
  rw [sameTree] at toldToo
  refine ⟨?_, ?_⟩
  · rw [told, toldToo, ← freshVerdict_eq_iff host.tree _ sameKey path, Option.some.injEq,
      Prod.mk.injEq, ← Classification.mk.injEq]
  · intro marked
    rw [told, freshVerdict, if_pos marked]

/-- The only source of this tree is stored without the mark. -/
def plainSource : FileTree where
  top := .directory { entries := [("MATA010.prw", .file [])] }
  workingDirectory := "/"

/-- A host without version control has the source. -/
def plainHost : Host :=
  .withoutVersionControl plainSource 0

/-- This query asks where a routine lies. -/
def plainQuery (routine : String) : RoutineQuery where
  routine := routine
  environment := .auto
  root := some (utf8Bytes "/")
  aspect := .locate

/-- The source is found when no spelling before its name is a path. -/
theorem exists_answer_plainSource {typed : String} {name : RoutineName}
    (accepted : RoutineName.parse (plainQuery typed).routine = .ok name) (earlier : Nat)
    (split : name.spellings =
      name.spellings.take earlier ++ "MATA010.prw" :: name.spellings.drop (earlier + 1))
    (others : ∀ spelling ∈ name.spellings.take earlier,
      IsEntryName spelling ∧ spelling ≠ "MATA010.prw") :
    ∃ answer, ((Atlas.new .usual).answerRoutine plainHost (plainQuery typed)).1 = .ok answer ∧
      answer.path? = some (utf8Bytes "/MATA010.prw") := by
  have top : plainSource.entry "/" = .ok plainSource.top := FileTree.entry_slash rfl
  have file : NamesFile plainSource "/" "MATA010.prw" := by
    have leads : plainSource.entry "/MATA010.prw" = .ok (.file []) :=
      FileTree.entry_of_steps rfl ["MATA010.prw"] rfl (Entry.searchable_singleton rfl _) (by simp)
        (by decide) (by simp) (by decide) (by decide)
    exact FileTree.isFile_of_entry leads
  have first : IsFirst (NamesFile plainSource "/") name.spellings "MATA010.prw" := by
    refine ⟨name.spellings.take earlier, name.spellings.drop (earlier + 1), split, file, ?_⟩
    intro spelling member names
    obtain ⟨entry, unlike⟩ := others spelling member
    have missing : childNamed spelling { entries := [("MATA010.prw", Entry.file [])] } = none := by
      have apart : utf8Bytes spelling ≠ utf8Bytes "MATA010.prw" := mt utf8Bytes_injective unlike
      simp [childNamed, List.lookup_cons, beq_false_of_ne apart]
    rw [NamesFile, FileTree.isFile_of_missing top entry missing] at names
    exact Bool.noConfusion names
  have seeks : (Atlas.new .usual).Seeks plainHost (plainQuery typed) name
      { root := "/", environment := "manual", manualOverride := true } :=
    ⟨accepted, by rfl⟩
  have hit : (Atlas.new .usual).outcome plainHost name
      { root := "/", environment := "manual", manualOverride := true } =
        .found "/MATA010.prw" .directProbe 0 :=
    lookUpRoutine_directProbe_iff.mpr ⟨rfl, "MATA010.prw", first, by decide⟩
  rw [seeks.answer_of_found hit]
  exact ⟨_, rfl, rfl⟩

/-- These are three spellings of one routine. Only the last one bears the mark. -/
def plainName : RoutineName where
  typed := "MATA010"
  base := "MATA010"

def smallName : RoutineName where
  typed := "mata010.prw"
  base := "mata010"

def markedName : RoutineName where
  typed := "U_MATA010"
  base := "U_MATA010"

theorem parse_plainName : RoutineName.parse (plainQuery "MATA010").routine = .ok plainName := by
  decide

theorem parse_smallName : RoutineName.parse (plainQuery "mata010.prw").routine = .ok smallName := by
  decide

theorem parse_markedName : RoutineName.parse (plainQuery "U_MATA010").routine = .ok markedName := by
  decide

theorem exists_answer_plainName :
    ∃ answer, ((Atlas.new .usual).answerRoutine plainHost (plainQuery "MATA010")).1 = .ok answer ∧
      answer.path? = some (utf8Bytes "/MATA010.prw") :=
  exists_answer_plainSource parse_plainName 1 (by decide +kernel) (by decide +kernel)

/-- Small letters and an extension do not change the verdict. -/
theorem Atlas.same_classification_of_smallLetters :
    plainName.key = smallName.key ∧ ∃ answer answerToo,
      ((Atlas.new .usual).answerRoutine plainHost (plainQuery "MATA010")).1 = .ok answer ∧
      ((Atlas.new .usual).answerRoutine plainHost (plainQuery "mata010.prw")).1 = .ok answerToo ∧
      answer.path? = some (utf8Bytes "/MATA010.prw") ∧
      answerToo.path? = some (utf8Bytes "/MATA010.prw") ∧
      answer.classification? = answerToo.classification? := by
  have sameKey : plainName.key = smallName.key := by decide +kernel
  have unmarked : plainName.isMarked = smallName.isMarked := by decide
  obtain ⟨answer, answered, found⟩ := exists_answer_plainName
  obtain ⟨answerToo, answeredToo, foundToo⟩ :=
    exists_answer_plainSource parse_smallName 8 (by decide +kernel) (by decide +kernel)
  obtain ⟨same, _⟩ := Atlas.same_classification_iff .usual rfl parse_plainName parse_smallName
    sameKey answered answeredToo found foundToo
  exact ⟨sameKey, answer, answerToo, answered, answeredToo, found, foundToo, same.mpr unmarked⟩

/-- The mark of the typed name decides on a source that is stored without it. -/
theorem Atlas.mark_changes_classification :
    ¬ ∀ (configuration : Configuration) (host : Host) (query queryToo : RoutineQuery)
      (name nameToo : RoutineName) (answer answerToo : Answer RoutineFacts) (root path : PathName),
      RoutineName.parse query.routine = .ok name →
      RoutineName.parse queryToo.routine = .ok nameToo → name.key = nameToo.key →
      query.root = some root → queryToo.root = some root →
      ((Atlas.new configuration).answerRoutine host query).1 = .ok answer →
      ((Atlas.new configuration).answerRoutine host queryToo).1 = .ok answerToo →
      answer.path? = some path → answerToo.path? = some path →
        answer.classification? = answerToo.classification? := by
  intro same
  have sameKey : markedName.key = plainName.key := by decide +kernel
  obtain ⟨answer, answered, found⟩ :=
    exists_answer_plainSource parse_markedName 8 (by decide +kernel) (by decide +kernel)
  obtain ⟨answerToo, answeredToo, foundToo⟩ := exists_answer_plainName
  have agree := same .usual plainHost (plainQuery "U_MATA010") (plainQuery "MATA010") markedName
    plainName answer answerToo "/" "/MATA010.prw" parse_markedName parse_plainName sameKey rfl rfl
    answered answeredToo found foundToo
  rw [Atlas.classification_of_path .usual parse_markedName answered found,
    Atlas.classification_of_path .usual parse_plainName answeredToo foundToo, Option.some.injEq,
    Prod.mk.injEq, ← Classification.mk.injEq, freshVerdict_eq_iff _ _ sameKey] at agree
  exact absurd agree (by decide)

end RoutineAtlas
