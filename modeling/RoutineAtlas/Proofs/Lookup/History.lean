import RoutineAtlas.Proofs.Files.Listing
import RoutineAtlas.Proofs.Files.Parts
import RoutineAtlas.Proofs.Lookup.Request
import RoutineAtlas.Proofs.Table.Reach

/-
This file compares a table search with the same search after other requests. On a tree that stays
as it is the rows are the same exactly when no earlier request decided a key in another way.
-/

namespace RoutineAtlas

/-- These requests may change what an atlas keeps. -/
inductive AtlasCall where
  | routine (query : RoutineQuery)
  | table (query : TableQuery)
  | discover
  deriving DecidableEq, Repr

/-- A moment of a session is a request and the host that it meets. -/
structure AtlasMoment where
  host : Host
  call : AtlasCall

/-- This is the atlas after a request. -/
def Atlas.afterRequest (atlas : Atlas) (moment : AtlasMoment) : Atlas :=
  match moment.call with
  | .routine query => (atlas.answerRoutine moment.host query).2.1
  | .table query => (atlas.answerTable moment.host query).2
  | .discover => (atlas.discover moment.host.tree).2

/-- This is the atlas after a session. -/
def Atlas.after (atlas : Atlas) (session : List AtlasMoment) : Atlas :=
  session.foldl Atlas.afterRequest atlas

/-- The walk for a table search lists these files. -/
def Atlas.filesBelow (atlas : Atlas) (host : Host) (place : NamedRoot) : List PathName :=
  ((ScanPlan.forSources atlas.configuration.search.tableDepth).scan host.tree place.root).files

/-- A routine is judged when it is found, and a table search judges what it comes to. -/
def Atlas.judges (atlas : Atlas) (moment : AtlasMoment) : List Judgement :=
  let host := moment.host
  let locate := atlas.configuration.roots.locate host.tree.workingDirectory
  match moment.call with
  | .routine query =>
      match RoutineName.parse query.routine with
      | .error _ => []
      | .ok name =>
          match locate query.environment (some name) query.root with
          | .error _ => []
          | .ok place =>
              match atlas.outcome host name place with
              | .found path _ _ => [{ name, path }]
              | .notFound _ _ _ _ => []
  | .table query =>
      match TableName.parse query.table with
      | .error _ => []
      | .ok table =>
          match locate query.environment none query.root with
          | .error _ => []
          | .ok place =>
              Tally.judgements host.tree table (atlas.searchOptions query)
                (atlas.filesBelow host place) (.start atlas.classifier)
  | .discover => []

/-- These are the judgements of a session in their order. -/
def Atlas.judgedIn (atlas : Atlas) : List AtlasMoment → List Judgement
  | [] => []
  | moment :: rest => atlas.judges moment ++ (atlas.afterRequest moment).judgedIn rest

/-- These are the rows of an answer, which has none when nothing was found. -/
def Answer.rows (answer : Answer (List UsageRow)) : List UsageRow :=
  answer.data?.getD []

theorem rows_tableAnswer (place : NamedRoot) (search : UsageSearch) :
    (tableAnswer place search).rows = search.rows := by
  rw [Answer.rows, Answer.data?, tableAnswer]
  cases search.rows with
  | nil => rfl
  | cons row rest => rfl

/-- A table search answers the rows of its tally in order and keeps the tally's classifier. -/
theorem Atlas.Searches.answer {atlas : Atlas} {host : Host} {query : TableQuery}
    {table : TableName} {place : NamedRoot} (searches : atlas.Searches host query table place) :
    let tally := (Tally.run host.tree table (atlas.searchOptions query)
      (atlas.filesBelow host place) (.start atlas.classifier)).1
    (atlas.answerTable host query).1.map Answer.rows =
        .ok (tally.rows.mergeSort UsageRow.goesBefore) ∧
      (atlas.answerTable host query).2 = { atlas with classifier := tally.classifier } := by
  intro tally
  have capped : (atlas.searchOptions query).maxResults ≠ 0 :=
    Nat.one_le_iff_ne_zero.mp searches.capped
  obtain ⟨search, classifier, searched, answer⟩ := searches.exists_search
  rw [searchTree, if_neg capped] at searched
  obtain ⟨rfl, rfl⟩ := Prod.mk.inj (Except.ok.inj searched)
  rw [answer]
  exact ⟨congrArg Except.ok (rows_tableAnswer _ _), rfl⟩

/-- A table search makes the judgements of its tally. -/
theorem Atlas.Searches.judges {atlas : Atlas} {host : Host} {query : TableQuery}
    {table : TableName} {place : NamedRoot} (searches : atlas.Searches host query table place) :
    atlas.judges { host, call := .table query } =
      Tally.judgements host.tree table (atlas.searchOptions query) (atlas.filesBelow host place)
        (.start atlas.classifier) := by
  rw [Atlas.judges]
  dsimp only
  rw [searches.accepted]
  dsimp only
  rw [searches.located]

theorem Atlas.RefusesRoutine.judges {atlas : Atlas} {query : RoutineQuery} {fault : Fault}
    (refused : atlas.RefusesRoutine query fault) (host : Host) :
    atlas.judges { host, call := .routine query } = [] := by
  cases refused with
  | name rejected => simp [Atlas.judges, rejected]
  | root accepted implicit unset =>
      simp [Atlas.judges, accepted, Roots.locate_of_unset implicit unset]

theorem Atlas.RefusesTable.judges {atlas : Atlas} {query : TableQuery} {fault : Fault}
    (refused : atlas.RefusesTable query fault) (host : Host) :
    atlas.judges { host, call := .table query } = [] := by
  cases refused with
  | name rejected => simp [Atlas.judges, rejected]
  | root accepted implicit unset =>
      simp [Atlas.judges, accepted, Roots.locate_of_unset implicit unset]
  | cap accepted located zero =>
      have none (place : NamedRoot) (table : TableName) :
          Tally.judgements host.tree table (atlas.searchOptions query)
            (atlas.filesBelow host place) (.start atlas.classifier) = [] := by
        cases atlas.filesBelow host place with
        | nil => rfl
        | cons path rest => rw [Tally.judgements, Atlas.searchOptions, zero, if_pos (Nat.zero_le _)]
      rw [Atlas.judges]
      dsimp only
      rw [accepted]
      dsimp only
      split
      · rfl
      · exact none _ _

/-- A request other than a discovery makes its judgements and changes nothing else. -/
theorem Atlas.afterRequest_of_ne_discover {moment : AtlasMoment} (asks : moment.call ≠ .discover)
    (atlas : Atlas) :
    atlas.afterRequest moment =
      { atlas with
        classifier := atlas.classifier.judgeAll moment.host.tree (atlas.judges moment) } := by
  obtain ⟨host, call⟩ := moment
  cases call with
  | routine query =>
      obtain ⟨fault, refused, answer⟩ | ⟨name, place, seeks⟩ :=
        atlas.refusesRoutine_or_seeks host query
      · rw [Atlas.afterRequest, refused.judges]
        dsimp only
        rw [answer]
        rfl
      · cases outcome : atlas.outcome host name place with
        | notFound root spellings scanned skipped =>
            have nothing : atlas.judges { host, call := .routine query } = [] := by
              simp [Atlas.judges, seeks.accepted, seeks.located, outcome]
            rw [nothing, Atlas.afterRequest]
            dsimp only
            rw [seeks.answer_of_notFound outcome]
            rfl
        | found path way scanned =>
            have one : atlas.judges { host, call := .routine query } = [{ name, path }] := by
              simp [Atlas.judges, seeks.accepted, seeks.located, outcome]
            rw [one, Atlas.afterRequest]
            dsimp only
            rw [seeks.answer_of_found outcome]
            rfl
  | table query =>
      obtain ⟨fault, refused, answer⟩ | ⟨table, place, searches⟩ :=
        atlas.refusesTable_or_searches host query
      · rw [Atlas.afterRequest, refused.judges]
        dsimp only
        rw [answer]
        rfl
      · rw [Atlas.afterRequest, searches.judges]
        dsimp only
        rw [searches.answer.2, Tally.run_classifier]
        rfl
  | discover => exact absurd rfl asks

/-- A later atlas has the same configuration and leads, and it remembers what judgements add. -/
structure Atlas.Advances (atlas later : Atlas) (tree : FileTree) (judgements : List Judgement) :
    Prop where
  configuration : later.configuration = atlas.configuration
  leads : later.classifier.leads tree = atlas.classifier.leads tree
  memory : ∀ key, later.classifier.cache.get? key =
    atlas.classifier.willRemember tree judgements key

/-- Every request advances the atlas by its judgements. -/
theorem Atlas.advances_afterRequest (atlas : Atlas) (moment : AtlasMoment) :
    atlas.Advances (atlas.afterRequest moment) moment.host.tree (atlas.judges moment) := by
  by_cases discovers : moment.call = .discover
  · obtain ⟨host, call⟩ := moment
    obtain rfl : call = .discover := discovers
    refine ⟨rfl, Classifier.leads_discover _ _, ?_⟩
    intro key
    have kept := congrArg (fun cache => cache.get? key)
      (atlas.classifier.discover_cache host.tree)
    exact kept.trans (by simp [Classifier.willRemember, Atlas.judges, firstVerdict])
  · rw [Atlas.afterRequest_of_ne_discover discovers]
    exact ⟨rfl, Classifier.leads_judgeAll _ _ _, fun key => Classifier.get?_judgeAll _ _ _ key⟩

theorem Atlas.Advances.trans {atlas later last : Atlas} {tree : FileTree}
    {first second : List Judgement} (before : atlas.Advances later tree first)
    (after : later.Advances last tree second) : atlas.Advances last tree (first ++ second) where
  configuration := after.configuration.trans before.configuration
  leads := after.leads.trans before.leads
  memory := by
    intro key
    rw [after.memory, Classifier.willRemember, before.memory, before.leads, Classifier.willRemember,
      Classifier.willRemember, firstVerdict_append, Option.or_assoc]

/-- A session on one tree advances the atlas by its judgements. -/
theorem Atlas.advances_after {tree : FileTree} {session : List AtlasMoment}
    (still : ∀ moment ∈ session, moment.host.tree = tree) (atlas : Atlas) :
    atlas.Advances (atlas.after session) tree (atlas.judgedIn session) := by
  induction session generalizing atlas with
  | nil =>
      refine ⟨rfl, rfl, fun key => ?_⟩
      simp [Classifier.willRemember, Atlas.judgedIn, firstVerdict]
      rfl
  | cons moment rest inductionHypothesis =>
      have first := atlas.advances_afterRequest moment
      rw [still moment (by simp)] at first
      exact first.trans (inductionHypothesis (fun other member =>
        still other (List.mem_cons_of_mem _ member)) (atlas.afterRequest moment))

/-- Earlier judgements do not disturb later ones when they do not decide a key of theirs in another
way. -/
def Undisturbed (tree : FileTree) (leads : List String) (earlier now : List Judgement) : Prop :=
  ∀ judgement ∈ now, judgement.name.isMarked = false → ∀ origin,
    firstVerdict tree leads earlier judgement.name.key = some origin →
      firstVerdict tree leads now judgement.name.key = some origin

/-- A classifier that remembers nothing agrees with one that has made earlier judgements exactly
when these do not disturb. -/
theorem Classifier.agreesOn_iff_undisturbed {classifier other : Classifier} {tree : FileTree}
    {earlier : List Judgement} (leads : other.leads tree = classifier.leads tree)
    (new : ∀ key, classifier.cache.get? key = none)
    (memory : ∀ key, other.cache.get? key = firstVerdict tree (classifier.leads tree) earlier key)
    (now : List Judgement) :
    classifier.AgreesOn other tree now ↔
      Undisturbed tree (classifier.leads tree) earlier now := by
  rw [Classifier.AgreesOn, Undisturbed]
  refine forall_congr' fun judgement => forall_congr' fun _ => forall_congr' fun _ => ?_
  rw [Classifier.willRemember, Classifier.willRemember, new, memory, leads, Option.none_or]
  cases firstVerdict tree (classifier.leads tree) earlier judgement.name.key with
  | none => simp
  | some origin => simp [eq_comm]

/-- A table search after a session lists the rows of a first search unless it was disturbed, and on
a well-named tree only then. -/
theorem Atlas.Searches.rows_after {fresh : Atlas} {session : List AtlasMoment} {host : Host}
    (still : ∀ moment ∈ session, moment.host.tree = host.tree)
    (new : ∀ key, fresh.classifier.cache.get? key = none) {query : TableQuery} {table : TableName}
    {place : NamedRoot} (searches : fresh.Searches host query table place) :
    let undisturbed := Undisturbed host.tree (fresh.classifier.leads host.tree)
      (fresh.judgedIn session) (fresh.judges { host, call := .table query })
    let same := ((fresh.after session).answerTable host query).1.map Answer.rows =
      (fresh.answerTable host query).1.map Answer.rows
    (undisturbed → same) ∧ (host.tree.top.WellNamed → same → undisturbed) := by
  have advances := Atlas.advances_after still fresh
  have later := searches.of_configuration advances.configuration
  have remembers (key : String) : (fresh.after session).classifier.cache.get? key =
      firstVerdict host.tree (fresh.classifier.leads host.tree) (fresh.judgedIn session) key := by
    rw [advances.memory, Classifier.willRemember, new, Option.none_or]
  have agree := Classifier.agreesOn_iff_undisturbed advances.leads new remembers
  have sameFiles : (fresh.after session).filesBelow host place = fresh.filesBelow host place := by
    rw [Atlas.filesBelow, Atlas.filesBelow, advances.configuration]
  have sameOptions : (fresh.after session).searchOptions query = fresh.searchOptions query := by
    rw [Atlas.searchOptions, Atlas.searchOptions, advances.configuration]
  have bothStart : (Tally.start fresh.classifier).rows =
      (Tally.start (fresh.after session).classifier).rows := rfl
  dsimp only
  rw [← agree, searches.judges, searches.answer.1, later.answer.1, sameFiles, sameOptions,
    Except.ok.injEq]
  refine ⟨fun calm => ?_, fun named same => ?_⟩
  · rw [Tally.run_rows_congr bothStart calm]
  · have once : (fresh.filesBelow host place).Nodup :=
      ScanPlan.nodup_scan_files _ named place.root
    have older : ∀ row ∈ (Tally.start fresh.classifier).rows,
        row.path ∉ fresh.filesBelow host place := by
      intro row member
      exact absurd member List.not_mem_nil
    apply Tally.agreesOn_of_run_rows once older bothStart
    exact (List.mergeSort_perm _ _).symm.trans (same ▸ List.mergeSort_perm _ _)

/-- A table search has the rows of a first search unless an earlier request decided one of its keys
otherwise. -/
theorem Atlas.answerTable_after_session (configuration : Configuration)
    (session : List AtlasMoment) (host : Host)
    (still : ∀ moment ∈ session, moment.host.tree = host.tree) (query : TableQuery) :
    let fresh := Atlas.new configuration
    let used := fresh.after session
    let undisturbed := Undisturbed host.tree (fresh.classifier.leads host.tree)
      (fresh.judgedIn session) (fresh.judges { host, call := .table query })
    let rows := fun atlas : Atlas => (atlas.answerTable host query).1.map Answer.rows
    (undisturbed → rows used = rows fresh) ∧
      (host.tree.top.WellNamed → rows used = rows fresh → undisturbed) := by
  intro fresh used undisturbed rows
  obtain ⟨fault, refused, answer⟩ | ⟨table, place, searches⟩ :=
    fresh.refusesTable_or_searches host query
  · have advances : fresh.Advances used host.tree (fresh.judgedIn session) :=
      Atlas.advances_after still fresh
    have refusedToo := refused.of_configuration advances.configuration
    refine ⟨fun _ => ?_, fun _ _ => ?_⟩
    · simp only [rows, refusedToo.answer, answer]
    · simp only [undisturbed, refused.judges]
      intro judgement member
      exact absurd member List.not_mem_nil
  · exact searches.rows_after still fun _ => rfl

/-- A search that comes to one source judges its routine. -/
theorem Atlas.Searches.judges_one {atlas : Atlas} {host : Host} {query : TableQuery}
    {table : TableName} {place : NamedRoot} (searches : atlas.Searches host query table place)
    {path : PathName} (files : atlas.filesBelow host place = [path]) {name : RoutineName}
    {content : String} (refers : table.referral? host.tree path = some (name, content)) :
    atlas.judges { host, call := .table query } = [{ name, path }] := by
  have room : ¬ (atlas.searchOptions query).maxResults ≤
      (Tally.start atlas.classifier).rows.length := Nat.not_le.mpr searches.capped
  rw [searches.judges, files, Tally.judgements, if_neg room, Tally.judgements,
    TableName.judgement?, refers]
  rfl

theorem TableName.referral?_of_text {table : TableName} {tree : FileTree} {path : PathName}
    {text : String} {name : RoutineName} (read : tree.read path = .ok (utf8Bytes text))
    (referring : table.isReferenced (upperCase text) = true)
    (held : routineOfPath path = some name) : table.referral? tree path = some (name, text) := by
  simp [TableName.referral?, FileTree.readSource, read, Except.map, referring, held]

/-- A source that is one line of text is decided by that line, unless the lead is known. -/
theorem Judgement.verdict?_of_line {tree : FileTree} {leads : List String} {judgement : Judgement}
    (unmarked : judgement.name.isMarked = false)
    (unknown : beginsWithKnownLead judgement.name.key leads = false) {text : String}
    (read : tree.read judgement.path = .ok (utf8Bytes text))
    (line : cutLines 10 (utf8Bytes text) = [utf8Bytes text])
    (noReturn : dropReturn 13 (utf8Bytes text) = utf8Bytes text) :
    judgement.verdict? tree leads judgement.name.key =
      some (if (TextVerdict.of (upperCase (text ++ "\n"))).isStandard then .standard
        else .custom) := by
  have head : sourceHead inspectedLines (utf8Bytes text) = text ++ "\n" := by
    apply String.toList_inj.mp
    simp [sourceHead, line, inspectedLines, headLine, noReturn]
  have inspected : inspectedHead tree judgement.path = .ok (upperCase (text ++ "\n")) := by
    rw [inspectedHead_of_read read, head]
  simp [Judgement.verdict?, freshDecision, unknown, inspected, FreshDecision.answer, unmarked]

/-- Two routines of one name lie in two directories. The first is a customer's by its text, and the
second counts as the vendor's. -/
def namesakes : FileTree where
  top := .directory { entries := [
    ("a", .directory { entries := [("X.prw", .file (utf8Bytes "User Function X() PD3->X"))] }),
    ("b", .directory { entries := [("X.prw", .file (utf8Bytes "PD3->X"))] })] }
  workingDirectory := "/"

theorem wellNamed_namesakes : namesakes.top.WellNamed := by
  have step : IsStepName "X.prw" := by decide
  have below (content : Bytes) :
      (Entry.directory { entries := [("X.prw", .file content)] }).WellNamed :=
    Entry.wellNamed_flat (List.forall_mem_singleton.mpr step) (List.forall_mem_singleton.mpr rfl)
  exact Entry.wellNamed_directory (by decide)
    (List.forall_mem_cons.mpr ⟨below _, List.forall_mem_singleton.mpr (below _)⟩)

/-- A host without version control has the two routines. -/
def namesakeHost : Host :=
  .withoutVersionControl namesakes 0

/-- This query searches one of the directories for customers' routines. -/
def namesakeQuery (root : PathName) : TableQuery where
  table := "PD3"
  environment := .auto
  root := some root
  includeStandard := false
  maxResults := none

theorem parse_referredTable : TableName.parse "PD3" = .ok referredTable := by
  decide

theorem searches_namesakes {root : PathName} (absolute : absolutePath "/" root = root) :
    (Atlas.new .usual).Searches namesakeHost (namesakeQuery root) referredTable
      { root, environment := "manual", manualOverride := true } where
  accepted := parse_referredTable
  located := congrArg (fun found => Except.ok
    ({ root := found, environment := "manual", manualOverride := true } : NamedRoot)) absolute
  capped := Nat.le_of_ble_eq_true rfl

/-- The routine of both sources. -/
def namesake : RoutineName where
  typed := "X"
  base := "X"

/-- A search that lists one source of the tree judges its routine, and the text decides. -/
theorem judges_namesake {root path : PathName} {text : String}
    (absolute : absolutePath "/" root = root)
    (files : ((ScanPlan.forSources 12).scan namesakes root).files = [path])
    (source : namesakes.entry path = .ok (.file (utf8Bytes text)))
    (referring : referredTable.isReferenced (upperCase text) = true)
    (held : routineOfPath path = some namesake)
    (line : cutLines 10 (utf8Bytes text) = [utf8Bytes text])
    (noReturn : dropReturn 13 (utf8Bytes text) = utf8Bytes text) {origin : Origin}
    (decides : (if (TextVerdict.of (upperCase (text ++ "\n"))).isStandard then Origin.standard
      else .custom) = origin) :
    let fresh := Atlas.new .usual
    let judgement : Judgement := { name := namesake, path }
    fresh.judges { host := namesakeHost, call := .table (namesakeQuery root) } = [judgement] ∧
      judgement.verdict? namesakes (fresh.classifier.leads namesakes) namesake.key =
        some origin := by
  have read := FileTree.read_of_entry source
  have refers := referredTable.referral?_of_text read referring held
  have leads : (Atlas.new .usual).classifier.leads namesakes = [] := rfl
  refine ⟨(searches_namesakes absolute).judges_one files refers, ?_⟩
  have unmarked : namesake.isMarked = false := by decide
  have unknown : beginsWithKnownLead namesake.key [] = false := by decide
  rw [leads, ← decides]
  exact @Judgement.verdict?_of_line namesakes [] { name := namesake, path } unmarked unknown text
    read line noReturn

theorem judges_firstNamesake :
    let fresh := Atlas.new .usual
    let judgement : Judgement := { name := namesake, path := "/a/X.prw" }
    fresh.judges { host := namesakeHost, call := .table (namesakeQuery "/a") } = [judgement] ∧
      judgement.verdict? namesakes (fresh.classifier.leads namesakes) namesake.key =
        some .custom := by
  have above : namesakes.top.Searchable [utf8Bytes "a"] := Entry.searchable_singleton rfl _
  have deep : namesakes.top.Searchable [utf8Bytes "a", utf8Bytes "X.prw"] :=
    (Entry.searchable_cons rfl).mpr ⟨rfl, Entry.searchable_singleton rfl _⟩
  have directory := @FileTree.entry_of_steps namesakes _ rfl "/a" ["a"] _ rfl above (by simp)
    (by decide) (by simp) (by decide) (by decide)
  have source := @FileTree.entry_of_steps namesakes _ rfl "/a/X.prw" ["a", "X.prw"] _ rfl deep
    (by simp) (by decide) (by simp) (by decide) (by decide)
  have files : ((ScanPlan.forSources 12).scan namesakes "/a").files = [utf8Bytes "/a/X.prw"] := by
    rw [ScanPlan.scan_of_directory _ directory]
    decide
  exact judges_namesake (by decide) files source (by decide) (by decide) (by decide) (by decide)
    (by decide)

theorem judges_secondNamesake :
    let fresh := Atlas.new .usual
    let judgement : Judgement := { name := namesake, path := "/b/X.prw" }
    fresh.judges { host := namesakeHost, call := .table (namesakeQuery "/b") } = [judgement] ∧
      judgement.verdict? namesakes (fresh.classifier.leads namesakes) namesake.key =
        some .standard := by
  have above : namesakes.top.Searchable [utf8Bytes "b"] := Entry.searchable_singleton rfl _
  have deep : namesakes.top.Searchable [utf8Bytes "b", utf8Bytes "X.prw"] :=
    (Entry.searchable_cons rfl).mpr ⟨rfl, Entry.searchable_singleton rfl _⟩
  have directory := @FileTree.entry_of_steps namesakes _ rfl "/b" ["b"] _ rfl above (by simp)
    (by decide) (by simp) (by decide) (by decide)
  have source := @FileTree.entry_of_steps namesakes _ rfl "/b/X.prw" ["b", "X.prw"] _ rfl deep
    (by simp) (by decide) (by simp) (by decide) (by decide)
  have files : ((ScanPlan.forSources 12).scan namesakes "/b").files = [utf8Bytes "/b/X.prw"] := by
    rw [ScanPlan.scan_of_directory _ directory]
    decide
  exact judges_namesake (by decide) files source (by decide) (by decide) (by decide) (by decide)
    (by decide)

/-- After a discovery and the same search before, a search lists the same rows again. -/
theorem Atlas.answerTable_after_itself :
    let fresh := Atlas.new .usual
    let query := namesakeQuery "/b"
    let session : List AtlasMoment := [{ host := namesakeHost, call := .table query },
      { host := namesakeHost, call := .discover }]
    let undisturbed := Undisturbed namesakes (fresh.classifier.leads namesakes)
      (fresh.judgedIn session) (fresh.judges { host := namesakeHost, call := .table query })
    let same := ((fresh.after session).answerTable namesakeHost query).1.map Answer.rows =
      (fresh.answerTable namesakeHost query).1.map Answer.rows
    (∀ moment ∈ session, moment.host.tree = namesakes) ∧ namesakes.top.WellNamed ∧
      undisturbed ∧ same ∧ (same → undisturbed) := by
  intro fresh query session undisturbed same
  have still : ∀ moment ∈ session, moment.host.tree = namesakes := by
    intro moment member
    simp only [session, List.mem_cons, List.not_mem_nil, or_false] at member
    obtain rfl | rfl := member <;> rfl
  have calm : undisturbed := by
    have once : fresh.judgedIn session =
        fresh.judges { host := namesakeHost, call := .table query } := List.append_nil _
    intro judgement _ _ origin decided
    rw [once] at decided
    exact decided
  obtain ⟨kept, needed⟩ := Atlas.answerTable_after_session .usual session namesakeHost still query
  exact ⟨still, wellNamed_namesakes, calm, kept calm, needed wellNamed_namesakes⟩

/-- A search of one directory can take away the rows of another one. Its namesake there is
remembered as the vendor's. -/
theorem Atlas.earlier_search_takes_rows :
    ¬ ∀ (configuration : Configuration) (session : List AtlasMoment) (host : Host),
      (∀ moment ∈ session, moment.host.tree = host.tree) → ∀ query : TableQuery,
        let fresh := Atlas.new configuration
        ((fresh.after session).answerTable host query).1.map Answer.rows =
          (fresh.answerTable host query).1.map Answer.rows := by
  intro sameRows
  let fresh := Atlas.new .usual
  let session : List AtlasMoment := [{ host := namesakeHost, call := .table (namesakeQuery "/b") }]
  have still : ∀ moment ∈ session, moment.host.tree = namesakeHost.tree := by
    intro moment member
    rw [List.mem_singleton.mp member]
  have same := sameRows .usual session namesakeHost still (namesakeQuery "/a")
  have searches := @searches_namesakes "/a" (by decide)
  have calm := (searches.rows_after still fun _ => rfl).2 wellNamed_namesakes same
  obtain ⟨now, custom⟩ := judges_firstNamesake
  obtain ⟨earlier, standard⟩ := judges_secondNamesake
  have before : fresh.judgedIn session = [{ name := namesake, path := "/b/X.prw" }] := by
    rw [Atlas.judgedIn, earlier]
    rfl
  rw [now, before] at calm
  have kept := calm _ (List.mem_singleton_self _) (by decide) .standard
    (by rw [firstVerdict, List.findSome?_singleton]; exact standard)
  rw [firstVerdict, List.findSome?_singleton] at kept
  exact absurd (custom.symm.trans kept) (by simp)

end RoutineAtlas
