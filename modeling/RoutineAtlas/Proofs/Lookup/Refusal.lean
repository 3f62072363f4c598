import RoutineAtlas.Proofs.Lookup.Confinement
import RoutineAtlas.Proofs.Lookup.Request

/-
This file settles when a request fails. Where sources can be read, a request fails only when it is
refused, and a request that fails or finds nothing leaves the classifier as it was.
-/

namespace RoutineAtlas

/-- The sources that a walk for the request would list can be read. -/
def Atlas.ReadsSources (atlas : Atlas) (host : Host) (query : RoutineQuery) : Prop :=
  ∀ name place, atlas.Seeks host query name place →
    ∀ path ∈ ((ScanPlan.forSources atlas.configuration.search.routineDepth).scan host.tree
      place.root).files, ∃ content, host.tree.read path = .ok content

/-- What a look-up finds can be read when all listed sources can. -/
theorem Atlas.Seeks.read_of_found {atlas : Atlas} {host : Host} {query : RoutineQuery}
    {name : RoutineName} {place : NamedRoot} (seeks : atlas.Seeks host query name place)
    (reads : atlas.ReadsSources host query) {path : PathName} {way : LookupWay} {scanned : Nat}
    (hit : atlas.outcome host name place = .found path way scanned) :
    ∃ content, host.tree.read path = .ok content := by
  cases way with
  | directProbe =>
      obtain ⟨_, spelling, ⟨_, _, _, names, _⟩, rfl⟩ := lookUpRoutine_directProbe_iff.mp hit
      exact FileTree.read_of_isFile names
  | walk =>
      obtain ⟨_, _, before, after, split, _, _⟩ := lookUpRoutine_walk_iff.mp hit
      exact reads name place seeks path (by rw [split]; simp)

/-- Every detail of a source that can be read is told. -/
theorem Host.exists_detail {host : Host} {path : PathName} {content : Bytes}
    (readable : host.tree.read path = .ok content) (name : RoutineName) (place : NamedRoot)
    (origin : Origin) (aspect : RoutineAspect) :
    ∃ detail, (host.detail name place path origin aspect).1 = .ok detail := by
  have source : host.tree.readSource path = .ok (decodeSource content) := by
    rw [FileTree.readSource, readable]
    rfl
  cases aspect with
  | locate => exact ⟨_, rfl⟩
  | outline => exact ⟨_, by rw [Host.detail, source]; rfl⟩
  | report => exact ⟨_, by rw [Host.detail, source]; rfl⟩
  | source => exact ⟨_, by rw [Host.detail, source]; rfl⟩
  | versionControl => exact ⟨_, rfl⟩

/-- A request that looks for a routine is answered, and nothing changes unless it is found. -/
theorem Atlas.Seeks.answered {atlas : Atlas} {host : Host} {query : RoutineQuery}
    {name : RoutineName} {place : NamedRoot} (seeks : atlas.Seeks host query name place)
    (reads : atlas.ReadsSources host query) :
    ∃ answer, (atlas.answerRoutine host query).1 = .ok answer ∧
      (answer.isPositive = false → (atlas.answerRoutine host query).2.1 = atlas) := by
  cases outcome : atlas.outcome host name place with
  | notFound root spellings scanned skipped =>
      rw [seeks.answer_of_notFound outcome]
      exact ⟨_, rfl, fun _ => rfl⟩
  | found path way scanned =>
      obtain ⟨content, readable⟩ := seeks.read_of_found reads outcome
      obtain ⟨detail, told⟩ := Host.exists_detail readable name place
        (atlas.classifier.classify host.tree name (some path)).1.origin query.aspect
      rw [seeks.answer_of_found outcome]
      dsimp only
      rw [told]
      exact ⟨_, rfl, fun negative => Bool.noConfusion negative⟩

/-- A request fails exactly for the fault for which it is refused, and then nothing is remembered.
-/
theorem Atlas.fails_iff_refused (atlas : Atlas) (host : Host) :
    (∀ query : RoutineQuery, atlas.ReadsSources host query →
      let result := atlas.answerRoutine host query
      (∀ fault, result.1 = .error fault ↔ atlas.RefusesRoutine query fault) ∧
      ((∃ fault, result.1 = .error fault) → result.2.1 = atlas) ∧
      ∀ answer, result.1 = .ok answer → answer.isPositive = false → result.2.1 = atlas) ∧
    ∀ query : TableQuery,
      let result := atlas.answerTable host query
      (∀ fault, result.1 = .error fault ↔ atlas.RefusesTable query fault) ∧
      ((∃ fault, result.1 = .error fault) → result.2 = atlas) := by
  refine ⟨?_, ?_⟩
  · intro query reads
    dsimp only
    obtain ⟨refusal, refused, answer⟩ | ⟨name, place, seeks⟩ :=
      atlas.refusesRoutine_or_seeks host query
    · rw [answer]
      refine ⟨?_, fun _ => rfl, fun _ _ _ => rfl⟩
      intro fault
      rw [Except.error.injEq]
      exact ⟨fun same => same ▸ refused, refused.unique⟩
    · obtain ⟨told, answer, unchanged⟩ := seeks.answered reads
      rw [answer]
      refine ⟨?_, ?_, ?_⟩
      · intro fault
        exact ⟨fun failed => absurd failed (by simp),
          fun refused => absurd refused (seeks.not_refuses fault)⟩
      · rintro ⟨fault, failed⟩
        exact absurd failed (by simp)
      · intro other same negative
        obtain rfl := Except.ok.inj same
        exact unchanged negative
  · intro query
    dsimp only
    obtain ⟨refusal, refused, answer⟩ | ⟨table, place, searches⟩ :=
      atlas.refusesTable_or_searches host query
    · rw [answer]
      refine ⟨?_, fun _ => rfl⟩
      intro fault
      rw [Except.error.injEq]
      exact ⟨fun same => same ▸ refused, refused.unique⟩
    · obtain ⟨search, classifier, _, answer⟩ := searches.exists_search
      rw [answer]
      refine ⟨?_, ?_⟩
      · intro fault
        exact ⟨fun failed => absurd failed (by simp),
          fun refused => absurd refused (searches.not_refuses fault)⟩
      · rintro ⟨fault, failed⟩
        exact absurd failed (by simp)

/-- Without a program for version control this host has the dotted source. -/
def dottedHost : Host :=
  .withoutVersionControl dottedSource 0

/-- This query asks for the text of the routine that a lone dot names. -/
def dotQuery : RoutineQuery where
  routine := "."
  environment := .auto
  root := some (utf8Bytes "/")
  aspect := .source

/-- The sources of the host can be read, so that the request for the lone dot does not fail. -/
theorem Atlas.dotQuery_not_refused :
    (Atlas.new .usual).ReadsSources dottedHost dotQuery ∧
      ∀ fault, ((Atlas.new .usual).answerRoutine dottedHost dotQuery).1 ≠ .error fault := by
  have reads : (Atlas.new .usual).ReadsSources dottedHost dotQuery := by
    intro name place seeks path listed
    have located : place.root = "/" := by
      have found := Except.ok.inj seeks.located
      rw [← found]
      decide
    have files : ((ScanPlan.forSources 5).scan dottedSource "/").files = [utf8Bytes "/..prw"] := by
      rw [ScanPlan.scan_of_directory _ entry_dottedSource]
      decide
    have source : dottedSource.entry "/..prw" = .ok (.file []) :=
      FileTree.entry_of_steps rfl ["..prw"] rfl (Entry.searchable_singleton rfl _) (by simp)
        (by decide) (by simp) (by decide) (by decide)
    rw [located] at listed
    obtain rfl : path = utf8Bytes "/..prw" := List.mem_singleton.mp (files ▸ listed)
    exact ⟨[], FileTree.read_of_entry source⟩
  refine ⟨reads, ?_⟩
  intro fault failed
  obtain ⟨fails, _⟩ := ((Atlas.new .usual).fails_iff_refused dottedHost).1 dotQuery reads
  cases (fails fault).mp failed with
  | name rejected =>
      have accepted : RoutineName.parse "." = .ok { typed := ".", base := "." } := by decide
      exact absurd (rejected.symm.trans accepted) (by simp)
  | root _ implicit => exact absurd implicit (by decide)

end RoutineAtlas
