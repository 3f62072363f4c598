import RoutineAtlas.Proofs.Lookup.Request

/-
This file asks an atlas at two times. Its answers differ only in the time that a report bears.
-/

namespace RoutineAtlas

/-- Two details say the same but for the time at which a report was made. -/
inductive RoutineDetail.SameButForTime : RoutineDetail → RoutineDetail → Prop
  | same (detail : RoutineDetail) : detail.SameButForTime detail
  | report (outline : Outline) (head : ReportHead) (first second : Int) :
      RoutineDetail.SameButForTime
        (.report (outline.report { head with instant := first }) outline)
        (.report (outline.report { head with instant := second }) outline)

/-- Two answers say the same but for the time at which a report was made. -/
structure Answer.SameButForTime (answer other : Answer RoutineFacts) : Prop where
  message : answer.message = other.message
  provenance : answer.provenance = other.provenance
  account : answer.account? = other.account?
  data : Option.Rel (fun facts others => facts.routine = others.routine ∧
    facts.path = others.path ∧ facts.detail.SameButForTime others.detail) answer.data? other.data?

/-- This is the host at another time. -/
def Host.at (host : Host) (instant : Int) : Host :=
  { host with instant }

/-- Version control does not ask for the time. -/
theorem Host.ask_at (host : Host) (instant : Int) (directory : PathName)
    (arguments : List String) :
    (host.at instant).ask directory arguments =
      ((host.ask directory arguments).1, (host.ask directory arguments).2.at instant) := by
  simp only [Host.ask, Host.at]
  split
  · rfl
  · split
    · rfl
    · split
      · rfl
      · split <;> rfl
    · rfl

theorem Host.versionControlStatus_at (host : Host) (instant : Int) (file : PathName) :
    ((host.at instant).versionControlStatus file).1 = (host.versionControlStatus file).1 := by
  rw [Host.versionControlStatus, Host.versionControlStatus]
  cases pathParent? file with
  | none => rfl
  | some directory =>
      rcases branch : host.ask directory ["rev-parse", "--abbrev-ref", "HEAD"] with ⟨answer, asked⟩
      cases answer with
      | error message => simp only [Host.ask_at, branch]
      | ok text => simp only [Host.ask_at, branch]

/-- A detail says the same at any time. -/
theorem Host.detail_at (host : Host) (instant : Int) (name : RoutineName) (place : NamedRoot)
    (path : PathName) (origin : Origin) (aspect : RoutineAspect) :
    (∃ fault, (host.detail name place path origin aspect).1 = .error fault ∧
      ((host.at instant).detail name place path origin aspect).1 = .error fault) ∨
    ∃ detail other, (host.detail name place path origin aspect).1 = .ok detail ∧
      ((host.at instant).detail name place path origin aspect).1 = .ok other ∧
      detail.SameButForTime other := by
  have tree : (host.at instant).tree = host.tree := rfl
  cases aspect with
  | locate => exact Or.inr ⟨_, _, rfl, rfl, .same _⟩
  | versionControl =>
      refine Or.inr ⟨_, _, rfl, congrArg Except.ok (congrArg RoutineDetail.versionControl
        (host.versionControlStatus_at instant path)), .same _⟩
  | outline | source =>
      simp only [Host.detail, tree]
      cases host.tree.readSource path with
      | error fault => exact Or.inl ⟨fault, rfl, rfl⟩
      | ok text => exact Or.inr ⟨_, _, rfl, rfl, .same _⟩
  | report =>
      simp only [Host.detail, tree]
      cases host.tree.readSource path with
      | error fault => exact Or.inl ⟨fault, rfl, rfl⟩
      | ok text =>
          exact Or.inr ⟨_, _, rfl, rfl, .report (.of text)
            { routine := name.base, path, origin, environment := place.environment,
              instant := host.instant } host.instant instant⟩

/-- A routine query is answered the same way at any time. -/
theorem Atlas.answerRoutine_at (atlas : Atlas) (host : Host) (instant : Int)
    (query : RoutineQuery) :
    (∃ fault, (atlas.answerRoutine host query).1 = .error fault ∧
      (atlas.answerRoutine (host.at instant) query).1 = .error fault) ∨
    ∃ answer other, (atlas.answerRoutine host query).1 = .ok answer ∧
      (atlas.answerRoutine (host.at instant) query).1 = .ok other ∧
      answer.SameButForTime other := by
  obtain ⟨fault, refused, failed⟩ | ⟨name, place, seeks⟩ := atlas.refusesRoutine_or_seeks host query
  · obtain ⟨other, again, failedToo⟩ | ⟨name, place, seeks⟩ :=
      atlas.refusesRoutine_or_seeks (host.at instant) query
    · rw [← refused.unique again] at failedToo
      exact Or.inl ⟨fault, by rw [failed], by rw [failedToo]⟩
    · exact absurd refused (seeks.not_refuses fault)
  · have seeksToo : atlas.Seeks (host.at instant) query name place :=
      ⟨seeks.accepted, seeks.located⟩
    cases outcome : atlas.outcome host name place with
    | notFound root spellings scanned skipped =>
        have outcomeToo : atlas.outcome (host.at instant) name place =
            .notFound root spellings scanned skipped := outcome
        rw [seeks.answer_of_notFound outcome, seeksToo.answer_of_notFound outcomeToo]
        exact Or.inr ⟨_, _, rfl, rfl, ⟨rfl, rfl, rfl, .none⟩⟩
    | found path way scanned =>
        have outcomeToo : atlas.outcome (host.at instant) name place = .found path way scanned :=
          outcome
        have tree : (host.at instant).tree = host.tree := rfl
        rw [seeks.answer_of_found outcome, seeksToo.answer_of_found outcomeToo, tree]
        dsimp only
        obtain ⟨fault, failed, failedToo⟩ | ⟨detail, other, read, readToo, alike⟩ :=
          host.detail_at instant name place path
            (atlas.classifier.classify host.tree name (some path)).1.origin query.aspect
        · rw [failed, failedToo]
          exact Or.inl ⟨_, rfl, rfl⟩
        · rw [read, readToo]
          exact Or.inr ⟨_, _, rfl, rfl, ⟨rfl, rfl, rfl, .some ⟨rfl, rfl, alike⟩⟩⟩

/-- A table query does not ask for the time. -/
theorem Atlas.answerTable_at (atlas : Atlas) (host : Host) (instant : Int) (query : TableQuery) :
    atlas.answerTable (host.at instant) query = atlas.answerTable host query := by
  have tree : (host.at instant).tree = host.tree := rfl
  rw [Atlas.answerTable, Atlas.answerTable, tree]

/-- Answers that say the same but for the time are both positive or both negative. -/
theorem Answer.SameButForTime.isPositive_eq {answer other : Answer RoutineFacts}
    (same : answer.SameButForTime other) : answer.isPositive = other.isPositive := by
  have data := same.data
  rw [Answer.isPositive, Answer.isPositive]
  generalize answer.data? = first at data ⊢
  generalize other.data? = second at data ⊢
  cases data with
  | some alike => rfl
  | none => rfl

end RoutineAtlas
