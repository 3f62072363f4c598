import RoutineAtlas.Origin.Basic

/-
This file remembers the decisions that have been made, by the key of the routine.
-/

namespace RoutineAtlas

/-- A cache holds one decision for each key, in the order in which they were made. -/
structure DecisionCache where
  decisions : List (String × Origin)
  distinct : decisions.Pairwise fun first second => first.1 ≠ second.1

/-- Nothing has been decided yet. -/
def DecisionCache.empty : DecisionCache where
  decisions := []
  distinct := .nil

/-- This is the decision for a key. -/
def DecisionCache.get? (cache : DecisionCache) (key : String) : Option Origin :=
  cache.decisions.lookup key

/-- This is the number of decisions. -/
def DecisionCache.size (cache : DecisionCache) : Nat :=
  cache.decisions.length

/-- A key without a decision is a key of no entry. -/
theorem lookup_eq_none {key : String} {decisions : List (String × Origin)}
    (unknown : decisions.lookup key = none) : ∀ decision ∈ decisions, decision.1 ≠ key := by
  intro decision member same
  have := List.lookup_eq_none_iff.mp unknown decision member
  simp [same] at this

/-- The first decision for a key stays. -/
def DecisionCache.insert (cache : DecisionCache) (key : String) (origin : Origin) :
    DecisionCache :=
  match unknown : cache.decisions.lookup key with
  | some _ => cache
  | none =>
      { decisions := cache.decisions ++ [(key, origin)]
        distinct := by
          rw [List.pairwise_append]
          refine ⟨cache.distinct, by simp, ?_⟩
          intro first member second last
          simp only [List.mem_singleton] at last
          subst last
          exact lookup_eq_none unknown first member }

theorem DecisionCache.get?_empty (key : String) : DecisionCache.empty.get? key = none := rfl

/-- After an insertion the key has its earlier decision or the new one. -/
theorem DecisionCache.get?_insert_self (cache : DecisionCache) (key : String)
    (origin : Origin) :
    (cache.insert key origin).get? key = some ((cache.get? key).getD origin) := by
  unfold DecisionCache.insert
  split
  · rename_i earlier known
    simp [DecisionCache.get?, known]
  · rename_i unknown
    simp [DecisionCache.get?, List.lookup_append, unknown]

/-- An insertion leaves all other keys as they are. -/
theorem DecisionCache.get?_insert_of_ne (cache : DecisionCache) {key other : String}
    (origin : Origin) (different : other ≠ key) :
    (cache.insert key origin).get? other = cache.get? other := by
  unfold DecisionCache.insert
  split
  · rfl
  · have apart : (other == key) = false := by simp [different]
    simp [DecisionCache.get?, List.lookup_append, List.lookup_cons, apart]

/-- What a cache says after an insertion it said before, or it is the new decision. -/
theorem DecisionCache.get?_insert_eq_some {cache : DecisionCache} {key other : String}
    {origin found : Origin} (known : (cache.insert key origin).get? other = some found) :
    cache.get? other = some found ∨ (other = key ∧ found = origin) := by
  by_cases same : other = key
  · subst same
    rw [DecisionCache.get?_insert_self, Option.some.injEq] at known
    cases earlier : cache.get? other with
    | none =>
        rw [earlier] at known
        exact Or.inr ⟨rfl, known.symm⟩
    | some decided =>
        rw [earlier] at known
        exact Or.inl (congrArg some known)
  · rw [DecisionCache.get?_insert_of_ne cache origin same] at known
    exact Or.inl known

/-- A cache that says something is not empty. -/
theorem DecisionCache.size_pos_of_get? {cache : DecisionCache} {key : String} {found : Origin}
    (known : cache.get? key = some found) : 0 < cache.size := by
  rw [DecisionCache.size, List.length_pos_iff]
  intro nothing
  simp [DecisionCache.get?, nothing] at known

end RoutineAtlas
