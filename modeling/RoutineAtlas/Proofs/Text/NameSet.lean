import RoutineAtlas.Text.NameSet
import Mathlib.Data.List.Sort
import Mathlib.Data.String.Basic

/-
This file settles the order of a set of names. The names ascend, so that none is there twice.
-/

namespace RoutineAtlas

/-- A name that takes its place in a set leaves the set in ascending order. -/
theorem pairwise_insertName (name : String) {names : List String}
    (ascending : names.Pairwise (· < ·)) : (insertName name names).Pairwise (· < ·) := by
  induction names with
  | nil => exact List.pairwise_singleton _ _
  | cons first rest inductionHypothesis =>
      obtain ⟨least, later⟩ := List.pairwise_cons.mp ascending
      rw [insertName]
      split
      · rename_i before
        refine List.pairwise_cons.mpr ⟨?_, ascending⟩
        intro other member
        obtain rfl | behind := List.mem_cons.mp member
        · exact before
        · exact lt_trans before (least other behind)
      · rename_i notBefore
        split
        · exact ascending
        · rename_i apart
          refine List.pairwise_cons.mpr ⟨?_, inductionHypothesis later⟩
          intro other member
          obtain rfl | behind := (mem_insertName _ _ _).mp member
          · exact lt_of_le_of_ne (not_lt.mp notBefore) (Ne.symm apart)
          · exact least other behind

/-- The set of some names is in ascending order. -/
theorem pairwise_nameSet (names : List String) : (nameSet names).Pairwise (· < ·) := by
  induction names with
  | nil => exact List.Pairwise.nil
  | cons first rest inductionHypothesis => exact pairwise_insertName first inductionHypothesis

end RoutineAtlas
