/-
This file decides membership in a set of code points that is written as ascending ranges.
-/

namespace RoutineAtlas

/-- A set of code points is an ascending list of inclusive ranges. -/
abbrev CodeRanges := List (Nat × Nat)

/-- The search ends at the first range that does not lie below the code point. -/
def CodeRanges.holds : CodeRanges → Nat → Bool
  | [], _ => false
  | (first, last) :: rest, code =>
      if code ≤ last then decide (first ≤ code) else CodeRanges.holds rest code

/-- A code point that a set holds lies in one of its ranges. -/
theorem CodeRanges.exists_of_holds {ranges : CodeRanges} {code : Nat}
    (holds : ranges.holds code = true) :
    ∃ range ∈ ranges, range.1 ≤ code ∧ code ≤ range.2 := by
  induction ranges with
  | nil => simp [CodeRanges.holds] at holds
  | cons range rest inductionHypothesis =>
      obtain ⟨first, last⟩ := range
      by_cases below : code ≤ last
      · simp [CodeRanges.holds, below] at holds
        exact ⟨(first, last), by simp, holds, below⟩
      · simp only [CodeRanges.holds, below, if_false] at holds
        obtain ⟨range, member, inside⟩ := inductionHypothesis holds
        exact ⟨range, by simp [member], inside⟩

end RoutineAtlas
