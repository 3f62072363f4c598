/-
This file separates a file name from its extension.
-/

namespace RoutineAtlas

variable {A : Type} [DecidableEq A]

/-- A row is cut at the last of its marks, if it has one. -/
def splitAtLast (mark : A) : List A → Option (List A × List A)
  | [] => none
  | first :: rest =>
      match splitAtLast mark rest with
      | some (stem, extension) => some (first :: stem, extension)
      | none => if first = mark then some ([], rest) else none

/-- The two parts and the mark between them make up the row. -/
theorem eq_of_splitAtLast {mark : A} {row stem extension : List A}
    (split : splitAtLast mark row = some (stem, extension)) :
    row = stem ++ mark :: extension := by
  induction row generalizing stem extension with
  | nil => simp [splitAtLast] at split
  | cons first rest inductionHypothesis =>
      unfold splitAtLast at split
      cases tail : splitAtLast mark rest with
      | some parts =>
          obtain ⟨tailStem, tailExtension⟩ := parts
          simp only [tail, Option.some.injEq, Prod.mk.injEq] at split
          obtain ⟨rfl, rfl⟩ := split
          simpa using inductionHypothesis tail
      | none =>
          simp only [tail] at split
          split at split
          · rename_i same
            simp only [Option.some.injEq, Prod.mk.injEq] at split
            obtain ⟨rfl, rfl⟩ := split
            simp [same]
          · simp at split

/-- A row is not cut exactly when it has no mark. -/
theorem splitAtLast_eq_none {mark : A} {row : List A} :
    splitAtLast mark row = none ↔ mark ∉ row := by
  induction row with
  | nil => simp [splitAtLast]
  | cons first rest inductionHypothesis =>
      unfold splitAtLast
      cases tail : splitAtLast mark rest with
      | some parts =>
          have marked : mark ∈ rest := by
            by_cases member : mark ∈ rest
            · exact member
            · rw [inductionHypothesis.mpr member] at tail
              simp at tail
          simp [marked]
      | none =>
          have unmarked : mark ∉ rest := inductionHypothesis.mp tail
          by_cases same : first = mark
          · simp [same]
          · simp [same, unmarked, Ne.symm same]

/-- What stands behind the last mark is what the mark cuts off. -/
theorem splitAtLast_append (stem : List A) {mark : A} {extension : List A}
    (unmarked : mark ∉ extension) :
    splitAtLast mark (stem ++ mark :: extension) = some (stem, extension) := by
  induction stem with
  | nil => simp [splitAtLast, splitAtLast_eq_none.mpr unmarked]
  | cons first rest inductionHypothesis =>
      rw [List.cons_append, splitAtLast, inductionHypothesis]

end RoutineAtlas
