/-
This file keeps sets of names as ascending lists. Names are ordered by their code points.
-/

namespace RoutineAtlas

/-- The new name takes its place in the order, and a name that is present stays single. -/
def insertName (name : String) : List String → List String
  | [] => [name]
  | first :: rest =>
      if name < first then name :: first :: rest
      else if name = first then first :: rest
      else first :: insertName name rest

/-- The names of a list in ascending order, each once. -/
def nameSet (names : List String) : List String :=
  names.foldr insertName []

theorem mem_insertName (name other : String) (names : List String) :
    other ∈ insertName name names ↔ other = name ∨ other ∈ names := by
  induction names with
  | nil => simp [insertName]
  | cons first rest inductionHypothesis =>
      unfold insertName
      split
      · simp
      · split
        · rename_i same
          subst same
          simp
        · simp only [List.mem_cons, inductionHypothesis]
          constructor
          · rintro (equal | equal | member)
            · exact Or.inr (Or.inl equal)
            · exact Or.inl equal
            · exact Or.inr (Or.inr member)
          · rintro (equal | equal | member)
            · exact Or.inr (Or.inl equal)
            · exact Or.inl equal
            · exact Or.inr (Or.inr member)

/-- The names of a list are added to those that are there. -/
theorem mem_foldr_insertName {name : String} {added names : List String} :
    name ∈ added.foldr insertName names ↔ name ∈ added ∨ name ∈ names := by
  induction added with
  | nil => simp
  | cons first rest inductionHypothesis =>
      rw [List.foldr_cons, mem_insertName, inductionHypothesis, List.mem_cons, or_assoc]

/-- A set of names holds exactly the names it was made from. -/
@[simp] theorem mem_nameSet (name : String) (names : List String) :
    name ∈ nameSet names ↔ name ∈ names := by
  simp [nameSet, mem_foldr_insertName]

end RoutineAtlas
