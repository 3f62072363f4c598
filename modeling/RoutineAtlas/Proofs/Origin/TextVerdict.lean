import RoutineAtlas.Origin.TextVerdict
import RoutineAtlas.Proofs.Text.Seam

/-
This file settles that a customer's declaration speaks for the customer in every text that holds its
line, whatever the other lines are.
-/

namespace RoutineAtlas

/-- The two keywords of a declaration differ in their first letter, so the search for the second one
comes to nothing with the first. -/
theorem functionKeyword_eq_some {text rest : List Char} :
    firstOf [afterLiteral "FUNCTION", afterLiteral "PROCEDURE"] text = some rest ↔
      text = "FUNCTION".toList ++ rest ∨ text = "PROCEDURE".toList ++ rest := by
  have other : afterLiteral "FUNCTION" ("PROCEDURE".toList ++ rest) = none := rfl
  rw [← afterLiteral_eq_some, ← afterLiteral_eq_some]
  cases first : afterLiteral "FUNCTION" text with
  | some behind =>
      have spelt : afterLiteral "PROCEDURE" text ≠ some rest := by
        intro second
        rw [afterLiteral_eq_some.mp second, other] at first
        exact absurd first (by simp)
      simp [firstOf, first, spelt]
  | none => simp [firstOf, first]

theorem settled_functionKeyword :
    Settled (firstOf [afterLiteral "FUNCTION", afterLiteral "PROCEDURE"]) := by
  intro text rest below read
  rw [functionKeyword_eq_some] at read ⊢
  rw [← List.append_assoc, ← List.append_assoc]
  exact read.imp (congrArg (· ++ '\n' :: below)) (congrArg (· ++ '\n' :: below))

/-- A name that has begun goes on as it was before a line is added. -/
theorem settled_afterBlanksAndName : Settled afterBlanksAndName := by
  apply Settled.behindBlank _ rfl
  intro text rest below read
  rw [Option.ite_none_right_eq_some] at read ⊢
  obtain ⟨begins, same⟩ := read
  obtain rfl := Option.some.inj same
  cases text with
  | nil => exact absurd begins (by simp [startsWithWord])
  | cons first others => exact ⟨begins, rfl⟩

theorem settled_userDeclaration : Settled userDeclaration := by
  have user : Settled (afterSpaced "USER") := settled_afterSpaced (by decide)
  have name := settled_functionKeyword.bind settled_afterBlanksAndName
  have declaration := user.bind (name.behindBlank rfl)
  intro text rest below read
  simp only [userDeclaration, Option.bind_eq_bind, Option.bind_assoc] at read ⊢
  exact declaration below read

/-- A text speaks for a customer when a line of it begins a customer's declaration. -/
theorem TextVerdict.of_eq_custom_iff {text : String} :
    TextVerdict.of text = .custom ↔ holdsAtLineStart userDeclaration text = true := by
  rw [TextVerdict.of]
  split
  · simp [*]
  · split <;> simp [*]

/-- A text of two parts speaks for a customer as soon as one of the parts does. -/
theorem TextVerdict.of_joined {above below part : String} (isPart : part = above ∨ part = below)
    (speaks : TextVerdict.of part = .custom) :
    TextVerdict.of (above ++ "\n" ++ below) = .custom :=
  TextVerdict.of_eq_custom_iff.mpr
    (holdsAtLineStart_joined isPart settled_userDeclaration.persists
      (TextVerdict.of_eq_custom_iff.mp speaks))

end RoutineAtlas
