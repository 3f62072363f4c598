import RoutineAtlas.Table.Evidence
import Mathlib.Data.List.Infix
import Mathlib.Data.List.TakeWhile

/-
This file settles where a phrase can stand in a text that is put together from parts. A phrase
without a mark stands before the mark or behind it, and a phrase may run on from one part into the
next only when its end is the beginning of that part.
-/

namespace RoutineAtlas

/-- The phrase stands somewhere in the text. -/
theorem infix_of_split {phrase before rest text : List Char}
    (split : text = before ++ (phrase ++ rest)) : phrase <:+: text :=
  ⟨before, rest, by rw [split, List.append_assoc]⟩

/-- The literal stands behind the blanks that are skipped. -/
theorem exists_blanks_of_afterSpaced {literal : String} {text rest : List Char}
    (read : afterSpaced literal text = some rest) :
    ∃ blanks, text = blanks ++ (literal.toList ++ rest) ∧
      ∀ character ∈ blanks, isBlank character = true := by
  refine ⟨text.takeWhile isBlank, ?_, fun character member => List.mem_takeWhile_imp member⟩
  rw [← afterLiteral_eq_some.mp read, skipBlanks, List.takeWhile_append_dropWhile]

/-- Between two quotes the content is read. -/
theorem afterQuoted_quoted (content : String) (rest : List Char) :
    afterQuoted content ('"' :: (content.toList ++ '"' :: rest)) = some rest := by
  have spelt : afterLiteral content (content.toList ++ '"' :: rest) = some ('"' :: rest) :=
    afterLiteral_eq_some.mpr rfl
  change (afterLiteral content _ >>= afterQuote) = _
  rw [spelt]
  rfl

/-- A phrase without the mark ends before the mark. -/
theorem exists_gap_before_mark {mark : Char} {phrase rest front behind : List Char}
    (clean : mark ∉ phrase) (split : phrase ++ rest = front ++ mark :: behind) :
    ∃ gap, front = phrase ++ gap ∧ rest = gap ++ mark :: behind := by
  obtain ⟨gap, longer, tail⟩ | ⟨surplus, shorter, tail⟩ := List.append_eq_append_iff.mp split
  · exact ⟨gap, longer, tail⟩
  · cases surplus with
    | nil => exact ⟨[], by simpa using shorter.symm, by simpa using tail.symm⟩
    | cons first others =>
        obtain ⟨rfl, _⟩ := List.cons.inj tail
        exact absurd (shorter ▸ List.mem_append_right front List.mem_cons_self) clean

/-- A phrase without the mark stands as a whole before the mark or as a whole behind it. -/
theorem placed_around_mark (mark : Char) {before phrase rest front behind : List Char}
    (clean : mark ∉ phrase) (split : before ++ (phrase ++ rest) = front ++ mark :: behind) :
    (∃ gap, front = before ++ (phrase ++ gap) ∧ rest = gap ++ mark :: behind) ∨
      ∃ more, before = front ++ mark :: more ∧ behind = more ++ (phrase ++ rest) := by
  obtain ⟨inner, longer, tail⟩ | ⟨surplus, shorter, tail⟩ := List.append_eq_append_iff.mp split
  · obtain ⟨gap, rfl, rest⟩ := exists_gap_before_mark clean tail
    exact Or.inl ⟨gap, longer, rest⟩
  · cases surplus with
    | nil =>
        -- The phrase would have to begin with the mark, unless it is empty.
        have onward : phrase ++ rest = [] ++ mark :: behind := tail.symm
        obtain ⟨gap, nothing, rest⟩ := exists_gap_before_mark clean onward
        exact Or.inl ⟨gap, by simpa [← nothing] using shorter.symm, rest⟩
    | cons first more =>
        obtain ⟨rfl, behind⟩ := List.cons.inj tail
        exact Or.inr ⟨more, shorter, behind⟩

/-- The phrase does not run on into the ending: no end of the phrase, but for the whole, is the
beginning of the ending. -/
def IsSeamless (phrase ending : List Char) : Prop :=
  ∀ index < phrase.length, 0 < index → ¬ phrase.drop index <+: ending

instance (phrase ending : List Char) : Decidable (IsSeamless phrase ending) :=
  inferInstanceAs (Decidable (∀ index < phrase.length, 0 < index → ¬ phrase.drop index <+: ending))

/-- Then a phrase that the text before the ending does not hold stands as a whole in the ending. -/
theorem IsSeamless.placed {phrase ending text before rest : List Char}
    (seamless : IsSeamless phrase ending) (missing : ¬ phrase <:+: text)
    (split : before ++ (phrase ++ rest) = text ++ ending) :
    ∃ more, before = text ++ more ∧ ending = more ++ (phrase ++ rest) := by
  obtain ⟨inner, longer, tail⟩ | ⟨more, shorter, tail⟩ := List.append_eq_append_iff.mp split
  · obtain ⟨gap, rfl, _⟩ | ⟨seam, cut, onward⟩ := List.append_eq_append_iff.mp tail
    · exact absurd ⟨before, gap, by rw [longer, List.append_assoc]⟩ missing
    · by_cases whole : inner = []
      · subst whole
        exact ⟨[], by simpa using longer.symm, by simpa [cut] using onward⟩
      · by_cases ended : seam = []
        · exact absurd ⟨before, [], by simp [longer, cut, ended]⟩ missing
        · have inside : inner.length < phrase.length := by
            rw [cut, List.length_append]
            exact Nat.lt_add_of_pos_right (List.length_pos_iff.mpr ended)
          have begins : phrase.drop inner.length <+: ending := by
            rw [cut, List.drop_left, onward]
            exact List.prefix_append _ _
          exact absurd begins (seamless inner.length inside (List.length_pos_iff.mpr whole))
  · exact ⟨more, shorter, tail⟩

/-- A phrase is found within a gap when it begins at one of the places that the gap reaches. -/
theorem isSome_occursWithin_iff {recognizer : Recognizer} {gap : Nat} {text : List Char} :
    (occursWithin recognizer gap text).isSome = true ↔
      ∃ before behind, text = before ++ behind ∧ before.length ≤ gap ∧
        (recognizer behind).isSome = true := by
  induction gap generalizing text with
  | zero =>
      constructor
      · intro found
        exact ⟨[], text, rfl, Nat.le_refl 0, found⟩
      · rintro ⟨before, behind, rfl, short, found⟩
        obtain rfl := List.length_eq_zero_iff.mp (Nat.le_zero.mp short)
        exact found
  | succ gap inductionHypothesis =>
      cases here : recognizer text with
      | some rest =>
          simp only [occursWithin, here, Option.isSome_some, true_iff]
          exact ⟨[], text, rfl, Nat.zero_le _, Option.isSome_of_eq_some here⟩
      | none =>
          -- Nothing begins here, so the phrase begins behind the first character.
          cases text with
          | nil => simp [occursWithin, here]
          | cons first others =>
              simp only [occursWithin, here, inductionHypothesis]
              constructor
              · rintro ⟨before, behind, rfl, short, found⟩
                exact ⟨first :: before, behind, rfl, Nat.succ_le_succ short, found⟩
              · rintro ⟨before, behind, split, short, found⟩
                cases before with
                | nil =>
                    rw [List.nil_append] at split
                    rw [← split, here] at found
                    exact Bool.noConfusion found
                | cons _ more =>
                    obtain ⟨rfl, rest⟩ := List.cons.inj split
                    exact ⟨more, behind, rest, Nat.le_of_succ_le_succ short, found⟩

end RoutineAtlas
