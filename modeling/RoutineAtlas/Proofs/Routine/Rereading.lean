import RoutineAtlas.Proofs.Routine.Spelling
import RoutineAtlas.Proofs.Routine.Stages

/-
This file settles what becomes of a name whose base is read again. One reading drops one extension
and no blanks in front of it, and a second one drops more exactly when more is there.
-/

namespace RoutineAtlas

/-- A base is settled when it ends neither with a blank nor with a source extension. -/
structure IsSettledBase (base : List Char) : Prop where
  finish : ∀ character ∈ base.getLast?, isBlank character = false
  bare : ¬ EndsAsSource base

/-- A base that is left alone by both stages is settled, and only such a base is. -/
theorem isSettledBase_iff {base : List Char}
    (visible : ∀ character ∈ base.head?, isBlank character = false) :
    IsSettledBase base ↔ withoutExtension (trimCharacters base) = base := by
  constructor
  · intro settled
    have trimmed : trimCharacters base = base :=
      trimCharacters_eq_self_iff.mpr ⟨visible, settled.finish⟩
    rw [trimmed, withoutExtension_eq_self_iff.mpr settled.bare]
  · intro same
    -- Neither stage makes a text longer, so neither has dropped anything.
    have front := withoutExtension_isPrefix (trimCharacters base)
    have inside := trimCharacters_isInfix base
    have shorter := front.length_le
    rw [same] at shorter
    have trimmed := inside.eq_of_length (Nat.le_antisymm inside.length_le shorter)
    rw [trimmed] at same
    exact ⟨(trimCharacters_eq_self_iff.mp trimmed).finish, withoutExtension_eq_self_iff.mp same⟩

/-- The base of an accepted name does not begin with a blank. -/
theorem RoutineName.head?_base_of_parse {typed : String} {name : RoutineName}
    (accepted : RoutineName.parse typed = .ok name) :
    ∀ character ∈ name.base.toList.head?, isBlank character = false := by
  intro character first
  rw [RoutineName.toList_base_of_parse accepted] at first
  have front := withoutExtension_isPrefix (trimCharacters typed.toList)
  exact (isTrimmed_trimCharacters typed.toList).start character (head?_of_isPrefix front first)

/-- A settled base is accepted, and it is its own base. -/
theorem RoutineName.parse_base_of_settled {typed : String} {name : RoutineName}
    (accepted : RoutineName.parse typed = .ok name) (settled : IsSettledBase name.base.toList) :
    RoutineName.parse name.base = .ok { typed := name.base, base := name.base } := by
  have visible := RoutineName.head?_base_of_parse accepted
  have again := (isSettledBase_iff visible).mp settled
  have trimmed := trimCharacters_eq_self_iff.mpr ⟨visible, settled.finish⟩
  have own := RoutineName.toList_base_of_parse accepted
  have bare := RoutineName.isBare_of_parse accepted
  obtain ⟨_, _, _, stem, body, _⟩ := RoutineName.parse_eq_ok_iff.mp accepted
  rw [← own] at stem body
  have noDots : hasDoubleDot name.base.toList = false := by
    rw [Bool.eq_false_iff, Ne, hasDoubleDot_iff]
    exact bare.noDoubleDot
  rw [RoutineName.parse_eq_ok_iff]
  dsimp only
  rw [again, trimmed, String.ofList_toList]
  exact ⟨stem, bare.noPath, noDots, stem, body, rfl⟩

/-- Whatever is read from the base again is the base or shorter. -/
theorem RoutineName.length_base_of_reread {name again : RoutineName}
    (accepted : RoutineName.parse name.base = .ok again) :
    again.base = name.base ∨ again.base.length < name.base.length := by
  have read := RoutineName.toList_base_of_parse accepted
  have inside : again.base.toList <:+: name.base.toList := by
    rw [read]
    exact (withoutExtension_isPrefix _).isInfix.trans (trimCharacters_isInfix _)
  obtain shorter | same := Nat.lt_or_eq_of_le inside.length_le
  · rw [String.length_toList, String.length_toList] at shorter
    exact Or.inr shorter
  · exact Or.inl (String.toList_inj.mp (inside.eq_of_length same))

/-- The base of an accepted name is read back as it is unless a blank or an extension ends it. -/
theorem RoutineName.reread_iff_settled {typed : String} {name : RoutineName}
    (accepted : RoutineName.parse typed = .ok name) :
    (IsSettledBase name.base.toList ↔
      ∃ again, RoutineName.parse name.base = .ok again ∧ again.base = name.base ∧
        again.key = name.key ∧ again.spellings = name.spellings) ∧
    ∀ again, ¬ IsSettledBase name.base.toList → RoutineName.parse name.base = .ok again →
      again.base.length < name.base.length := by
  have settled_of_same {again : RoutineName} (read : RoutineName.parse name.base = .ok again)
      (same : again.base = name.base) : IsSettledBase name.base.toList := by
    rw [isSettledBase_iff (RoutineName.head?_base_of_parse accepted),
      ← RoutineName.toList_base_of_parse read, same]
  refine ⟨⟨?_, ?_⟩, ?_⟩
  · intro settled
    exact ⟨_, RoutineName.parse_base_of_settled accepted settled, rfl, rfl, rfl⟩
  · rintro ⟨again, read, same, _, _⟩
    exact settled_of_same read same
  · intro again unsettled read
    obtain same | shorter := RoutineName.length_base_of_reread read
    · exact absurd (settled_of_same read same) unsettled
    · exact shorter

/-- A base with an unknown extension and a blank inside is read again as it is. -/
theorem RoutineName.reread_settledText :
    ∃ name again, RoutineName.parse "  u_my report.txt.PRW " = .ok name ∧
      RoutineName.parse name.base = .ok again ∧ again.base = name.base ∧
      again.key = name.key ∧ again.spellings = name.spellings := by
  have accepted : RoutineName.parse "  u_my report.txt.PRW " =
      .ok { typed := "  u_my report.txt.PRW ", base := "u_my report.txt" } := by decide
  have settled : IsSettledBase "u_my report.txt".toList := by
    have last : "u_my report.txt".toList.getLast? = some 't' := by decide
    refine ⟨?_, withoutExtension_eq_self_iff.mp (by decide)⟩
    rw [last]
    rintro _ ⟨⟩
    decide
  obtain ⟨again, read, same⟩ := (RoutineName.reread_iff_settled accepted).1.mp settled
  exact ⟨_, again, accepted, read, same⟩

/-- Of two extensions the first reading drops one and the second reading the other. -/
theorem RoutineName.second_extension_dropped_later :
    ¬ ∀ typed name, RoutineName.parse typed = .ok name →
      ∃ again, RoutineName.parse name.base = .ok again ∧ again.base = name.base ∧
        again.key = name.key ∧ again.spellings = name.spellings := by
  intro idempotent
  have accepted :
      RoutineName.parse "x.prw.prw" = .ok { typed := "x.prw.prw", base := "x.prw" } := by
    decide
  obtain ⟨again, read, same, _, _⟩ := idempotent _ _ accepted
  have other : RoutineName.parse "x.prw" = .ok { typed := "x.prw", base := "x" } := by decide
  obtain rfl := Except.ok.inj (read.symm.trans other)
  exact absurd same (by decide)

end RoutineAtlas
