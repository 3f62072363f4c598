import RoutineAtlas.Proofs.Text.UpperCase
import RoutineAtlas.Routine.Name
import Mathlib.Tactic.Tauto

/-
This file settles the key of a routine. All spellings of a name are, in upper case, the key with
or without the mark and one of four endings.
-/

namespace RoutineAtlas

/-- These are the endings of spellings in upper case. -/
def upperCaseEndings : List String :=
  ["", ".PRW", ".PRX", ".PRG"]

/-- A name is accepted when it holds more than an extension and a mark and is no path, and then its
base is what was typed without the blanks at its ends and one extension. -/
theorem RoutineName.parse_eq_ok_iff {typed : String} {name : RoutineName} :
    RoutineName.parse typed = .ok name ↔
      let trimmed := trimCharacters typed.toList
      let base := withoutExtension trimmed
      trimmed ≠ [] ∧ (∀ character ∈ trimmed, isPathCharacter character = false) ∧
        hasDoubleDot trimmed = false ∧ base ≠ [] ∧ withoutMark base ≠ [] ∧
          name = { typed, base := String.ofList base } := by
  simp only [RoutineName.parse, List.isEmpty_iff]
  split
  · rename_i blank
    simp [blank]
  · rename_i filled
    split
    · rename_i path
      rw [Bool.or_eq_true, List.any_eq_true] at path
      simp only [reduceCtorEq, false_iff, not_and]
      intro _ noPath noDots
      obtain ⟨character, member, isPath⟩ | dots := path
      · exact absurd isPath (by simp [noPath character member])
      · exact absurd dots (by simp [noDots])
    · rename_i plain
      simp only [Bool.or_eq_true, not_or, Bool.not_eq_true, List.any_eq_false] at plain
      split
      · rename_i bare
        simp [bare]
      · rename_i stem
        split
        · rename_i bodiless
          simp [bodiless]
        · rename_i body
          simp only [Except.ok.injEq]
          exact ⟨fun same => ⟨filled, plain.1, plain.2, stem, body, same.symm⟩,
            fun ⟨_, _, _, _, _, same⟩ => same.symm⟩

theorem RoutineName.toList_base_of_parse {typed : String} {name : RoutineName}
    (accepted : RoutineName.parse typed = .ok name) :
    name.base.toList = withoutExtension (trimCharacters typed.toList) := by
  obtain ⟨_, _, _, _, _, rfl⟩ := RoutineName.parse_eq_ok_iff.mp accepted
  exact String.toList_ofList

theorem RoutineName.mem_spellings {name : RoutineName} {spelling : String} :
    spelling ∈ name.spellings ↔
      ∃ form ∈ name.forms, ∃ ending ∈ spellingEndings, form ++ ending = spelling := by
  rw [RoutineName.spellings, List.mem_eraseDups, List.mem_flatMap]
  simp only [List.mem_map]

/-- Only a capital letter and its small letter have the capital as their ASCII upper case. -/
theorem upperCaseOf_of_toUpper {character : Char} {capital : Char} (ascii : capital.toNat < 0x80)
    (same : character.toUpper = capital) : upperCaseOf character = [capital] := by
  by_cases small : character.toNat < 0x80
  · rw [upperCaseOf_ascii small, same]
  · rw [toUpper_foreign (Nat.not_lt.mp small)] at same
    exact absurd (same ▸ ascii) small

/-- A text whose ASCII upper case is within ASCII has no other upper case. -/
theorem upperCaseCharacters_of_asciiUpper {text : List Char}
    (ascii : ∀ capital ∈ asciiUpper text, capital.toNat < 0x80) :
    upperCaseCharacters text = asciiUpper text := by
  induction text with
  | nil => rfl
  | cons character rest inductionHypothesis =>
      have tail := inductionHypothesis fun capital member => ascii capital (by
        rw [asciiUpper, List.map_cons]
        exact List.mem_cons_of_mem _ member)
      have head : character.toUpper.toNat < 0x80 := ascii _ List.mem_cons_self
      rw [upperCaseCharacters_cons, upperCaseOf_of_toUpper head rfl, tail]
      rfl

/-- The mark is the same in every upper case. -/
theorem upperCaseCharacters_of_afterMark {name rest : List Char}
    (marked : afterMark? name = some rest) :
    upperCaseCharacters name = customMark.toList ++ upperCaseCharacters rest := by
  obtain ⟨first, letter, rfl⟩ := afterMark_eq_some.mp marked
  rw [upperCaseCharacters_cons, upperCaseOf_of_toUpper (by decide) letter, upperCaseCharacters_cons]
  rfl

/-- An ASCII character begins an upper case only as the ASCII upper case of the first character. -/
theorem eq_cons_of_upperCaseCharacters {text rest : List Char} {capital : Char}
    (ascii : capital.toNat < 0x80) (ours : capital ∉ foreignCapitals)
    (upper : upperCaseCharacters text = capital :: rest) :
    ∃ character others, text = character :: others ∧ character.toUpper = capital ∧
      upperCaseCharacters others = rest := by
  match text with
  | [] => simp at upper
  | character :: others =>
      rw [upperCaseCharacters_cons] at upper
      cases head : upperCaseOf character with
      | nil => exact absurd head (upperCaseOf_ne_nil character)
      | cons written more =>
          rw [head, List.cons_append, List.cons.injEq] at upper
          obtain ⟨rfl, tail⟩ := upper
          have member : written ∈ upperCaseOf character := by rw [head]; exact List.mem_cons_self
          obtain ⟨alone, same⟩ | foreign := ascii_of_mem_upperCaseOf member ascii
          · rw [head, List.cons.injEq] at alone
            rw [alone.2, List.nil_append] at tail
            exact ⟨character, others, rfl, same.symm, tail⟩
          · exact absurd foreign ours

/-- Upper-casing writes a mark only where one stood before. -/
theorem hasMark_of_upperCaseCharacters {name : List Char}
    (begins : customMark.toList <+: upperCaseCharacters name) : hasMark name = true := by
  obtain ⟨behind, split⟩ := begins
  obtain ⟨first, others, rfl, letter, tail⟩ :=
    eq_cons_of_upperCaseCharacters (by decide) (by decide) split.symm
  obtain ⟨second, rest, rfl, line, _⟩ :=
    eq_cons_of_upperCaseCharacters (by decide) (by decide) tail
  have own : second = '_' := (eq_toUpper_of_noCapital (line ▸ by decide)).trans line
  have marked : afterMark? (first :: second :: rest) = some rest :=
    afterMark_eq_some.mpr ⟨first, letter, by rw [own]⟩
  rw [hasMark, marked]
  rfl

/-- The key of a name without the mark does not begin with the mark. -/
theorem RoutineName.not_mark_key {name : RoutineName} (unmarked : name.isMarked = false) :
    ¬ customMark.toList <+: name.key.toList := by
  intro begins
  have plain : withoutMark name.base.toList = name.base.toList := by
    rw [RoutineName.isMarked, hasMark, Option.isSome_eq_false_iff, Option.isNone_iff_eq_none]
      at unmarked
    rw [withoutMark, unmarked]
    rfl
  rw [RoutineName.key, toList_upperCase, RoutineName.plain, plain, String.toList_ofList] at begins
  rw [RoutineName.isMarked, hasMark_of_upperCaseCharacters begins] at unmarked
  exact Bool.noConfusion unmarked

theorem RoutineName.upperCase_marked (name : RoutineName) :
    upperCase name.marked = customMark ++ name.key := by
  rw [RoutineName.marked, upperCase_append]
  rfl

/-- The base is the key in upper case, and it keeps its mark. -/
theorem RoutineName.upperCase_base (name : RoutineName) :
    upperCase name.base = if name.isMarked then customMark ++ name.key else name.key := by
  apply String.toList_inj.mp
  cases found : afterMark? name.base.toList with
  | none =>
      have unmarked : name.isMarked = false := by simp [RoutineName.isMarked, hasMark, found]
      simp [unmarked, RoutineName.key, RoutineName.plain, withoutMark, found]
  | some rest =>
      have marked : name.isMarked = true := by simp [RoutineName.isMarked, hasMark, found]
      rw [toList_upperCase, upperCaseCharacters_of_afterMark found]
      simp [marked, RoutineName.key, RoutineName.plain, withoutMark, found]

/-- In upper case every form of a name is its key, with or without the mark. -/
theorem RoutineName.upperCase_forms (name : RoutineName) (text : String) :
    (∃ form ∈ name.forms, upperCase form = text) ↔
      text = name.key ∨ text = customMark ++ name.key := by
  have base := name.upperCase_base
  have upper : upperCase name.baseUpper = upperCase name.base := upperCase_upperCase name.base
  have marked := name.upperCase_marked
  have plain : upperCase name.plain = name.key := rfl
  simp only [RoutineName.forms, List.mem_cons, List.not_mem_nil, or_false, exists_eq_or_imp,
    exists_eq_left, upper, base, marked, plain]
  cases name.isMarked
  · simp only [Bool.false_eq_true, if_false]
    constructor
    · rintro (same | same | same | same)
      · exact Or.inl same.symm
      · exact Or.inl same.symm
      · exact Or.inr same.symm
      · exact Or.inl same.symm
    · rintro (rfl | rfl)
      · exact Or.inl rfl
      · exact Or.inr (Or.inr (Or.inl rfl))
  · simp only [if_true]
    constructor
    · rintro (same | same | same | same)
      · exact Or.inr same.symm
      · exact Or.inr same.symm
      · exact Or.inr same.symm
      · exact Or.inl same.symm
    · rintro (rfl | rfl)
      · exact Or.inr (Or.inr (Or.inr rfl))
      · exact Or.inl rfl

/-- In upper case the endings of spellings are four. -/
theorem upperCase_spellingEndings (text : String) :
    (∃ ending ∈ spellingEndings, upperCase ending = text) ↔ text ∈ upperCaseEndings := by
  have small : upperCase ".prw" = ".PRW" ∧ upperCase ".prx" = ".PRX" ∧
      upperCase ".prg" = ".PRG" := by decide
  have large : upperCase "" = "" ∧ upperCase ".PRW" = ".PRW" ∧ upperCase ".PRX" = ".PRX" ∧
      upperCase ".PRG" = ".PRG" := by decide
  simp only [spellingEndings, upperCaseEndings, List.mem_cons, List.not_mem_nil, or_false,
    exists_eq_or_imp, exists_eq_left, small, large]
  tauto

/-- In upper case the spellings of a name are its key, with or without the mark and with one of
four endings. -/
theorem RoutineName.upperCase_spellings (name : RoutineName) (text : String) :
    (∃ spelling ∈ name.spellings, upperCase spelling = text) ↔
      ∃ stem ∈ [name.key, customMark ++ name.key], ∃ ending ∈ upperCaseEndings,
        text = stem ++ ending := by
  constructor
  · rintro ⟨spelling, listed, rfl⟩
    obtain ⟨form, isForm, ending, isEnding, rfl⟩ := RoutineName.mem_spellings.mp listed
    have stem := (name.upperCase_forms _).mp ⟨form, isForm, rfl⟩
    have last := (upperCase_spellingEndings _).mp ⟨ending, isEnding, rfl⟩
    exact ⟨upperCase form, by simpa using stem, upperCase ending, last, upperCase_append _ _⟩
  · rintro ⟨stem, isStem, ending, isEnding, rfl⟩
    obtain ⟨form, isForm, rfl⟩ := (name.upperCase_forms stem).mpr (by simpa using isStem)
    obtain ⟨last, isLast, rfl⟩ := (upperCase_spellingEndings ending).mpr isEnding
    exact ⟨form ++ last, RoutineName.mem_spellings.mpr ⟨form, isForm, last, isLast, rfl⟩,
      upperCase_append _ _⟩

end RoutineAtlas
