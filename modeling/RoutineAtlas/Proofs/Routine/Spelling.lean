import RoutineAtlas.Proofs.Routine.Name
import Mathlib.Data.List.Infix

/-
This file settles what the spellings of an accepted name can hold. None of them, not even in upper
case, has a character that would lead out of a directory or is the step above.
-/

namespace RoutineAtlas

/-- Put below a directory, this text is a step that does not lead out of it. -/
structure StaysInside (text : String) : Prop where
  filled : text ≠ ""
  noSlash : '/' ∉ text.toList
  noBackslash : '\\' ∉ text.toList
  noColon : ':' ∉ text.toList
  noNull : Char.ofNat 0 ∉ text.toList
  notAbove : text ≠ ".."

theorem staysInside_iff {text : String} :
    StaysInside text ↔ text ≠ "" ∧ text ≠ ".." ∧
      ∀ character ∈ text.toList, isPathCharacter character = false := by
  constructor
  · intro inside
    refine ⟨inside.filled, inside.notAbove, ?_⟩
    intro character member
    by_contra path
    simp only [isPathCharacter, Bool.not_eq_false, Bool.or_eq_true, beq_iff_eq] at path
    obtain ((rfl | rfl) | rfl) | rfl := path
    · exact inside.noSlash member
    · exact inside.noBackslash member
    · exact inside.noColon member
    · exact inside.noNull member
  · rintro ⟨filled, notAbove, noPath⟩
    exact {
      filled := filled
      noSlash := fun member => absurd (noPath _ member) (by decide)
      noBackslash := fun member => absurd (noPath _ member) (by decide)
      noColon := fun member => absurd (noPath _ member) (by decide)
      noNull := fun member => absurd (noPath _ member) (by decide)
      notAbove := notAbove }

/-- Two dots in a row stand somewhere in the text. -/
theorem hasDoubleDot_iff {text : List Char} :
    hasDoubleDot text = true ↔ ['.', '.'] <:+: text := by
  induction text with
  | nil => simp [hasDoubleDot]
  | cons character rest inductionHypothesis =>
      have here : (character == '.' && rest.head? == some '.') = true ↔
          ['.', '.'] <+: character :: rest := by
        cases rest with
        | nil => simp
        | cons next others =>
            simp only [List.head?_cons, Bool.and_eq_true, beq_iff_eq, Option.some.injEq,
              List.cons_prefix_cons, List.nil_prefix, and_true]
            exact and_congr eq_comm eq_comm
      rw [hasDoubleDot, Bool.or_eq_true, here, inductionHypothesis, List.infix_cons_iff]

/-- Path characters are ASCII characters and no capitals. -/
theorem ascii_of_isPathCharacter {character : Char} (path : isPathCharacter character = true) :
    character.toNat < 0x80 ∧ character.isUpper = false := by
  simp only [isPathCharacter, Bool.or_eq_true, beq_iff_eq] at path
  obtain ((rfl | rfl) | rfl) | rfl := path <;> decide

/-- Upper-casing writes no path characters. -/
theorem noPath_upperCaseCharacters {text : List Char}
    (noPath : ∀ character ∈ text, isPathCharacter character = false) :
    ∀ character ∈ upperCaseCharacters text, isPathCharacter character = false := by
  intro character member
  by_contra path
  rw [Bool.not_eq_false] at path
  obtain ⟨ascii, noCapital⟩ := ascii_of_isPathCharacter path
  have inside := mem_of_mem_upperCaseCharacters ascii noCapital member
  rw [noPath character inside] at path
  exact Bool.noConfusion path

theorem eq_nil_of_upperCaseCharacters {text : List Char} (nothing : upperCaseCharacters text = []) :
    text = [] := by
  cases text with
  | nil => rfl
  | cons character rest =>
      rw [upperCaseCharacters_cons] at nothing
      exact absurd (List.append_eq_nil_iff.mp nothing).1 (upperCaseOf_ne_nil character)

/-- Upper-casing writes the step above only where it stood before. -/
theorem eq_above_of_upperCase {text : String} (above : upperCase text = "..") : text = ".." := by
  have characters : upperCaseCharacters text.toList = ['.', '.'] := by
    rw [← toList_upperCase, above]
    rfl
  obtain ⟨first, others, split, firstDot, tail⟩ :=
    eq_cons_of_upperCaseCharacters (by decide) (by decide) characters
  obtain ⟨second, rest, rfl, secondDot, ended⟩ :=
    eq_cons_of_upperCaseCharacters (by decide) (by decide) tail
  have firstOwn : first = '.' :=
    (eq_toUpper_of_noCapital (firstDot ▸ by decide)).trans firstDot
  have secondOwn : second = '.' :=
    (eq_toUpper_of_noCapital (secondDot ▸ by decide)).trans secondDot
  apply String.toList_inj.mp
  rw [split, firstOwn, secondOwn, eq_nil_of_upperCaseCharacters ended]
  rfl

/-- A text that stays inside does so in upper case. -/
theorem StaysInside.upperCase {text : String} (inside : StaysInside text) :
    StaysInside (upperCase text) := by
  obtain ⟨filled, notAbove, noPath⟩ := staysInside_iff.mp inside
  refine staysInside_iff.mpr ⟨?_, fun above => notAbove (eq_above_of_upperCase above), ?_⟩
  · intro empty
    have characters : upperCaseCharacters text.toList = [] := by
      rw [← toList_upperCase, empty]
      rfl
    exact filled (String.toList_eq_nil_iff.mp (eq_nil_of_upperCaseCharacters characters))
  · rw [toList_upperCase]
    exact noPath_upperCaseCharacters noPath

theorem withoutExtension_isPrefix (name : List Char) : withoutExtension name <+: name := by
  rw [withoutExtension]
  split
  · rename_i stem extension split
    split
    · rw [eq_of_splitAtLast split]
      exact List.prefix_append _ _
    · exact List.prefix_rfl
  · exact List.prefix_rfl

theorem withoutMark_isSuffix (name : List Char) : withoutMark name <:+ name := by
  rw [withoutMark]
  cases marked : afterMark? name with
  | none => exact List.suffix_rfl
  | some rest =>
      obtain ⟨first, _, rfl⟩ := afterMark_eq_some.mp marked
      exact ⟨[first, '_'], rfl⟩

/-- A bare name is more than its mark, and it has no path character and no two dots in a row. -/
structure RoutineName.IsBare (name : RoutineName) : Prop where
  filled : name.plain ≠ ""
  noPath : ∀ character ∈ name.base.toList, isPathCharacter character = false
  noDoubleDot : ¬ ['.', '.'] <:+: name.base.toList

/-- A name that is accepted is bare. -/
theorem RoutineName.isBare_of_parse {typed : String} {name : RoutineName}
    (accepted : RoutineName.parse typed = .ok name) : name.IsBare := by
  obtain ⟨_, noPath, noDots, _, filled, rfl⟩ := RoutineName.parse_eq_ok_iff.mp accepted
  have front := withoutExtension_isPrefix (trimCharacters typed.toList)
  refine ⟨?_, ?_, ?_⟩
  · intro empty
    rw [RoutineName.plain, String.toList_ofList] at empty
    exact filled (by simpa using empty)
  · intro character member
    rw [String.toList_ofList] at member
    exact noPath character (front.subset member)
  · intro dots
    rw [String.toList_ofList] at dots
    rw [hasDoubleDot_iff.mpr (dots.trans front.isInfix)] at noDots
    exact Bool.noConfusion noDots

/-- A part of a bare name stays inside. -/
theorem RoutineName.IsBare.staysInside {name : RoutineName} (bare : name.IsBare) {part : String}
    (inside : part.toList <:+: name.base.toList) (filled : part ≠ "") : StaysInside part := by
  refine staysInside_iff.mpr ⟨filled, ?_, ?_⟩
  · rintro rfl
    exact bare.noDoubleDot inside
  · intro character member
    exact bare.noPath character (inside.subset member)

/-- All forms of a bare name stay inside. -/
theorem RoutineName.IsBare.forms {name : RoutineName} (bare : name.IsBare) {form : String}
    (listed : form ∈ name.forms) : StaysInside form := by
  have back : name.plain.toList <:+: name.base.toList := by
    rw [RoutineName.plain, String.toList_ofList]
    exact (withoutMark_isSuffix _).isInfix
  have baseFilled : name.base ≠ "" := by
    intro empty
    rw [empty] at back
    exact bare.filled (String.toList_eq_nil_iff.mp (List.infix_nil.mp back))
  have base := bare.staysInside List.infix_rfl baseFilled
  have plain := bare.staysInside back bare.filled
  simp only [RoutineName.forms, List.mem_cons, List.not_mem_nil, or_false] at listed
  obtain rfl | rfl | rfl | rfl := listed
  · exact base
  · exact base.upperCase
  · have first : name.marked.toList = 'U' :: '_' :: name.plain.toList := by
      rw [RoutineName.marked, String.toList_append]
      rfl
    refine staysInside_iff.mpr ⟨?_, ?_, ?_⟩
    · intro empty
      rw [empty] at first
      exact absurd first (by simp)
    · intro above
      rw [above] at first
      exact absurd first (by simp)
    · obtain ⟨_, _, noPath⟩ := staysInside_iff.mp plain
      intro character member
      rw [first, List.mem_cons, List.mem_cons] at member
      obtain rfl | rfl | member := member
      · decide
      · decide
      · exact noPath character member
  · exact plain

/-- All spellings of a bare name stay inside. -/
theorem RoutineName.IsBare.spellings {name : RoutineName} (bare : name.IsBare) {spelling : String}
    (listed : spelling ∈ name.spellings) : StaysInside spelling := by
  obtain ⟨form, isForm, ending, isEnding, rfl⟩ := RoutineName.mem_spellings.mp listed
  have inside := bare.forms isForm
  obtain ⟨filled, _, formPath⟩ := staysInside_iff.mp inside
  have endingPath : ∀ ending ∈ spellingEndings, ∀ character ∈ ending.toList,
      isPathCharacter character = false := by simp [spellingEndings, isPathCharacter]
  refine staysInside_iff.mpr ⟨?_, ?_, ?_⟩
  · intro empty
    exact filled (String.append_eq_empty_iff.mp empty).1
  · intro above
    have lettered : ∀ ending ∈ spellingEndings, ending = "" ∨
        ∃ character ∈ ending.toList, character ∉ "..".toList := by simp [spellingEndings]
    obtain rfl | ⟨character, member, letter⟩ := lettered ending isEnding
    · exact inside.notAbove (by simpa using above)
    · rw [← above, String.toList_append, List.mem_append] at letter
      exact letter (Or.inr member)
  · intro character member
    rw [String.toList_append, List.mem_append] at member
    exact member.elim (formPath character) (endingPath ending isEnding character)

end RoutineAtlas
