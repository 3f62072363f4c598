import RoutineAtlas.Proofs.Lookup.SourceFile
import RoutineAtlas.Proofs.Routine.Spelling
import RoutineAtlas.Proofs.Routine.Stages
import Mathlib.Logic.Relation

/-
This file compares the ways in which one routine can be typed. They have one key, names of one key
have the same spellings in upper case, and so the walk finds the same source for all of them.
-/

namespace RoutineAtlas

/-- The second text differs from the first in one thing only. Letters have another case, there are
other blanks at the ends, or a name got a mark or an extension that it did not have. -/
inductive TypedVariant : String → String → Prop where
  | letterCase {first second : String} (agrees : agreesIgnoringCase first second = true) :
      TypedVariant first second
  | blanks {first second : String} (same : trim first = trim second) : TypedVariant first second
  | mark {plain : String} (trimmed : trim plain = plain)
      (unmarked : hasMark plain.toList = false) : TypedVariant plain (customMark ++ plain)
  | ending {plain extension : String} (trimmed : trim plain = plain)
      (bare : ¬ EndsAsSource plain.toList) (isSource : isSourceExtension extension = true) :
      TypedVariant plain (plain ++ "." ++ extension)

/-- This is the name in a typed text, whether the text is accepted or not. -/
def plainIn (typed : List Char) : List Char :=
  withoutMark (withoutExtension (trimCharacters typed))

/-- The key of an accepted name is the upper case of the name in the typed text. -/
theorem RoutineName.toList_key_of_parse {typed : String} {name : RoutineName}
    (accepted : RoutineName.parse typed = .ok name) :
    name.key.toList = upperCaseCharacters (plainIn typed.toList) := by
  rw [RoutineName.key, toList_upperCase, RoutineName.plain, String.toList_ofList,
    RoutineName.toList_base_of_parse accepted, plainIn]

/-- Letters of another case do not change the name but for its case. -/
theorem plainIn_asciiUpper (typed : List Char) :
    plainIn (asciiUpper typed) = asciiUpper (plainIn typed) := by
  rw [plainIn, trimCharacters_asciiUpper, withoutExtension_asciiUpper, withoutMark_asciiUpper,
    plainIn]

/-- A mark in front of a trimmed name without one is not part of the name. -/
theorem plainIn_marked {plain : List Char} (trimmed : trimCharacters plain = plain)
    (unmarked : hasMark plain = false) :
    plainIn (customMark.toList ++ plain) = plainIn plain := by
  obtain ⟨start, finish⟩ := trimCharacters_eq_self_iff.mp trimmed
  have whole : IsTrimmed (customMark.toList ++ plain) := by
    refine ⟨?_, ?_⟩
    · rintro character ⟨⟩
      decide
    · intro character last
      rw [List.getLast?_append] at last
      cases ended : plain.getLast? with
      | none =>
          rw [ended] at last
          obtain rfl := Option.some.inj last
          decide
      | some own =>
          rw [ended] at last
          obtain rfl := Option.some.inj last
          exact finish _ ended
  have bare : afterMark? (withoutExtension plain) = none := by
    by_contra marked
    obtain ⟨rest, found⟩ := Option.ne_none_iff_exists'.mp marked
    obtain ⟨more, wrong⟩ := afterMark_of_isPrefix (withoutExtension_isPrefix plain) found
    rw [hasMark, wrong] at unmarked
    exact Bool.noConfusion unmarked
  have noDot : '.' ∉ customMark.toList := by decide
  rw [plainIn, plainIn, trimCharacters_eq_self_iff.mpr whole, trimmed,
    withoutExtension_behind noDot, withoutMark_behind, withoutMark, bare]
  rfl

/-- A source extension behind a trimmed name without one is not part of the name. -/
theorem plainIn_ended {plain extension : List Char} (trimmed : trimCharacters plain = plain)
    (bare : ¬ EndsAsSource plain) (isSource : isSourceExtension (String.ofList extension) = true) :
    plainIn (plain ++ '.' :: extension) = plainIn plain := by
  obtain ⟨start, _⟩ := trimCharacters_eq_self_iff.mp trimmed
  have whole : IsTrimmed (plain ++ '.' :: extension) := by
    refine ⟨?_, ?_⟩
    · intro character first
      cases plain with
      | nil =>
          obtain rfl := Option.some.inj first
          decide
      | cons own rest => exact start character first
    · intro character last
      have member : character ∈ '.' :: extension := by
        rw [List.getLast?_append_cons] at last
        exact List.mem_of_getLast? last
      exact isBlank_of_mem_extension isSource member
  rw [plainIn, plainIn, trimCharacters_eq_self_iff.mpr whole, trimmed,
    withoutExtension_append plain isSource, withoutExtension_eq_self_iff.mpr bare]

/-- A change in one thing leaves the name as it is in upper case. -/
theorem TypedVariant.upperCase_plainIn {first second : String}
    (variant : TypedVariant first second) :
    upperCaseCharacters (plainIn first.toList) = upperCaseCharacters (plainIn second.toList) := by
  cases variant with
  | letterCase agrees =>
      rw [agreesIgnoringCase_iff] at agrees
      rw [← upperCaseCharacters_asciiUpper, ← plainIn_asciiUpper, agrees, plainIn_asciiUpper,
        upperCaseCharacters_asciiUpper]
  | blanks same =>
      have characters := congrArg String.toList same
      rw [toList_trim, toList_trim] at characters
      rw [plainIn, plainIn, characters]
  | mark trimmed unmarked =>
      have characters := congrArg String.toList trimmed
      rw [toList_trim] at characters
      rw [String.toList_append, plainIn_marked characters unmarked]
  | ending trimmed bare isSource =>
      rename_i extension
      have characters := congrArg String.toList trimmed
      rw [toList_trim] at characters
      have parts :
          (first ++ "." ++ extension).toList = first.toList ++ '.' :: extension.toList := by
        simp
      rw [parts, plainIn_ended characters bare (by simpa using isSource)]

/-- Texts that differ in such things only, one after the other, have one key. -/
theorem RoutineName.key_of_variants {typed other : String}
    (variants : Relation.EqvGen TypedVariant typed other) :
    upperCaseCharacters (plainIn typed.toList) = upperCaseCharacters (plainIn other.toList) := by
  induction variants with
  | rel first second variant => exact variant.upperCase_plainIn
  | refl typed => rfl
  | symm first second _ same => exact same.symm
  | trans first second third _ _ before after => exact before.trans after

/-- The walk looks for these file names, which it compares in upper case. -/
def searchedNames (key : String) : List String :=
  [key, customMark ++ key].flatMap fun stem => upperCaseEndings.map fun ending => stem ++ ending

/-- The spellings of a name are, in upper case, the file names for which the walk looks. -/
theorem RoutineName.mem_upperCase_spellings {name : RoutineName} {text : String} :
    text ∈ name.spellings.map upperCase ↔ text ∈ searchedNames name.key := by
  rw [List.mem_map, name.upperCase_spellings, searchedNames, List.mem_flatMap]
  simp only [List.mem_map, eq_comm]

/-- Names of one key are looked for under the same file names. -/
theorem answersTo_of_key {first second : RoutineName} (same : first.key = second.key)
    (path : PathName) : answersTo first path = answersTo second path := by
  rw [Bool.eq_iff_iff, answersTo_iff_bearsKey, answersTo_iff_bearsKey, BearsKey, BearsKey, same]

/-- Texts that differ only in case, blanks at the ends, mark and extension are searched alike. -/
theorem RoutineName.variants_searched_alike {typed other : String} {first second : RoutineName}
    (accepted : RoutineName.parse typed = .ok first)
    (acceptedToo : RoutineName.parse other = .ok second) :
    (Relation.EqvGen TypedVariant typed other → first.key = second.key) ∧
    (first.key = second.key →
      (∀ text, text ∈ first.spellings.map upperCase ↔ text ∈ searchedNames first.key) ∧
      (∀ text, text ∈ second.spellings.map upperCase ↔ text ∈ searchedNames first.key) ∧
      ∀ tree depth root,
        ((ScanPlan.forSources depth).scan tree root).files.find? (answersTo first) =
          ((ScanPlan.forSources depth).scan tree root).files.find? (answersTo second)) := by
  refine ⟨?_, ?_⟩
  · intro variants
    apply String.toList_inj.mp
    rw [RoutineName.toList_key_of_parse accepted, RoutineName.toList_key_of_parse acceptedToo]
    exact RoutineName.key_of_variants variants
  · intro same
    refine ⟨fun text => RoutineName.mem_upperCase_spellings, ?_, ?_⟩
    · intro text
      rw [same]
      exact RoutineName.mem_upperCase_spellings
    · intro tree depth root
      rw [show answersTo first = answersTo second from funext (answersTo_of_key same)]

/-- A name in small letters and the same name in capitals, with a mark, an extension and blanks. -/
theorem variants_plainText : Relation.EqvGen TypedVariant "mata010" " u_MATA010.Prw " := by
  have marked : TypedVariant "mata010" "U_mata010" := .mark (by decide) (by decide)
  have bare : ¬ EndsAsSource "U_mata010".toList := withoutExtension_eq_self_iff.mp (by decide)
  have ended : TypedVariant "U_mata010" "U_mata010.prw" :=
    @TypedVariant.ending "U_mata010" "prw" (by decide) bare (by decide)
  have capitals : TypedVariant "U_mata010.prw" "u_MATA010.Prw" := .letterCase (by decide)
  have spaced : TypedVariant "u_MATA010.Prw" " u_MATA010.Prw " := .blanks (by decide)
  exact (((Relation.EqvGen.rel _ _ marked).trans _ _ _ (.rel _ _ ended)).trans _ _ _
    (.rel _ _ capitals)).trans _ _ _ (.rel _ _ spaced)

/-- Both of these texts are searched under the eight file names of their key. -/
theorem RoutineName.plainText_searched_alike :
    ∃ first second, RoutineName.parse "mata010" = .ok first ∧
      RoutineName.parse " u_MATA010.Prw " = .ok second ∧ first.key = second.key ∧
      (∀ text, text ∈ second.spellings.map upperCase ↔ text ∈ searchedNames first.key) ∧
      ∀ tree depth root,
        ((ScanPlan.forSources depth).scan tree root).files.find? (answersTo first) =
          ((ScanPlan.forSources depth).scan tree root).files.find? (answersTo second) := by
  have accepted : RoutineName.parse "mata010" = .ok { typed := "mata010", base := "mata010" } := by
    decide
  have acceptedToo : RoutineName.parse " u_MATA010.Prw " =
      .ok { typed := " u_MATA010.Prw ", base := "u_MATA010" } := by
    decide
  obtain ⟨key, search⟩ := RoutineName.variants_searched_alike accepted acceptedToo
  have same := key variants_plainText
  obtain ⟨_, spellings, walk⟩ := search same
  exact ⟨_, _, accepted, acceptedToo, same, spellings, walk⟩

end RoutineAtlas
