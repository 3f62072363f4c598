import RoutineAtlas.Proofs.Origin.Lead
import RoutineAtlas.Proofs.Routine.Stages

/-
This file follows the first letters of a name. Whatever else is dropped when the name is read, the
letters that make a lead stay in front, and in upper case the key begins with them.
-/

namespace RoutineAtlas

/-- The letters of an opening stand in front of a text. -/
structure Opens (letters text : List Char) : Prop where
  begins : letters <+: text
  letter : ∀ character ∈ letters, isLetter character = true

/-- A lead is the opening of its stem in capitals. -/
theorem exists_opens_of_leadOf {stem : List Char} {lead : String}
    (shown : leadOf stem = some lead) :
    ∃ letters, Opens letters stem ∧ 3 ≤ letters.length ∧
      lead.toList = letters.map Char.toUpper := by
  simp only [leadOf] at shown
  split at shown
  · rename_i long
    obtain rfl := Option.some.inj shown
    refine ⟨_, ⟨?_, ?_⟩, long, String.toList_ofList⟩
    · exact (List.take_prefix 4 _).trans (List.takeWhile_prefix isLetter)
    · intro character member
      exact List.mem_takeWhile_imp (List.mem_of_mem_take member)
  · exact absurd shown (by simp)

/-- A stem that begins with three letters has a lead. -/
theorem exists_leadOf {stem : List Char} (long : 3 ≤ (stem.takeWhile isLetter).length) :
    ∃ lead, leadOf stem = some lead := by
  have counted : 3 ≤ ((stem.takeWhile isLetter).take 4).length := by
    rw [List.length_take]
    omega
  exact ⟨_, if_pos counted⟩

theorem isBlank_of_isLetter {character : Char} (letter : isLetter character = true) :
    isBlank character = false :=
  of_ascii (fun other => isLetter other = true → isBlank other = false) (by decide)
    (ascii_of_isLetter letter) letter

/-- Characters that are not blank stay when the blanks before them are skipped. -/
theorem isSuffix_skipBlanks {text : List Char}
    (visible : ∀ character ∈ text, isBlank character = false) (front : List Char) :
    text <:+ skipBlanks (front ++ text) := by
  induction front with
  | nil =>
      have kept : skipBlanks text = text :=
        skipBlanks_eq_self fun first isFirst => visible first (List.mem_of_mem_head? isFirst)
      simp [kept]
  | cons first rest inductionHypothesis =>
      cases blank : isBlank first with
      | true => simpa [skipBlanks, List.dropWhile_cons, blank] using inductionHypothesis
      | false =>
          rw [List.cons_append, skipBlanks_cons_of_not_blank blank]
          exact (List.suffix_append rest text).trans (List.suffix_cons first _)

/-- Trimming leaves an opening in front. -/
theorem Opens.trimCharacters {letters text : List Char} (opens : Opens letters text) :
    Opens letters (trimCharacters text) := by
  obtain ⟨⟨rest, rfl⟩, letter⟩ := opens
  have visible : ∀ character ∈ letters, isBlank character = false := fun character member =>
    isBlank_of_isLetter (letter character member)
  refine ⟨?_, letter⟩
  cases letters with
  | nil => exact List.nil_prefix
  | cons first others =>
      have start : skipBlanks (first :: others ++ rest) = first :: others ++ rest :=
        skipBlanks_cons_of_not_blank (visible first (by simp))
      have backwards : ∀ character ∈ (first :: others).reverse, isBlank character = false :=
        fun character member => visible character (List.mem_reverse.mp member)
      have kept := isSuffix_skipBlanks backwards rest.reverse
      rw [RoutineAtlas.trimCharacters, start, List.reverse_append]
      rw [← List.reverse_prefix, List.reverse_reverse] at kept
      exact kept

/-- Dropping an extension leaves an opening in front. -/
theorem Opens.withoutExtension {letters text : List Char} (opens : Opens letters text) :
    Opens letters (withoutExtension text) := by
  obtain ⟨⟨rest, rfl⟩, letter⟩ := opens
  have noDot : '.' ∉ letters := fun member => absurd (letter '.' member) (by decide)
  rw [withoutExtension_behind noDot]
  exact ⟨List.prefix_append letters _, letter⟩

/-- Two letters in front leave no room for the mark. -/
theorem Opens.afterMark {letters text : List Char} (opens : Opens letters text)
    (long : 2 ≤ letters.length) : afterMark? text = none := by
  by_contra marked
  obtain ⟨rest, found⟩ := Option.ne_none_iff_exists'.mp marked
  obtain ⟨first, _, rfl⟩ := afterMark_eq_some.mp found
  obtain ⟨begins, letter⟩ := opens
  match letters with
  | [] => simp at long
  | [_] => simp at long
  | _ :: second :: _ =>
      obtain ⟨_, tail⟩ := List.cons_prefix_cons.mp begins
      have line : second = '_' := (List.cons_prefix_cons.mp tail).1
      exact absurd (letter second (by simp)) (line ▸ by decide)

/-- In upper case an opening becomes capitals. -/
theorem Opens.upperCaseCharacters {letters text : List Char} (opens : Opens letters text) :
    letters.map Char.toUpper <+: upperCaseCharacters text := by
  obtain ⟨⟨rest, rfl⟩, letter⟩ := opens
  have capitals : RoutineAtlas.upperCaseCharacters letters = letters.map Char.toUpper := by
    rw [RoutineAtlas.upperCaseCharacters, List.map_eq_flatMap, List.flatMap, List.flatMap]
    congr 1
    apply List.map_congr_left
    intro character member
    exact upperCaseOf_ascii (ascii_of_isLetter (letter character member))
  rw [upperCaseCharacters_append, capitals]
  exact List.prefix_append _ _

/-- A name whose stem shows a lead has no mark, and its key begins with the lead. -/
theorem RoutineName.lead_isPrefix_key {typed lead : String} {name : RoutineName}
    (accepted : RoutineName.parse typed = .ok name) (shown : leadOf typed.toList = some lead) :
    name.isMarked = false ∧ lead.toList <+: name.key.toList := by
  obtain ⟨letters, opens, long, capitals⟩ := exists_opens_of_leadOf shown
  have base := opens.trimCharacters.withoutExtension
  rw [← RoutineName.toList_base_of_parse accepted] at base
  have unmarked := base.afterMark (by omega)
  refine ⟨by simp [RoutineName.isMarked, hasMark, unmarked], ?_⟩
  have plain : withoutMark name.base.toList = name.base.toList := by
    rw [withoutMark, unmarked]
    rfl
  rw [RoutineName.key, toList_upperCase, RoutineName.plain, String.toList_ofList, plain, capitals]
  exact base.upperCaseCharacters

end RoutineAtlas
