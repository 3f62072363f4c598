import RoutineAtlas.Proofs.Files.SourcePath
import RoutineAtlas.Proofs.Routine.Name

/-
This file settles the stages in which a name is read. The blanks at its ends, one extension and one
mark are dropped, and none of the stages looks at the case of a letter.
-/

namespace RoutineAtlas

/-- Neither end of a trimmed text is blank. -/
structure IsTrimmed (text : List Char) : Prop where
  start : ∀ character ∈ text.head?, isBlank character = false
  finish : ∀ character ∈ text.getLast?, isBlank character = false

/-- No blanks are left in front after they have been skipped. -/
theorem head?_skipBlanks (text : List Char) :
    ∀ character ∈ (skipBlanks text).head?, isBlank character = false := by
  intro character first
  have kept := List.head?_dropWhile_not isBlank text
  rw [skipBlanks, Option.mem_def] at first
  rw [first] at kept
  exact kept

theorem skipBlanks_eq_self {text : List Char}
    (visible : ∀ character ∈ text.head?, isBlank character = false) : skipBlanks text = text := by
  cases text with
  | nil => rfl
  | cons first rest => exact skipBlanks_cons_of_not_blank (visible first rfl)

/-- A beginning of a text starts as the text does. -/
theorem head?_of_isPrefix {front text : List Char} (begins : front <+: text) {character : Char}
    (first : character ∈ front.head?) : character ∈ text.head? :=
  List.singleton_prefix_iff_head?_eq_some.mp
    ((List.singleton_prefix_iff_head?_eq_some.mpr first).trans begins)

/-- What is left in the end is a beginning of what was left after the first blanks. -/
theorem trimCharacters_isPrefix (text : List Char) : trimCharacters text <+: skipBlanks text := by
  rw [trimCharacters, ← List.reverse_suffix, List.reverse_reverse]
  exact List.dropWhile_suffix isBlank

theorem trimCharacters_isInfix (text : List Char) : trimCharacters text <:+: text :=
  (trimCharacters_isPrefix text).isInfix.trans (List.dropWhile_suffix isBlank).isInfix

/-- Trimming leaves a trimmed text. -/
theorem isTrimmed_trimCharacters (text : List Char) : IsTrimmed (trimCharacters text) where
  start := by
    intro character first
    exact head?_skipBlanks text character (head?_of_isPrefix (trimCharacters_isPrefix text) first)
  finish := by
    intro character last
    rw [trimCharacters, List.getLast?_reverse] at last
    exact head?_skipBlanks _ character last

/-- Trimming leaves a text alone exactly when it is trimmed. -/
theorem trimCharacters_eq_self_iff {text : List Char} :
    trimCharacters text = text ↔ IsTrimmed text := by
  constructor
  · intro same
    exact same ▸ isTrimmed_trimCharacters text
  · intro trimmed
    have backwards : ∀ character ∈ text.reverse.head?, isBlank character = false := by
      rw [List.head?_reverse]
      exact trimmed.finish
    rw [trimCharacters, skipBlanks_eq_self trimmed.start, skipBlanks_eq_self backwards,
      List.reverse_reverse]

/-- A text ends as a source when it ends with a dot and a source extension. -/
def EndsAsSource (text : List Char) : Prop :=
  ∃ stem extension, text = stem ++ '.' :: extension ∧
    isSourceExtension (String.ofList extension) = true

/-- The stem is left when a source extension is dropped. -/
theorem withoutExtension_append (stem : List Char) {extension : List Char}
    (isSource : isSourceExtension (String.ofList extension) = true) :
    withoutExtension (stem ++ '.' :: extension) = stem := by
  obtain ⟨noDot, _, _⟩ := plain_of_isSourceExtension isSource
  rw [String.toList_ofList] at noDot
  rw [withoutExtension, splitAtLast_append stem noDot]
  dsimp only
  rw [if_pos isSource]

/-- Nothing is dropped exactly when the text does not end as a source. -/
theorem withoutExtension_eq_self_iff {text : List Char} :
    withoutExtension text = text ↔ ¬ EndsAsSource text := by
  constructor
  · rintro same ⟨stem, extension, rfl, isSource⟩
    rw [withoutExtension_append stem isSource] at same
    have shorter := congrArg List.length same
    rw [List.length_append, List.length_cons] at shorter
    omega
  · intro bare
    rw [withoutExtension]
    split
    · rename_i stem extension parts
      have other : ¬ isSourceExtension (String.ofList extension) = true := fun isSource =>
        bare ⟨stem, extension, eq_of_splitAtLast parts, isSource⟩
      rw [if_neg other]
    · rfl

/-- A front without dots is kept when an extension is dropped behind it. -/
theorem withoutExtension_behind {front : List Char} (noDot : '.' ∉ front) (text : List Char) :
    withoutExtension (front ++ text) = front ++ withoutExtension text := by
  by_cases source : EndsAsSource text
  · obtain ⟨stem, extension, rfl, isSource⟩ := source
    rw [← List.append_assoc, withoutExtension_append _ isSource, withoutExtension_append _ isSource]
  · have whole : ¬ EndsAsSource (front ++ text) := by
      rintro ⟨stem, extension, split, isSource⟩
      obtain ⟨more, rfl, tail⟩ | ⟨more, rfl, tail⟩ := List.append_eq_append_iff.mp split
      · exact source ⟨more, extension, tail, isSource⟩
      · -- The dot before the extension stands in the front or at the start of the text.
        cases more with
        | nil => exact source ⟨[], extension, tail.symm, isSource⟩
        | cons dot others =>
            rw [List.cons_append, List.cons.injEq] at tail
            exact noDot (tail.1 ▸ by simp)
    rw [withoutExtension_eq_self_iff.mpr source, withoutExtension_eq_self_iff.mpr whole]

/-- A text has the mark that one of its beginnings has. -/
theorem afterMark_of_isPrefix {front text rest : List Char} (begins : front <+: text)
    (marked : afterMark? front = some rest) : ∃ more, afterMark? text = some more := by
  obtain ⟨first, letter, rfl⟩ := afterMark_eq_some.mp marked
  obtain ⟨others, rfl⟩ := begins
  exact ⟨rest ++ others, afterMark_eq_some.mpr ⟨first, letter, rfl⟩⟩

/-- Only one mark is dropped, and it is the one in front. -/
theorem withoutMark_behind (text : List Char) :
    withoutMark (customMark.toList ++ text) = text := by
  have marked : afterMark? (customMark.toList ++ text) = some text :=
    afterMark_eq_some.mpr ⟨'U', by decide, rfl⟩
  rw [withoutMark, marked]
  rfl

/-- ASCII upper-casing keeps blanks and other characters apart. -/
@[simp] theorem isBlank_toUpper (character : Char) :
    isBlank character.toUpper = isBlank character :=
  eq_of_toUpper isBlank (by decide) character

/-- Neither the dot before a source extension nor its letters are blank. -/
theorem isBlank_of_mem_extension {extension : List Char}
    (isSource : isSourceExtension (String.ofList extension) = true) {character : Char}
    (member : character ∈ '.' :: extension) : isBlank character = false := by
  have upper := asciiUpper_of_isSourceExtension isSource
  rw [String.toList_ofList] at upper
  have visible : ∀ capitals ∈ [['P', 'R', 'W'], ['P', 'R', 'X'], ['P', 'R', 'G']],
      capitals.any isBlank = false := by decide
  rw [List.mem_cons] at member
  obtain rfl | inside := member
  · decide
  · rw [← isBlank_toUpper]
    exact Bool.eq_false_iff.mpr
      (List.any_eq_false.mp (visible _ upper) _ (List.mem_map_of_mem inside))

/-- Only a letter is the ASCII upper case of another character. -/
theorem toUpper_eq_iff {character sign : Char} (noLetter : sign.toUpper = sign)
    (noCapital : sign.isUpper = false) : character.toUpper = sign ↔ character = sign := by
  constructor
  · intro same
    exact (eq_toUpper_of_noCapital (same ▸ noCapital)).trans same
  · rintro rfl
    exact noLetter

@[simp] theorem toUpper_toUpper (character : Char) :
    character.toUpper.toUpper = character.toUpper :=
  eq_of_toUpper Char.toUpper (by decide) character

@[simp] theorem asciiUpper_asciiUpper (text : List Char) :
    asciiUpper (asciiUpper text) = asciiUpper text := by
  simp [asciiUpper]

theorem skipBlanks_asciiUpper (text : List Char) :
    skipBlanks (asciiUpper text) = asciiUpper (skipBlanks text) := by
  have same : isBlank ∘ Char.toUpper = isBlank := funext isBlank_toUpper
  rw [skipBlanks, asciiUpper, List.dropWhile_map, same]
  rfl

/-- The blanks at the ends are the same in ASCII upper case. -/
theorem trimCharacters_asciiUpper (text : List Char) :
    trimCharacters (asciiUpper text) = asciiUpper (trimCharacters text) := by
  have turned (letters : List Char) : (asciiUpper letters).reverse = asciiUpper letters.reverse :=
    List.map_reverse.symm
  rw [trimCharacters, skipBlanks_asciiUpper, turned, skipBlanks_asciiUpper, turned]
  rfl

/-- The last dot stands at the same place in ASCII upper case. -/
theorem splitAtLast_asciiUpper (text : List Char) :
    splitAtLast '.' (asciiUpper text) =
      (splitAtLast '.' text).map (Prod.map asciiUpper asciiUpper) := by
  induction text with
  | nil => rfl
  | cons character rest inductionHypothesis =>
      rw [asciiUpper_cons, splitAtLast, splitAtLast, inductionHypothesis]
      cases splitAtLast '.' rest with
      | some parts => rfl
      | none =>
          by_cases dot : character = '.'
          · simp [dot, asciiUpper]
          · have other : character.toUpper ≠ '.' := fun same =>
              dot ((toUpper_eq_iff (by decide) (by decide)).mp same)
            simp [dot, other]

theorem isSourceExtension_asciiUpper (extension : List Char) :
    isSourceExtension (String.ofList (asciiUpper extension)) =
      isSourceExtension (String.ofList extension) := by
  simp [isSourceExtension, holdsIgnoringCase, agreesIgnoringCase]

/-- The extension that is dropped is the same in ASCII upper case. -/
theorem withoutExtension_asciiUpper (text : List Char) :
    withoutExtension (asciiUpper text) = asciiUpper (withoutExtension text) := by
  rw [withoutExtension, withoutExtension, splitAtLast_asciiUpper]
  cases splitAtLast '.' text with
  | none => rfl
  | some parts =>
      obtain ⟨stem, extension⟩ := parts
      simp only [Option.map_some, Prod.map_apply, isSourceExtension_asciiUpper]
      cases isSourceExtension (String.ofList extension) with
      | true => rfl
      | false => rfl

/-- The mark is the same in ASCII upper case. -/
theorem withoutMark_asciiUpper (text : List Char) :
    withoutMark (asciiUpper text) = asciiUpper (withoutMark text) := by
  match text with
  | [] => rfl
  | [_] => rfl
  | first :: second :: rest =>
      have line : second.toUpper = '_' ↔ second = '_' := toUpper_eq_iff (by decide) (by decide)
      simp only [withoutMark, asciiUpper, List.map_cons, afterMark?, toUpper_toUpper, line]
      split
      · rfl
      · rfl

/-- The full upper case does not depend on the case of ASCII letters. -/
theorem upperCaseCharacters_asciiUpper (text : List Char) :
    upperCaseCharacters (asciiUpper text) = upperCaseCharacters text := by
  have own : ∀ character, upperCaseOf character.toUpper = upperCaseOf character :=
    eq_of_toUpper upperCaseOf (by decide +kernel)
  rw [upperCaseCharacters, asciiUpper, List.flatMap_map]
  simp only [own]
  rfl

end RoutineAtlas
