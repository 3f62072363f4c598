import RoutineAtlas.Outline.Declaration
import RoutineAtlas.Outline.FunctionNames
import RoutineAtlas.Proofs.Text.UpperCase
import Mathlib.Data.List.TakeWhile
import Mathlib.Tactic.ByContra

/-
This file settles what recognisers read. A phrase that is recognised is a part of the text, and
blanks, letters and words are kept apart by the characters that they begin with.
-/

namespace RoutineAtlas

/-- A text stops a kind of characters when it does not begin with one. -/
def Stops (kind : Char → Bool) (text : List Char) : Prop :=
  ∀ character ∈ text.head?, kind character = false

theorem stops_cons {kind : Char → Bool} {character : Char} {rest : List Char} :
    Stops kind (character :: rest) ↔ kind character = false := by
  simp [Stops]

/-- A text that stops a kind stops every narrower kind. -/
theorem Stops.of_imp {kind narrower : Char → Bool} {text : List Char} (stops : Stops kind text)
    (narrow : ∀ character, narrower character = true → kind character = true) :
    Stops narrower text := by
  intro character first
  by_contra own
  rw [Bool.not_eq_false] at own
  exact absurd (narrow character own) (by simp [stops character first])

theorem stops_dropWhile (kind : Char → Bool) (text : List Char) :
    Stops kind (text.dropWhile kind) := by
  induction text with
  | nil => simp [Stops]
  | cons character rest inductionHypothesis =>
      rw [List.dropWhile_cons]
      split
      · exact inductionHypothesis
      · rename_i other
        exact stops_cons.mpr (Bool.not_eq_true _ ▸ other)

theorem dropWhile_of_stops {kind : Char → Bool} {text : List Char} (stops : Stops kind text) :
    text.dropWhile kind = text := by
  cases text with
  | nil => rfl
  | cons character rest => rw [List.dropWhile_cons, if_neg (by simp [stops_cons.mp stops])]

/-- A run of one kind ends where the text behind it stops the kind. -/
theorem dropWhile_append_of_stops {kind : Char → Bool} {run rest : List Char}
    (same : ∀ character ∈ run, kind character = true) (stops : Stops kind rest) :
    (run ++ rest).dropWhile kind = rest := by
  rw [List.dropWhile_append_of_pos same, dropWhile_of_stops stops]

theorem takeWhile_append_of_stops {kind : Char → Bool} {run rest : List Char}
    (same : ∀ character ∈ run, kind character = true) (stops : Stops kind rest) :
    (run ++ rest).takeWhile kind = run := by
  rw [List.takeWhile_append_of_pos same]
  cases rest with
  | nil => simp
  | cons character others => simp [stops_cons.mp stops]

theorem afterQuote_eq_some_iff {text rest : List Char} :
    afterQuote text = some rest ↔
      ∃ quote, text = quote :: rest ∧ (quote = '"' ∨ quote = Char.ofNat 39) := by
  cases text with
  | nil => simp [afterQuote]
  | cons first others =>
      rw [afterQuote, Option.ite_none_right_eq_some, Option.some.injEq]
      constructor
      · rintro ⟨isQuote, rfl⟩
        exact ⟨first, rfl, isQuote⟩
      · rintro ⟨quote, split, isQuote⟩
        obtain ⟨rfl, rfl⟩ := List.cons.inj split
        exact ⟨isQuote, rfl⟩

/-- The phrase is at least one character of the kind, and all that follow. -/
def afterRun (kind : Char → Bool) : Recognizer
  | [] => none
  | character :: rest => if kind character then some (rest.dropWhile kind) else none

theorem afterBlanks_eq : afterBlanks = afterRun isBlank := by
  funext text
  cases text <;> rfl

theorem afterLineBlanks_eq : afterLineBlanks = afterRun isLineBlank := by
  funext text
  cases text <;> rfl

/-- What is left after a run is the text behind all characters of the kind. -/
theorem afterRun_eq_some_iff {kind : Char → Bool} {text rest : List Char} :
    afterRun kind text = some rest ↔
      ∃ run, text = run ++ rest ∧ run ≠ [] ∧ (∀ character ∈ run, kind character = true) ∧
        Stops kind rest := by
  cases text with
  | nil => simp [afterRun]
  | cons first others =>
      rw [afterRun, Option.ite_none_right_eq_some]
      constructor
      · rintro ⟨begins, same⟩
        obtain rfl := Option.some.inj same
        refine ⟨first :: others.takeWhile kind, ?_, by simp, ?_, stops_dropWhile kind others⟩
        · rw [List.cons_append, List.takeWhile_append_dropWhile]
        · intro character member
          rcases List.mem_cons.mp member with rfl | member
          · exact begins
          · exact List.mem_takeWhile_imp member
      · rintro ⟨run, split, filled, all, stops⟩
        obtain ⟨begin, further, rfl⟩ := List.exists_cons_of_ne_nil filled
        rw [List.cons_append, List.cons.injEq] at split
        obtain ⟨rfl, rfl⟩ := split
        have inside : ∀ character ∈ further, kind character = true :=
          fun character member => all character (List.mem_cons_of_mem _ member)
        exact ⟨all first List.mem_cons_self, by rw [dropWhile_append_of_stops inside stops]⟩

/-- What is left after a folded literal stands behind a text that folds to it. -/
theorem afterFolded_eq_some_iff {literal : String} {text rest : List Char} :
    afterFolded literal text = some rest ↔
      ∃ front, text = front ++ rest ∧ front.map foldLetter = literal.toList := by
  rw [afterFolded]
  generalize literal.toList = expected
  induction expected generalizing text with
  | nil => simp [afterFoldedCharacters]
  | cons letter others inductionHypothesis =>
      cases text with
      | nil => simp [afterFoldedCharacters]
      | cons character following =>
          rw [afterFoldedCharacters, Option.ite_none_right_eq_some, inductionHypothesis]
          constructor
          · rintro ⟨folds, front, rfl, same⟩
            exact ⟨character :: front, rfl, by rw [List.map_cons, folds, same]⟩
          · rintro ⟨front, split, same⟩
            obtain ⟨first, further, rfl⟩ := List.exists_cons_of_ne_nil (l := front) (by
              rintro rfl
              exact absurd same (by simp))
            simp only [List.cons_append, List.cons.injEq, List.map_cons] at split same
            exact ⟨split.1 ▸ same.1, further, split.2, same.2⟩

/-- A folded literal leaves a return mark at the end alone. -/
theorem afterFolded_append_return {literal : String} (plain : '\r' ∉ literal.toList)
    (text : List Char) :
    afterFolded literal (text ++ ['\r']) = (afterFolded literal text).map (· ++ ['\r']) := by
  rw [afterFolded]
  generalize literal.toList = expected at plain ⊢
  induction expected generalizing text with
  | nil => rfl
  | cons letter others inductionHypothesis =>
      rw [List.mem_cons, not_or] at plain
      cases text with
      | nil =>
          have folds : foldLetter '\r' ≠ letter := plain.1
          simp [afterFoldedCharacters, folds]
      | cons character following =>
          have tail := inductionHypothesis following plain.2
          rw [List.cons_append, afterFoldedCharacters, afterFoldedCharacters, tail]
          split <;> rfl

/-- A run of another kind leaves a return mark at the end alone. -/
theorem dropWhile_append_return {kind : Char → Bool} (other : kind '\r' = false)
    (text : List Char) : (text ++ ['\r']).dropWhile kind = text.dropWhile kind ++ ['\r'] := by
  induction text with
  | nil => simp [other]
  | cons character rest inductionHypothesis =>
      rw [List.cons_append, List.dropWhile_cons, List.dropWhile_cons, inductionHypothesis]
      split <;> rfl

theorem takeWhile_append_return {kind : Char → Bool} (other : kind '\r' = false)
    (text : List Char) : (text ++ ['\r']).takeWhile kind = text.takeWhile kind := by
  induction text with
  | nil => simp [other]
  | cons character rest inductionHypothesis =>
      rw [List.cons_append, List.takeWhile_cons, List.takeWhile_cons, inductionHypothesis]

theorem afterRun_append_return {kind : Char → Bool} (other : kind '\r' = false)
    (text : List Char) :
    afterRun kind (text ++ ['\r']) = (afterRun kind text).map (· ++ ['\r']) := by
  cases text with
  | nil => simp [afterRun, other]
  | cons character rest =>
      rw [List.cons_append, afterRun, afterRun, dropWhile_append_return other]
      split <;> rfl

/-- The capital letters are in ASCII. -/
theorem ascii_of_isUpper {character : Char} (capital : character.isUpper = true) :
    character.toNat < 0x80 :=
  Nat.lt_of_le_of_lt (UInt32.le_iff_toNat_le.mp (of_decide_eq_true capital).2) (by decide)

/-- The digits are in ASCII. -/
theorem ascii_of_isDigit {character : Char} (digit : character.isDigit = true) :
    character.toNat < 0x80 := by
  simp only [Char.isDigit, Bool.and_eq_true, decide_eq_true_eq] at digit
  exact Nat.lt_of_le_of_lt (UInt32.le_iff_toNat_le.mp digit.2) (by decide)

/-- A character whose ASCII upper case is a capital belongs to ASCII. -/
theorem ascii_of_isUpper_toUpper {character : Char} (capital : character.toUpper.isUpper = true) :
    character.toNat < 0x80 := by
  by_contra foreign
  rw [toUpper_foreign (Nat.not_lt.mp foreign)] at capital
  exact foreign (ascii_of_isUpper capital)

/-- Two characters outside ASCII fold to letters, and folding any other one is to write it in
upper case. -/
theorem foldLetter_cases (character : Char) :
    (character = Char.ofNat 0x17F ∧ foldLetter character = 'S') ∨
      (character = Char.ofNat 0x212A ∧ foldLetter character = 'K') ∨
      foldLetter character = character.toUpper := by
  by_cases long : character.toNat = 0x17F
  · have own : character = Char.ofNat 0x17F := by rw [← long, Char.ofNat_toNat]
    exact Or.inl ⟨own, by rw [foldLetter, if_pos long]⟩
  · by_cases kelvin : character.toNat = 0x212A
    · have own : character = Char.ofNat 0x212A := by rw [← kelvin, Char.ofNat_toNat]
      exact Or.inr (Or.inl ⟨own, by rw [foldLetter, if_neg long, if_pos kelvin]⟩)
    · exact Or.inr (Or.inr (by rw [foldLetter, if_neg long, if_neg kelvin]))

/-- A character whose ASCII upper case is a capital folds to that capital. -/
theorem foldLetter_of_isUpper_toUpper {character : Char}
    (capital : character.toUpper.isUpper = true) : foldLetter character = character.toUpper :=
  of_ascii (fun letter => foldLetter letter = letter.toUpper) (by decide)
    (ascii_of_isUpper_toUpper capital)

/-- What goes on with a name is in ASCII or one of the two foreign characters that fold to letters.
-/
theorem continuesName_cases {character : Char} (goesOn : continuesName character = true) :
    character = Char.ofNat 0x17F ∨ character = Char.ofNat 0x212A ∨ character.toNat < 0x80 := by
  obtain ⟨long, _⟩ | ⟨kelvin, _⟩ | plain := foldLetter_cases character
  · exact Or.inl long
  · exact Or.inr (Or.inl kelvin)
  · simp only [continuesName, startsName, plain, Bool.or_eq_true, beq_iff_eq] at goesOn
    obtain (capital | rfl) | digit := goesOn
    · exact Or.inr (Or.inr (ascii_of_isUpper_toUpper capital))
    · exact Or.inr (Or.inr (by decide))
    · exact Or.inr (Or.inr (ascii_of_isDigit digit))

/-- Whatever goes on with a name belongs to a word. -/
theorem isWord_of_continuesName {character : Char} (goesOn : continuesName character = true) :
    isWord character = true := by
  obtain rfl | rfl | ascii := continuesName_cases goesOn
  · decide +kernel
  · decide +kernel
  · exact of_ascii (fun letter => continuesName letter = true → isWord letter = true)
      (by decide +kernel) ascii goesOn

/-- No blank belongs to a word. -/
theorem isBlank_of_isWord {character : Char} (word : isWord character = true) :
    isBlank character = false := by
  have apart : ∀ range ∈ blankRanges, ∀ more < range.2 - range.1 + 1,
      isWord (Char.ofNat (range.1 + more)) = false := by decide +kernel
  by_contra blank
  rw [Bool.not_eq_false] at blank
  obtain ⟨range, member, lower, upper⟩ := CodeRanges.exists_of_holds blank
  have own := apart range member (character.toNat - range.1) (by omega)
  rw [Nat.add_sub_cancel' lower, Char.ofNat_toNat, word] at own
  exact Bool.noConfusion own

/-- The blanks of a line are blanks. -/
theorem isBlank_of_isLineBlank {character : Char} (blank : isLineBlank character = true) :
    isBlank character = true := by
  simp only [isLineBlank, Bool.or_eq_true, beq_iff_eq] at blank
  obtain rfl | rfl := blank <;> decide

/-- What folds to a capital is no blank. -/
theorem isBlank_of_isUpper_foldLetter {character : Char}
    (capital : (foldLetter character).isUpper = true) : isBlank character = false :=
  isBlank_of_isWord (isWord_of_continuesName (by simp [continuesName, startsName, capital]))

end RoutineAtlas
