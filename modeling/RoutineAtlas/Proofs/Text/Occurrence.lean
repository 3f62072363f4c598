import RoutineAtlas.Proofs.Text.Recognizer

/-
This file settles where searches find their phrases. Whether a search may try its phrase at a place
depends on the character before the place alone.
-/

namespace RoutineAtlas

/-- A search is open behind these characters when the last of them is of the kind. Where there is
none it is open as it started. -/
def isOpenBehind (kind : Char → Bool) (isOpen : Bool) (before : List Char) : Bool :=
  (before.getLast?.map kind).getD isOpen

/-- What stands before a character does not matter behind it. -/
theorem isOpenBehind_append_cons (kind : Char → Bool) (isOpen : Bool) (before : List Char)
    (mark : Char) (more : List Char) :
    isOpenBehind kind isOpen (before ++ mark :: more) = isOpenBehind kind (kind mark) more := by
  rw [isOpenBehind, isOpenBehind, List.getLast?_append, List.getLast?_cons]
  cases more.getLast? <;> rfl

/-- The phrase stands at a place where the search is open. -/
def OccursBehind (kind : Char → Bool) (recognizer : Recognizer) (isOpen : Bool)
    (text : List Char) : Prop :=
  ∃ before behind, text = before ++ behind ∧ isOpenBehind kind isOpen before = true ∧
    (recognizer behind).isSome = true

theorem occursBehind_nil {kind : Char → Bool} {recognizer : Recognizer} {isOpen : Bool} :
    OccursBehind kind recognizer isOpen [] ↔ isOpen = true ∧ (recognizer []).isSome = true := by
  constructor
  · rintro ⟨before, behind, split, allowed, found⟩
    obtain ⟨rfl, rfl⟩ := List.append_eq_nil_iff.mp split.symm
    exact ⟨allowed, found⟩
  · rintro ⟨allowed, found⟩
    exact ⟨[], [], rfl, allowed, found⟩

/-- The phrase stands at the start, or behind the first character with the search open as that
character tells. -/
theorem occursBehind_cons {kind : Char → Bool} {recognizer : Recognizer} {isOpen : Bool}
    {character : Char} {rest : List Char} :
    OccursBehind kind recognizer isOpen (character :: rest) ↔
      (isOpen = true ∧ (recognizer (character :: rest)).isSome = true) ∨
        OccursBehind kind recognizer (kind character) rest := by
  constructor
  · rintro ⟨before, behind, split, allowed, found⟩
    cases before with
    | nil =>
        obtain rfl : character :: rest = behind := split
        exact Or.inl ⟨allowed, found⟩
    | cons first more =>
        obtain ⟨rfl, rfl⟩ := List.cons.inj split
        exact Or.inr ⟨more, behind, rfl,
          (isOpenBehind_append_cons kind isOpen [] character more).symm.trans allowed, found⟩
  · rintro (⟨allowed, found⟩ | ⟨before, behind, rfl, allowed, found⟩)
    · exact ⟨[], character :: rest, rfl, allowed, found⟩
    · exact ⟨character :: before, behind, rfl,
        (isOpenBehind_append_cons kind isOpen [] character before).trans allowed, found⟩

/-- A search without conditions tries every place. -/
theorem occursAnywhere_iff {recognizer : Recognizer} {text : List Char} :
    occursAnywhere recognizer text = true ↔ OccursBehind (fun _ => true) recognizer true text := by
  induction text with
  | nil => simp [occursAnywhere, occursBehind_nil]
  | cons character rest inductionHypothesis =>
      rw [occursAnywhere, Bool.or_eq_true, occursBehind_cons, inductionHypothesis]
      simp

/-- A search at the starts of lines tries the places behind line feeds. -/
theorem occursAtLineStart_iff {recognizer : Recognizer} {lineStart : Bool} {text : List Char} :
    occursAtLineStart recognizer lineStart text = true ↔
      OccursBehind (· == '\n') recognizer lineStart text := by
  induction text generalizing lineStart with
  | nil => rw [occursAtLineStart, Bool.and_eq_true, occursBehind_nil]
  | cons character rest inductionHypothesis =>
      rw [occursAtLineStart, Bool.or_eq_true, Bool.and_eq_true, occursBehind_cons,
        inductionHypothesis]

/-- A search at the starts of words tries the places that no word character stands before. -/
theorem occursAtWordStart_iff {recognizer : Recognizer} (filled : recognizer [] = none)
    {afterWord : Bool} {text : List Char} :
    occursAtWordStart recognizer afterWord text = true ↔
      OccursBehind (fun character => !isWord character) recognizer (!afterWord) text := by
  induction text generalizing afterWord with
  | nil => simp [occursAtWordStart, occursBehind_nil, filled]
  | cons character rest inductionHypothesis =>
      rw [occursAtWordStart, Bool.or_eq_true, Bool.and_eq_true, occursBehind_cons,
        inductionHypothesis]

/-- What one recogniser finds another finds when it recognises no less. -/
theorem OccursBehind.imp {kind : Char → Bool} {recognizer other : Recognizer} {isOpen : Bool}
    {text : List Char} (occurs : OccursBehind kind recognizer isOpen text)
    (less : ∀ place, (recognizer place).isSome = true → (other place).isSome = true) :
    OccursBehind kind other isOpen text := by
  obtain ⟨before, behind, split, allowed, found⟩ := occurs
  exact ⟨before, behind, split, allowed, less behind found⟩

/-- A search at the starts of words finds its phrase when it counts at least one place. -/
theorem occursAtWordStart_eq_decide (recognizer : Recognizer) (afterWord : Bool)
    (text : List Char) :
    occursAtWordStart recognizer afterWord text =
      decide (1 ≤ countAtWordStart recognizer afterWord text) := by
  induction text generalizing afterWord with
  | nil => rfl
  | cons character rest inductionHypothesis =>
      rw [occursAtWordStart, countAtWordStart, inductionHypothesis]
      cases (!afterWord && (recognizer (character :: rest)).isSome) with
      | true => simp
      | false => simp

end RoutineAtlas
