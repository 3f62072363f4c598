/-
This file compares texts without regard to the case of ASCII letters.
-/

namespace RoutineAtlas

/-- This is the text with its ASCII letters in upper case. -/
def asciiUpper (text : List Char) : List Char :=
  text.map Char.toUpper

theorem asciiUpper_cons (character : Char) (rest : List Char) :
    asciiUpper (character :: rest) = character.toUpper :: asciiUpper rest := rfl

/-- Two texts agree when they differ in the case of ASCII letters at most. -/
def agreesIgnoringCase (first second : String) : Bool :=
  asciiUpper first.toList == asciiUpper second.toList

/-- The list holds a text that agrees with the given one. -/
def holdsIgnoringCase (known : List String) (text : String) : Bool :=
  known.any fun entry => agreesIgnoringCase entry text

theorem agreesIgnoringCase_iff (first second : String) :
    agreesIgnoringCase first second = true ↔
      asciiUpper first.toList = asciiUpper second.toList := by
  simp [agreesIgnoringCase]

/-- What is true of the first characters by their numbers is true of every ASCII character. -/
theorem of_ascii (kind : Char → Prop) (all : ∀ code < 0x80, kind (Char.ofNat code))
    {character : Char} (ascii : character.toNat < 0x80) : kind character := by
  have own := all character.toNat ascii
  rw [Char.ofNat_toNat] at own
  exact own

end RoutineAtlas
