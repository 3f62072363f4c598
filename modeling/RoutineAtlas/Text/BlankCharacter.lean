import RoutineAtlas.Text.CodeRanges

/-
This file decides which characters are blank and trims them from the ends of a text.
-/

namespace RoutineAtlas

/-- These are the blank characters of every script. -/
def blankRanges : CodeRanges := [
  (0x9, 0xD), (0x20, 0x20), (0x85, 0x85), (0xA0, 0xA0), (0x1680, 0x1680), (0x2000, 0x200A),
  (0x2028, 0x2029), (0x202F, 0x202F), (0x205F, 0x205F), (0x3000, 0x3000)]

/-- A blank character separates words. -/
def isBlank (character : Char) : Bool :=
  blankRanges.holds character.toNat

/-- The blanks at the start of a text are dropped. -/
def skipBlanks (text : List Char) : List Char :=
  text.dropWhile isBlank

/-- The blanks at both ends of a text are dropped. -/
def trimCharacters (text : List Char) : List Char :=
  (skipBlanks (skipBlanks text).reverse).reverse

/-- This is the text without the blanks at its ends. -/
def trim (text : String) : String :=
  String.ofList (trimCharacters text.toList)

@[simp] theorem toList_trim (text : String) :
    (trim text).toList = trimCharacters text.toList := by
  simp [trim]

/-- A text whose first character is not blank has no blanks to skip. -/
theorem skipBlanks_cons_of_not_blank {character : Char} {rest : List Char}
    (visible : isBlank character = false) :
    skipBlanks (character :: rest) = character :: rest := by
  simp [skipBlanks, visible]

end RoutineAtlas
