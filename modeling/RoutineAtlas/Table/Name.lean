import RoutineAtlas.Fault
import RoutineAtlas.Text.BlankCharacter
import RoutineAtlas.Text.UpperCase
import RoutineAtlas.Text.WordCharacter

/-
This file reads the name of a data table.
-/

namespace RoutineAtlas

/-- A table name is a non-empty upper-case run of ASCII word characters. -/
structure TableName where
  label : String
  notEmpty : label ≠ ""
  ascii : ∀ character ∈ label.toList, character.toNat < 0x80 ∧ isAsciiWord character = true
  deriving DecidableEq

/-- The characters of a table name are ASCII letters, digits and underscores. -/
def isTableCharacter (character : Char) : Bool :=
  decide (character.toNat < 0x80) && isAsciiWord character

/-- A table may be typed in any case and with blanks around its name. -/
def TableName.parse (typed : String) : Except Fault TableName :=
  let normal := upperCase (trim typed)
  if empty : normal = "" then .error (.input .blankTable)
  else if plain : normal.toList.all isTableCharacter then
    .ok {
      label := normal
      notEmpty := empty
      ascii := by simpa [isTableCharacter] using plain }
  else .error (.input (.tableCharacters normal))

/-- The characters of a table name are word characters. -/
theorem TableName.isWord_of_mem (table : TableName) {character : Char}
    (member : character ∈ table.label.toList) : isWord character = true := by
  obtain ⟨small, word⟩ := table.ascii character member
  rw [isWord_of_ascii small, word]

end RoutineAtlas
