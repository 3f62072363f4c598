import RoutineAtlas.Files.Path

/-
This file shows paths as text. What a path has beside UTF-8 is shown by replacement characters.
-/

namespace RoutineAtlas

/-- The second byte of a character may be restricted by the first one. -/
def isSecondByte (lead byte : Nat) : Bool :=
  if lead = 0xE0 then 0xA0 ≤ byte
  else if lead = 0xED then byte < 0xA0
  else if lead = 0xF0 then 0x90 ≤ byte
  else if lead = 0xF4 then byte < 0x90
  else 0xC2 ≤ lead && lead < 0xF5

/-- A byte goes on with the character of which the piece has the first bytes. -/
def continuesCharacter (piece : Bytes) (byte : UInt8) : Bool :=
  let goesOn := 0x80 ≤ byte.toNat && byte.toNat < 0xC0
  match piece.map UInt8.toNat with
  | [lead] => goesOn && isSecondByte lead byte.toNat
  | [lead, _] => goesOn && 0xE0 ≤ lead && lead < 0xF5
  | [lead, _, _] => goesOn && 0xF0 ≤ lead && lead < 0xF5
  | _ => false

/-- The bytes are parted into characters and the longest pieces of what is none. -/
def characterPieces (piece : Bytes) : Bytes → List Bytes
  | [] => [piece]
  | byte :: rest =>
      if continuesCharacter piece byte then characterPieces (piece ++ [byte]) rest
      else piece :: characterPieces [byte] rest

/-- A path that is UTF-8 is shown as its text, and each piece of another that is no character as a
replacement character. -/
def PathName.display (path : PathName) : String :=
  match readUtf8 path with
  | some text => text
  | none =>
      String.join ((characterPieces [] path).map fun piece => (readUtf8 piece).getD "\uFFFD")

/-- A text is shown as it is. -/
@[simp] theorem PathName.display_utf8Bytes (text : String) :
    PathName.display (utf8Bytes text) = text := by
  simp [PathName.display]

end RoutineAtlas
