import RoutineAtlas.Text.LegacyEncoding
import Mathlib.Data.List.Basic

/-
This file gives the forms that the bytes of a character have in UTF-8. A text has the bytes of its
characters, one after the other.
-/

namespace RoutineAtlas

/-- These digits, to the base 64, make up the bytes of a character. The first digit of a longer form
is large enough for no shorter form to do. -/
inductive Utf8Form : (code : Nat) → Bytes → Prop
  | one (code : Nat) (small : code < 0x80) : Utf8Form code [.ofNat code]
  | two (high low : Nat) (long : 2 ≤ high) (fits : high < 32) (digit : low < 64) :
      Utf8Form (high * 64 + low) [.ofNat (high + 192), .ofNat (low + 128)]
  | three (high middle low : Nat) (long : 32 ≤ high * 64 + middle) (fits : high < 16)
      (digit : middle < 64) (last : low < 64) :
      Utf8Form ((high * 64 + middle) * 64 + low)
        [.ofNat (high + 224), .ofNat (middle + 128), .ofNat (low + 128)]
  | four (high upper middle low : Nat) (long : 16 ≤ high * 64 + upper) (fits : high < 8)
      (first : upper < 64) (digit : middle < 64) (last : low < 64) :
      Utf8Form (((high * 64 + upper) * 64 + middle) * 64 + low)
        [.ofNat (high + 240), .ofNat (upper + 128), .ofNat (middle + 128), .ofNat (low + 128)]

/-- The bytes of every character have one of the forms. -/
theorem utf8Form_encodeChar (character : Char) :
    Utf8Form character.toNat (String.utf8EncodeChar character) := by
  have bound : character.val.toNat < 0x110000 := by
    have valid := character.valid
    simp only [UInt32.isValidChar, Nat.isValidChar] at valid
    omega
  change Utf8Form character.val.toNat _
  rw [String.utf8EncodeChar]
  generalize character.val.toNat = code at bound
  split
  · exact .one code (by omega)
  · split
    · have form := Utf8Form.two (code / 64 % 32) (code % 64) (by omega) (by omega) (by omega)
      have whole : code / 64 % 32 * 64 + code % 64 = code := by omega
      rwa [whole] at form
    · split
      · have form := Utf8Form.three (code / 4096 % 16) (code / 64 % 64) (code % 64) (by omega)
          (by omega) (by omega) (by omega)
        have whole : (code / 4096 % 16 * 64 + code / 64 % 64) * 64 + code % 64 = code := by omega
        rwa [whole] at form
      · have form := Utf8Form.four (code / 262144 % 8) (code / 4096 % 64) (code / 64 % 64)
          (code % 64) (by omega) (by omega) (by omega) (by omega) (by omega)
        have whole : ((code / 262144 % 8 * 64 + code / 4096 % 64) * 64 + code / 64 % 64) * 64 +
            code % 64 = code := by omega
        rwa [whole] at form

theorem utf8Bytes_eq_flatMap (text : String) :
    utf8Bytes text = text.toList.flatMap String.utf8EncodeChar := by
  conv_lhs => rw [← String.ofList_toList (s := text), utf8Bytes, String.toByteArray_ofList]
  simp [List.utf8Encode]

end RoutineAtlas
