import RoutineAtlas.Proofs.Text.WellFormed
import RoutineAtlas.Text.Extension

/-
This file relates the bytes of a text to its characters as far as these belong to ASCII. Such a
character is one byte, which stands for nothing else, and so a text can be cut there in its bytes.
-/

namespace RoutineAtlas

theorem utf8Bytes_append (first second : String) :
    utf8Bytes (first ++ second) = utf8Bytes first ++ utf8Bytes second := by
  simp [utf8Bytes]

theorem utf8Bytes_eq_nil_iff {text : String} : utf8Bytes text = [] ↔ text = "" := by
  have empty : utf8Bytes "" = [] := rfl
  rw [← empty]
  exact ⟨utf8Bytes_injective, congrArg utf8Bytes⟩

section

variable {byte : UInt8} {character : Char} (ascii : byte.toNat < 0x80)
  (code : character.toNat = byte.toNat)

include ascii code

theorem encodeChar_of_ascii : String.utf8EncodeChar character = [byte] := by
  obtain ⟨only, bytes, own⟩ | ⟨foreign, _⟩ := (utf8Form_encodeChar character).ascii_or_foreign
  · rw [bytes, UInt8.toNat_inj.mp (own.trans code)]
  · omega

/-- The byte of a character in ASCII stands for that character only. -/
theorem mem_utf8Bytes_iff {text : String} : byte ∈ utf8Bytes text ↔ character ∈ text.toList := by
  rw [utf8Bytes_eq_flatMap, List.mem_flatMap]
  constructor
  · rintro ⟨other, member, inside⟩
    obtain ⟨only, bytes, own⟩ | ⟨_, foreign⟩ := (utf8Form_encodeChar other).ascii_or_foreign
    · rw [bytes, List.mem_singleton] at inside
      subst inside
      rwa [Char.toNat_inj.mp (code.trans own)]
    · have large := foreign byte inside
      omega
  · intro member
    exact ⟨character, member, by rw [encodeChar_of_ascii ascii code]; simp⟩

end

end RoutineAtlas
