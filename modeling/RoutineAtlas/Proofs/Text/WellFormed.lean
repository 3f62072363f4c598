import RoutineAtlas.Proofs.Text.CharacterBytes

/-
This file settles which bytes are the UTF-8 form of a text. The sequences of single characters are
told by the ranges of their bytes, and a content is well formed when it is made up of them.
-/

namespace RoutineAtlas

/-- Such a byte goes on with a character. -/
def IsContinuation (byte : UInt8) : Prop :=
  0x80 ≤ byte ∧ byte ≤ 0xBF

/-- These are the bytes of one character. The second byte is bounded where a shorter sequence would
do, where the character would be a surrogate and behind the last character. -/
inductive IsCharacterBytes : Bytes → Prop
  | one (only : UInt8) (ascii : only ≤ 0x7F) : IsCharacterBytes [only]
  | two (first second : UInt8) (lead : 0xC2 ≤ first ∧ first ≤ 0xDF)
      (goesOn : IsContinuation second) : IsCharacterBytes [first, second]
  | three (first second third : UInt8) (lead : 0xE0 ≤ first ∧ first ≤ 0xEF)
      (goesOn : IsContinuation second) (ends : IsContinuation third)
      (long : first = 0xE0 → 0xA0 ≤ second) (noSurrogate : first = 0xED → second ≤ 0x9F) :
      IsCharacterBytes [first, second, third]
  | four (first second third fourth : UInt8) (lead : 0xF0 ≤ first ∧ first ≤ 0xF4)
      (goesOn : IsContinuation second) (further : IsContinuation third)
      (ends : IsContinuation fourth) (long : first = 0xF0 → 0x90 ≤ second)
      (within : first = 0xF4 → second ≤ 0x8F) : IsCharacterBytes [first, second, third, fourth]

/-- A content is well formed when it is made up of the bytes of characters. -/
inductive IsWellFormed : Bytes → Prop
  | nil : IsWellFormed []
  | append {bytes rest : Bytes} (character : IsCharacterBytes bytes) (others : IsWellFormed rest) :
      IsWellFormed (bytes ++ rest)

/-- The form of a character has the bytes of a character. -/
theorem Utf8Form.isCharacterBytes {code : Nat} {bytes : Bytes} (form : Utf8Form code bytes)
    (valid : code.isValidChar) : IsCharacterBytes bytes := by
  rw [Nat.isValidChar] at valid
  cases form with
  | one code small =>
      refine .one _ ?_
      simp only [UInt8.le_iff_toNat_le, UInt8.toNat_ofNat', UInt8.reduceToNat]
      omega
  | two high low long fits digit =>
      refine .two _ _ ?_ ?_ <;>
        simp only [IsContinuation, UInt8.le_iff_toNat_le, UInt8.toNat_ofNat', UInt8.reduceToNat] <;>
        omega
  | three high middle low long fits digit last =>
      refine .three _ _ _ ?_ ?_ ?_ ?_ ?_ <;>
        simp only [IsContinuation, UInt8.le_iff_toNat_le, ← UInt8.toNat_inj, UInt8.toNat_ofNat',
          UInt8.reduceToNat] <;>
        omega
  | four high upper middle low long fits first digit last =>
      refine .four _ _ _ _ ?_ ?_ ?_ ?_ ?_ ?_ <;>
        simp only [IsContinuation, UInt8.le_iff_toNat_le, ← UInt8.toNat_inj, UInt8.toNat_ofNat',
          UInt8.reduceToNat] <;>
        omega

/-- The bytes of a character are the form of a code that is valid. -/
theorem IsCharacterBytes.exists_form {bytes : Bytes} (character : IsCharacterBytes bytes) :
    ∃ code, code.isValidChar ∧ Utf8Form code bytes := by
  have back (byte : UInt8) (offset : Nat) (above : offset ≤ byte.toNat) :
      UInt8.ofNat (byte.toNat - offset + offset) = byte := by
    rw [Nat.sub_add_cancel above, UInt8.ofNat_toNat]
  cases character with
  | one only ascii =>
      rw [UInt8.le_iff_toNat_le] at ascii
      have small : only.toNat < 0x80 := Nat.lt_succ_of_le ascii
      refine ⟨only.toNat, Or.inl (by omega), ?_⟩
      simpa using Utf8Form.one only.toNat small
  | two first second lead goesOn =>
      simp only [IsContinuation, UInt8.le_iff_toNat_le, UInt8.reduceToNat] at lead goesOn
      have form := Utf8Form.two (first.toNat - 192) (second.toNat - 128) (by omega) (by omega)
        (by omega)
      rw [back first 192 (by omega), back second 128 (by omega)] at form
      exact ⟨_, Or.inl (by omega), form⟩
  | three first second third lead goesOn ends long noSurrogate =>
      simp only [IsContinuation, UInt8.le_iff_toNat_le, ← UInt8.toNat_inj, UInt8.reduceToNat]
        at lead goesOn ends long noSurrogate
      have form := Utf8Form.three (first.toNat - 224) (second.toNat - 128) (third.toNat - 128)
        (by omega) (by omega) (by omega) (by omega)
      rw [back first 224 (by omega), back second 128 (by omega), back third 128 (by omega)] at form
      refine ⟨_, ?_, form⟩
      rw [Nat.isValidChar]
      omega
  | four first second third fourth lead goesOn further ends long within =>
      simp only [IsContinuation, UInt8.le_iff_toNat_le, ← UInt8.toNat_inj, UInt8.reduceToNat]
        at lead goesOn further ends long within
      have form := Utf8Form.four (first.toNat - 240) (second.toNat - 128) (third.toNat - 128)
        (fourth.toNat - 128) (by omega) (by omega) (by omega) (by omega) (by omega)
      rw [back first 240 (by omega), back second 128 (by omega), back third 128 (by omega),
        back fourth 128 (by omega)] at form
      refine ⟨_, Or.inr ?_, form⟩
      omega

/-- A code has one form. -/
theorem Utf8Form.unique {first second : Nat} {firstBytes secondBytes : Bytes}
    (firstForm : Utf8Form first firstBytes) (secondForm : Utf8Form second secondBytes)
    (same : first = second) : firstBytes = secondBytes := by
  cases firstForm <;> cases secondForm <;>
    simp only [List.cons.injEq, ← UInt8.toNat_inj, UInt8.toNat_ofNat', and_true, reduceCtorEq,
      and_false] <;>
    omega

/-- A character in ASCII is its own byte, and the form of any other has no byte in ASCII. -/
theorem Utf8Form.ascii_or_foreign {code : Nat} {bytes : Bytes} (form : Utf8Form code bytes) :
    (∃ byte, bytes = [byte] ∧ byte.toNat = code) ∨
      0x80 ≤ code ∧ ∀ byte ∈ bytes, 0x80 ≤ byte.toNat := by
  cases form with
  | one code small =>
      left
      refine ⟨_, rfl, ?_⟩
      rw [UInt8.toNat_ofNat']
      omega
  | two | three | four =>
      right
      simp only [List.forall_mem_cons, List.not_mem_nil, IsEmpty.forall_iff, implies_true, and_true,
        UInt8.toNat_ofNat']
      omega

/-- The bytes of one character are those that the character is encoded in. -/
theorem isCharacterBytes_iff {bytes : Bytes} :
    IsCharacterBytes bytes ↔ ∃ character, String.utf8EncodeChar character = bytes := by
  constructor
  · intro character
    obtain ⟨code, valid, form⟩ := character.exists_form
    have own : (Char.ofNatAux code valid).toNat = code := rfl
    exact ⟨.ofNatAux code valid, (utf8Form_encodeChar _).unique form own⟩
  · rintro ⟨character, rfl⟩
    exact (utf8Form_encodeChar character).isCharacterBytes character.valid

/-- A content is well formed exactly when it is the UTF-8 form of a text. -/
theorem isWellFormed_iff {content : Bytes} :
    IsWellFormed content ↔ ∃ text, utf8Bytes text = content := by
  constructor
  · intro formed
    induction formed with
    | nil => exact ⟨"", rfl⟩
    | append isCharacter _ inductionHypothesis =>
        obtain ⟨character, rfl⟩ := isCharacterBytes_iff.mp isCharacter
        obtain ⟨text, rfl⟩ := inductionHypothesis
        refine ⟨String.ofList (character :: text.toList), ?_⟩
        rw [utf8Bytes_eq_flatMap, utf8Bytes_eq_flatMap, String.toList_ofList, List.flatMap_cons]
  · rintro ⟨text, rfl⟩
    rw [utf8Bytes_eq_flatMap]
    induction text.toList with
    | nil => exact .nil
    | cons character rest inductionHypothesis =>
        rw [List.flatMap_cons]
        exact .append (isCharacterBytes_iff.mpr ⟨character, rfl⟩) inductionHypothesis

theorem readUtf8_eq_none_iff {content : Bytes} :
    readUtf8 content = none ↔ ¬ IsWellFormed content := by
  rw [isWellFormed_iff, Option.eq_none_iff_forall_ne_some, not_exists]
  exact forall_congr' fun text => not_congr readUtf8_eq_some_iff

end RoutineAtlas
