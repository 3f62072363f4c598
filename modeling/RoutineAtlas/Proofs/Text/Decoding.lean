import RoutineAtlas.Proofs.Text.WellFormed

/-
This file settles how the content of a source is read. No byte is lost, whichever of the two
encodings the content is in, and the ASCII characters of the text are the ASCII bytes.
-/

namespace RoutineAtlas

/-- The byte of a character is its place among the special ones or its own code. -/
def westernByte (character : Char) : UInt8 :=
  let code := character.toNat
  if code ∈ westernSpecials then .ofNat (0x80 + westernSpecials.idxOf code) else .ofNat code

/-- A byte is one of the special ones or has the code of its character. -/
theorem westernCharacter_cases (byte : UInt8) :
    (∃ place < westernSpecials.length, byte = .ofNat (0x80 + place)) ∨
      (westernCharacter byte).toNat = byte.toNat ∧ byte.toNat ∉ westernSpecials := by
  by_cases special : 0x80 ≤ byte.toNat ∧ byte.toNat < 0xA0
  · left
    refine ⟨byte.toNat - 0x80, ?_, ?_⟩
    · have length : westernSpecials.length = 0x20 := by decide
      omega
    · rw [Nat.add_sub_cancel' special.1, UInt8.ofNat_toNat]
  · right
    have bound := byte.toNat_lt
    have valid : byte.toNat.isValidChar := Or.inl (by omega)
    have ranges : ∀ code ∈ westernSpecials, 0x80 ≤ code ∧ (code < 0xA0 ∨ 0x100 ≤ code) := by
      decide
    refine ⟨?_, ?_⟩
    · rw [westernCharacter, if_neg special, Char.ofNat, dif_pos valid]
      rfl
    · intro member
      have range := ranges _ member
      omega

/-- A byte comes back from its character. -/
theorem westernByte_westernCharacter (byte : UInt8) :
    westernByte (westernCharacter byte) = byte := by
  obtain ⟨place, inside, rfl⟩ | ⟨own, ordinary⟩ := westernCharacter_cases byte
  · have specials : ∀ place < westernSpecials.length,
        westernByte (westernCharacter (.ofNat (0x80 + place))) = .ofNat (0x80 + place) := by
      decide
    exact specials place inside
  · rw [westernByte, own, if_neg ordinary, UInt8.ofNat_toNat]

theorem westernCharacter_injective : Function.Injective westernCharacter :=
  Function.LeftInverse.injective westernByte_westernCharacter

/-- These are the codes that belong to ASCII. -/
def asciiCodes (codes : List Nat) : List Nat :=
  codes.filter (· < 0x80)

theorem asciiCodes_append (first second : List Nat) :
    asciiCodes (first ++ second) = asciiCodes first ++ asciiCodes second :=
  List.filter_append ..

/-- A special character is not in ASCII and neither is its byte. -/
theorem asciiCodes_westernCharacter (byte : UInt8) :
    asciiCodes [(westernCharacter byte).toNat] = asciiCodes [byte.toNat] := by
  obtain ⟨place, inside, rfl⟩ | ⟨own, _⟩ := westernCharacter_cases byte
  · have specials : ∀ place < westernSpecials.length,
        asciiCodes [(westernCharacter (.ofNat (0x80 + place))).toNat] =
          asciiCodes [(UInt8.ofNat (0x80 + place)).toNat] := by
      decide
    exact specials place inside
  · rw [own]

/-- Of the bytes of a form only the one byte of an ASCII character is in ASCII. -/
theorem Utf8Form.asciiCodes_eq {code : Nat} {bytes : Bytes} (form : Utf8Form code bytes) :
    asciiCodes (bytes.map UInt8.toNat) = asciiCodes [code] := by
  obtain ⟨byte, rfl, rfl⟩ | ⟨foreign, inside⟩ := form.ascii_or_foreign
  · rfl
  · have noCode : asciiCodes [code] = [] := by simp [asciiCodes, foreign]
    rw [noCode, asciiCodes, List.filter_eq_nil_iff]
    intro number member
    obtain ⟨byte, inForm, rfl⟩ := List.mem_map.mp member
    simpa using inside byte inForm

/-- The ASCII characters of a text are the ASCII bytes of its form. -/
theorem asciiCodes_utf8Bytes (text : String) :
    asciiCodes ((utf8Bytes text).map UInt8.toNat) = asciiCodes (text.toList.map Char.toNat) := by
  rw [utf8Bytes_eq_flatMap]
  induction text.toList with
  | nil => rfl
  | cons character rest inductionHypothesis =>
      rw [List.flatMap_cons, List.map_append, asciiCodes_append, inductionHypothesis,
        (utf8Form_encodeChar character).asciiCodes_eq, ← asciiCodes_append]
      rfl

/-- A well-formed content is the UTF-8 form of its text. -/
theorem utf8Bytes_decodeSource {content : Bytes} (formed : IsWellFormed content) :
    utf8Bytes (decodeSource content) = content := by
  obtain ⟨text, rfl⟩ := isWellFormed_iff.mp formed
  rw [decodeSource_utf8Bytes]

/-- Any other content is read byte by byte. -/
theorem toList_decodeSource {content : Bytes} (formless : ¬ IsWellFormed content) :
    (decodeSource content).toList = content.map westernCharacter := by
  rw [decodeSource, readUtf8_eq_none_iff.mpr formless, String.toList_ofList]

/-- The ASCII characters of a text are the ASCII bytes of the content it is read from. -/
theorem asciiCodes_decodeSource (content : Bytes) :
    asciiCodes ((decodeSource content).toList.map Char.toNat) =
      asciiCodes (content.map UInt8.toNat) := by
  by_cases formed : IsWellFormed content
  · rw [← asciiCodes_utf8Bytes, utf8Bytes_decodeSource formed]
  · rw [toList_decodeSource formed]
    clear formed
    induction content with
    | nil => rfl
    | cons byte rest inductionHypothesis =>
        have split (code : Nat) (codes : List Nat) :
            asciiCodes (code :: codes) = asciiCodes [code] ++ asciiCodes codes :=
          asciiCodes_append [code] codes
        rw [List.map_cons, List.map_cons, List.map_cons, split, split byte.toNat,
          asciiCodes_westernCharacter, inductionHypothesis]

/-- A content in UTF-8 is read as its text, and any other as one character for each byte. -/
theorem decodeSource_keeps_bytes (content : Bytes) :
    (IsWellFormed content → utf8Bytes (decodeSource content) = content) ∧
    (∀ text, IsWellFormed (utf8Bytes text) ∧ decodeSource (utf8Bytes text) = text) ∧
    (¬ IsWellFormed content → (decodeSource content).length = content.length ∧
      ∀ other, ¬ IsWellFormed other → decodeSource other = decodeSource content →
        other = content) ∧
    asciiCodes ((decodeSource content).toList.map Char.toNat) =
      asciiCodes (content.map UInt8.toNat) := by
  refine ⟨utf8Bytes_decodeSource, ?_, ?_, asciiCodes_decodeSource content⟩
  · intro text
    exact ⟨isWellFormed_iff.mpr ⟨text, rfl⟩, decodeSource_utf8Bytes text⟩
  · intro formless
    have characters := toList_decodeSource formless
    refine ⟨?_, ?_⟩
    · rw [← String.length_toList, characters, List.length_map]
    · intro other formlessToo same
      have texts := congrArg String.toList same
      rw [characters, toList_decodeSource formlessToo] at texts
      exact List.map_injective_iff.mpr westernCharacter_injective texts

end RoutineAtlas
