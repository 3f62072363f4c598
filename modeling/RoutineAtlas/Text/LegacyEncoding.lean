/-
This file reads the bytes of a source file as text. Sources are UTF-8 or, when they are not well
formed, a single-byte Western encoding in which every byte has a meaning.
-/

namespace RoutineAtlas

/-- The raw content of a file. -/
abbrev Bytes := List UInt8

/-- These are the characters of the bytes from 0x80 to 0x9F. -/
def westernSpecials : List Nat := [
  0x20AC, 0x81, 0x201A, 0x192, 0x201E, 0x2026, 0x2020, 0x2021, 0x2C6, 0x2030, 0x160, 0x2039,
  0x152, 0x8D, 0x17D, 0x8F, 0x90, 0x2018, 0x2019, 0x201C, 0x201D, 0x2022, 0x2013, 0x2014,
  0x2DC, 0x2122, 0x161, 0x203A, 0x153, 0x9D, 0x17E, 0x178]

/-- Outside the special bytes, a byte stands for the code point of its own number. -/
def westernCharacter (byte : UInt8) : Char :=
  let code := byte.toNat
  if 0x80 ≤ code ∧ code < 0xA0 then Char.ofNat (westernSpecials.getD (code - 0x80) code)
  else Char.ofNat code

/-- These bytes are the text's UTF-8 form. -/
def utf8Bytes (text : String) : Bytes :=
  text.toByteArray.data.toList

/-- Bytes that are well-formed UTF-8 are the form of exactly one text. -/
def readUtf8 (content : Bytes) : Option String :=
  String.fromUTF8? ⟨content.toArray⟩

/-- Every content has a text, for the single-byte encoding steps in where UTF-8 fails. -/
def decodeSource (content : Bytes) : String :=
  match readUtf8 content with
  | some text => text
  | none => String.ofList (content.map westernCharacter)

/-- A text comes back from its own bytes. -/
@[simp] theorem readUtf8_utf8Bytes (text : String) : readUtf8 (utf8Bytes text) = some text := by
  simp [readUtf8, utf8Bytes, String.fromUTF8?, text.isValidUTF8, String.fromUTF8]

/-- A content is read as the text whose form it is. -/
theorem readUtf8_eq_some_iff {content : Bytes} {text : String} :
    readUtf8 content = some text ↔ utf8Bytes text = content := by
  constructor
  · intro read
    rw [readUtf8, String.fromUTF8?] at read
    split at read
    · obtain rfl := Option.some.inj read
      simp [utf8Bytes, String.fromUTF8]
    · exact absurd read (by simp)
  · rintro rfl
    exact readUtf8_utf8Bytes text

/-- A content that may be missing is read as a text exactly when it is that text's form. -/
theorem bind_readUtf8_eq_some_iff {content : Option Bytes} {text : String} :
    content.bind readUtf8 = some text ↔ content = some (utf8Bytes text) := by
  simp only [Option.bind_eq_some_iff, readUtf8_eq_some_iff, exists_eq_right']

/-- Different texts have different forms. -/
theorem utf8Bytes_injective {first second : String} (same : utf8Bytes first = utf8Bytes second) :
    first = second := by
  rw [← readUtf8_eq_some_iff, readUtf8_utf8Bytes] at same
  exact (Option.some.inj same).symm

@[simp] theorem decodeSource_utf8Bytes (text : String) :
    decodeSource (utf8Bytes text) = text := by
  simp [decodeSource]

end RoutineAtlas
