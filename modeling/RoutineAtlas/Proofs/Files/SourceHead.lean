import RoutineAtlas.Files.SourceHead
import RoutineAtlas.Proofs.Text.Decoding
import RoutineAtlas.Proofs.Text.Lines

/-
This file settles what the head of a content is. It has the first lines of the content, and for a
content in UTF-8 they are the first lines of the whole text.
-/

namespace RoutineAtlas

/-- A line of a content ends at a line feed, and a carriage return before it is dropped. -/
def byteLines (content : Bytes) : List Bytes :=
  (cutLines 10 content).map fun line => dropReturn 13 line

theorem length_byteLines (content : Bytes) : (byteLines content).length = lineCount 10 content := by
  rw [byteLines, List.length_map, length_cutLines]

/-- The head has the first lines, each decoded by itself and with a line feed behind it. -/
theorem toList_sourceHead (limit : Nat) (content : Bytes) :
    (sourceHead limit content).toList =
      (((byteLines content).take limit).map fun line => (decodeSource line).toList).flatMap
        fun line => line ++ ['\n'] := by
  rw [sourceHead, String.toList_ofList, byteLines, ← List.map_take, List.map_map, List.flatMap_map]
  rfl

/-- A text has a line feed only where its content has one. -/
theorem newline_notMem_decodeSource {content : Bytes} (noMark : 10 ∉ content) :
    '\n' ∉ (decodeSource content).toList := by
  intro member
  have written : '\n'.toNat ∈ asciiCodes ((decodeSource content).toList.map Char.toNat) :=
    List.mem_filter.mpr ⟨List.mem_map_of_mem member, by decide⟩
  rw [asciiCodes_decodeSource] at written
  obtain ⟨byte, inside, code⟩ := List.mem_map.mp (List.mem_filter.mp written).1
  obtain rfl : byte = 10 := UInt8.toNat_inj.mp code
  exact noMark inside

/-- The lines of the head are the first lines of the content, each decoded by itself. -/
theorem cutLines_sourceHead (limit : Nat) (content : Bytes) :
    cutLines '\n' (sourceHead limit content).toList =
      ((byteLines content).take limit).map fun line => (decodeSource line).toList := by
  rw [toList_sourceHead]
  apply cutLines_flatMap
  intro decoded member
  obtain ⟨line, inside, rfl⟩ := List.mem_map.mp member
  obtain ⟨whole, cut, rfl⟩ := List.mem_map.mp (List.mem_of_mem_take inside)
  apply newline_notMem_decodeSource
  exact fun mark => notMem_of_mem_cutLines cut ((dropReturn_isPrefix 13 whole).mem mark)

theorem lineCount_sourceHead (limit : Nat) (content : Bytes) :
    lineCount '\n' (sourceHead limit content).toList = min limit (lineCount 10 content) := by
  rw [← length_cutLines, cutLines_sourceHead, List.length_map, List.length_take, length_byteLines]

/-- Contents with the same first lines have the same head. -/
theorem sourceHead_congr {limit : Nat} {content other : Bytes}
    (same : (byteLines content).take limit = (byteLines other).take limit) :
    sourceHead limit content = sourceHead limit other := by
  rw [← String.toList_inj, toList_sourceHead, toList_sourceHead, same]

/-- The first lines depend on nothing that stands behind their line feeds. -/
theorem take_byteLines_append {limit : Nat} {front : Bytes} (ended : limit ≤ front.count 10)
    (rest : Bytes) : (byteLines (front ++ rest)).take limit = (byteLines front).take limit := by
  rw [byteLines, byteLines, ← List.map_take, ← List.map_take, take_cutLines_append ended]

/-- A head is a prefix of every longer head. -/
theorem sourceHead_isPrefix {limit more : Nat} (fewer : limit ≤ more) (content : Bytes) :
    (sourceHead limit content).toList <+: (sourceHead more content).toList := by
  obtain ⟨others, split⟩ : (byteLines content).take limit <+: (byteLines content).take more :=
    List.take_prefix_take_left fewer
  rw [toList_sourceHead, toList_sourceHead, ← split, List.map_append, List.flatMap_append]
  exact List.prefix_append _ _

/-- An ASCII byte in the form of a character is the character itself. -/
theorem toNat_of_mem_encodeChar {character : Char} {byte : UInt8} (ascii : byte.toNat < 0x80)
    (member : byte ∈ String.utf8EncodeChar character) : character.toNat = byte.toNat := by
  obtain ⟨only, form, code⟩ | ⟨_, foreign⟩ := (utf8Form_encodeChar character).ascii_or_foreign
  · rw [form, List.mem_singleton] at member
    rw [member, code]
  · exact absurd (foreign byte member) (Nat.not_le.mpr ascii)

/-- The lines of a text in UTF-8 are the lines of the text. -/
theorem cutLines_encoded (text : List Char) :
    cutLines 10 (text.flatMap String.utf8EncodeChar) =
      (cutLines '\n' text).map (List.flatMap String.utf8EncodeChar) := by
  induction text with
  | nil => rfl
  | cons character rest inductionHypothesis =>
      rw [List.flatMap_cons]
      by_cases same : character = '\n'
      · have feed : String.utf8EncodeChar '\n' = [10] := by decide
        rw [same, feed, List.singleton_append, cutLines_mark, cutLines_mark, inductionHypothesis]
        rfl
      · have noMark : 10 ∉ String.utf8EncodeChar character := by
          intro member
          exact same (Char.toNat_inj.mp (toNat_of_mem_encodeChar (by decide) member))
        rw [cutLines_append_of_notMem String.utf8EncodeChar_ne_nil noMark, inductionHypothesis,
          cutLines_of_ne same, map_flatMap_intoFirstLine, List.flatMap_singleton]

/-- A carriage return at the end of a line is one byte in UTF-8. -/
theorem dropReturn_encoded (line : List Char) :
    dropReturn 13 (line.flatMap String.utf8EncodeChar) =
      (dropReturn '\r' line).flatMap String.utf8EncodeChar := by
  obtain rfl | ⟨front, last, rfl⟩ := List.eq_nil_or_concat line
  · rfl
  · rw [List.concat_eq_append, dropReturn, dropReturn, List.flatMap_append, List.flatMap_singleton,
      List.getLast?_append_of_ne_nil _ String.utf8EncodeChar_ne_nil, List.getLast?_concat]
    by_cases same : last = '\r'
    · have feed : String.utf8EncodeChar '\r' = [13] := by decide
      rw [same, feed, List.getLast?_singleton, if_pos rfl, if_pos rfl, List.dropLast_concat,
        List.dropLast_concat]
    · have other : (String.utf8EncodeChar last).getLast? ≠ some 13 := by
        intro ends
        exact same (Char.toNat_inj.mp
          (toNat_of_mem_encodeChar (by decide) (List.mem_of_getLast? ends)))
      rw [if_neg other, if_neg (by simpa using same), List.flatMap_append, List.flatMap_singleton]

/-- The lines of a text in UTF-8 are decoded to the lines of the text. -/
theorem decode_byteLines_utf8Bytes (text : String) :
    (byteLines (utf8Bytes text)).map (fun line => (decodeSource line).toList) =
      textLines text.toList := by
  rw [byteLines, utf8Bytes_eq_flatMap, cutLines_encoded, List.map_map, List.map_map, textLines]
  apply List.map_congr_left
  intro line _
  have form : (dropReturn '\r' line).flatMap String.utf8EncodeChar =
      utf8Bytes (String.ofList (dropReturn '\r' line)) := by
    rw [utf8Bytes_eq_flatMap, String.toList_ofList]
  rw [Function.comp_apply, Function.comp_apply, dropReturn_encoded, form, decodeSource_utf8Bytes,
    String.toList_ofList]

/-- The head of a well-formed content has the first lines of its text. -/
theorem toList_sourceHead_of_isWellFormed {content : Bytes} (formed : IsWellFormed content)
    (limit : Nat) :
    (sourceHead limit content).toList =
      ((textLines (decodeSource content).toList).take limit).flatMap
        fun line => line ++ ['\n'] := by
  obtain ⟨text, rfl⟩ := isWellFormed_iff.mp formed
  rw [toList_sourceHead, List.map_take, decode_byteLines_utf8Bytes, decodeSource_utf8Bytes]

end RoutineAtlas
