import RoutineAtlas.Host.Script.Text

/-
This file holds the sets of characters that have names. A set is a list of ranges of bytes.
-/

namespace RoutineAtlas

/-- These names stand for sets of characters. -/
def namedCharacters : List (String × List (Nat × Nat)) := [
  ("upper", [(65, 90)]), ("lower", [(97, 122)]), ("alpha", [(65, 90), (97, 122)]),
  ("digit", [(48, 57)]), ("alnum", [(48, 57), (65, 90), (97, 122)]),
  ("xdigit", [(48, 57), (65, 70), (97, 102)]), ("space", [(9, 13), (32, 32)]),
  ("blank", [(9, 9), (32, 32)]), ("punct", [(33, 47), (58, 64), (91, 96), (123, 126)]),
  ("cntrl", [(0, 31), (127, 127)]), ("print", [(32, 126)]), ("graph", [(33, 126)])]

/-- The ranges of a set are given by the characters at their ends. -/
def namedRanges? (name : String) : Option (List (Char × Char)) :=
  (namedCharacters.lookup name).map fun ranges =>
    ranges.map fun (first, last) => (Char.ofNat first, Char.ofNat last)

/-- The name of a set stands in brackets with colons, and it is followed by some text. -/
def readSetName? (text : ScriptText) : Option (String × ScriptText) :=
  match text with
  | '[' :: ':' :: rest =>
      let name := rest.takeWhile Char.isAlpha
      match rest.drop name.length with
      | ':' :: ']' :: after => some (spelledText name, after)
      | _ => none
  | _ => none

/-- A set that is known is named, and some text follows. -/
def readNamedSet? (text : ScriptText) : Option (List (Char × Char) × ScriptText) :=
  (readSetName? text).bind fun (name, after) =>
    (namedRanges? name).map fun ranges => (ranges, after)

/-- A character lies in one of the ranges. -/
def inRanges (ranges : List (Char × Char)) (character : Char) : Bool :=
  ranges.any fun (first, last) => first ≤ character && character ≤ last

/-- All characters between two numbers. -/
def characterRange (first last : Nat) : List Char :=
  (List.range (last + 1 - first)).map fun offset => Char.ofNat (first + offset)

end RoutineAtlas
