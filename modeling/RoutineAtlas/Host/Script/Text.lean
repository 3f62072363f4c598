import RoutineAtlas.Files.Path
import RoutineAtlas.Text.LegacyEncoding

/-
This file handles the texts of small command scripts. Scripts, arguments and output are bytes, and
each byte is handled as the character of its number.
-/

namespace RoutineAtlas

/-- This is the form in which bytes are handled by scripts. -/
abbrev ScriptText := List Char

/-- Bytes become characters of their numbers. -/
def scriptText (bytes : Bytes) : ScriptText :=
  bytes.map fun byte => Char.ofNat byte.toNat

/-- The characters become bytes again. -/
def scriptBytes (text : ScriptText) : Bytes :=
  text.map fun character => UInt8.ofNat character.toNat

/-- A text is handled as the characters of its bytes. -/
def plainText (text : String) : ScriptText :=
  scriptText (utf8Bytes text)

/-- The characters of a text are taken for those of a string. -/
def spelledText (text : ScriptText) : String :=
  String.ofList text

/-- Texts are ordered by their first characters that differ, and a text comes before the longer ones
that begin with it. -/
def comesBefore : ScriptText → ScriptText → Bool
  | [], _ => true
  | _ :: _, [] => false
  | first :: left, second :: right =>
      first.toNat < second.toNat || (first == second && comesBefore left right)

/-- Texts are put together with one character between them. -/
def joinTexts (separator : Char) : List ScriptText → ScriptText
  | [] => []
  | [text] => text
  | text :: rest => text ++ separator :: joinTexts separator rest

/-- A line ends with a line feed, and the last one may lack it. -/
def splitTextLines (text : ScriptText) : List ScriptText :=
  let pieces := splitPieces '\n' text
  if pieces.getLast? = some [] then pieces.dropLast else pieces

/-- Every line gets a line feed. -/
def joinTextLines (lines : List ScriptText) : ScriptText :=
  lines.flatMap fun line => line ++ ['\n']

/-- This is the number that some decimal digits spell. -/
def digitsNumber (digits : ScriptText) : Nat :=
  digits.foldl (fun value digit => 10 * value + (digit.toNat - 48)) 0

/-- A text of digits is a number. -/
def readNatural? (text : ScriptText) : Option Nat :=
  if !text.isEmpty && text.all Char.isDigit then some (digitsNumber text) else none

/-- These characters may stand around a number. -/
def isNumberBlank (character : Char) : Bool :=
  [' ', '\t', '\n', '\r', Char.ofNat 11, Char.ofNat 12].contains character

/-- The blanks around a number go. -/
def trimNumber (text : ScriptText) : ScriptText :=
  ((text.dropWhile isNumberBlank).reverse.dropWhile isNumberBlank).reverse

/-- A number may have a sign. -/
def readSigned (readDigits : ScriptText → Option Nat) (text : ScriptText) : Option Int :=
  match text with
  | '-' :: digits => (readDigits digits).map fun value => -(value : Int)
  | '+' :: digits => (readDigits digits).map fun value => (value : Int)
  | digits => (readDigits digits).map fun value => (value : Int)

/-- A number may have a sign, and blanks may stand around it. -/
def readInteger? (text : ScriptText) : Option Int :=
  readSigned readNatural? (trimNumber text)

/-- A name of a variable has letters, digits and underscores. -/
def isNameCharacter (character : Char) : Bool :=
  character.isAlphanum || character == '_'

/-- A name of a variable is not empty and does not start with a digit. -/
def isVariableName (name : ScriptText) : Bool :=
  name.all isNameCharacter && name.head?.any fun first => !first.isDigit

/-- The single quotation mark. -/
def singleQuotation : Char := Char.ofNat 39

/-- The mark that encloses a script whose output is wanted. -/
def backQuotation : Char := Char.ofNat 96

end RoutineAtlas
