/-
This file moves through the text of a YAML document and keeps count of lines, columns and bytes.
-/

namespace RoutineAtlas

/-- A cursor stands before the rest of the text, and its offset counts the bytes behind it. -/
structure Cursor where
  rest : List Char
  line : Nat
  column : Nat
  offset : Nat
  deriving DecidableEq, Repr

/-- A line ends at any of these characters. -/
def isYamlBreak (character : Char) : Bool :=
  [0x0D, 0x0A, 0x85, 0x2028, 0x2029].contains character.toNat

/-- A space or a tab. -/
def isYamlBlank (character : Char) : Bool :=
  character == ' ' || character == '\t'

/-- A character of anchors, directives and tag handles. -/
def isYamlWord (character : Char) : Bool :=
  character.isAlphanum || character == '_' || character == '-'

/-- A document is made of these characters alone. -/
def isYamlCharacter (character : Char) : Bool :=
  let code := character.toNat
  code == 0x09 || code == 0x0A || code == 0x0D || (0x20 ≤ code && code ≤ 0x7E) || code == 0x85 ||
    (0xA0 ≤ code && code != 0xFFFE && code != 0xFFFF)

/-- A byte order mark may begin a line between two tokens. -/
def isByteOrderMark (character : Char) : Bool :=
  character.toNat == 0xFEFF

/-- Some characters take this many bytes in UTF-8. -/
def byteLength : List Char → Nat
  | [] => 0
  | character :: rest => character.utf8Size + byteLength rest

/-- The cursor at the start of a text. -/
def Cursor.start (text : List Char) : Cursor where
  rest := text
  line := 0
  column := 0
  offset := 0

/-- This is the character after the cursor, some places ahead. -/
def Cursor.ahead (cursor : Cursor) (places : Nat) : Option Char :=
  cursor.rest[places]?

/-- This is the next character. -/
def Cursor.next (cursor : Cursor) : Option Char :=
  cursor.ahead 0

/-- The next character is the given one. -/
def Cursor.sees (cursor : Cursor) (character : Char) : Bool :=
  cursor.next == some character

/-- Nothing is left. -/
def Cursor.atEnd (cursor : Cursor) : Bool :=
  cursor.rest.isEmpty

/-- Some places ahead a line ends, or nothing is left. -/
def Cursor.breakAt (cursor : Cursor) (places : Nat) : Bool :=
  (cursor.ahead places).all isYamlBreak

/-- Some places ahead there is a space, a tab, the end of a line, or nothing. -/
def Cursor.blankAt (cursor : Cursor) (places : Nat) : Bool :=
  (cursor.ahead places).all fun character => isYamlBlank character || isYamlBreak character

/-- The cursor passes some characters of its line. -/
def Cursor.skip (cursor : Cursor) (places : Nat) : Cursor where
  rest := cursor.rest.drop places
  line := cursor.line
  column := cursor.column + places
  offset := cursor.offset + byteLength (cursor.rest.take places)

/-- The cursor passes the characters of its line that fit. -/
def Cursor.skipWhile (cursor : Cursor) (fits : Char → Bool) : Cursor :=
  cursor.skip (cursor.rest.takeWhile fits).length

/-- These are the characters ahead that fit. -/
def Cursor.run (cursor : Cursor) (fits : Char → Bool) : List Char :=
  cursor.rest.takeWhile fits

/-- The cursor passes to the next line, if its own ends here. -/
def Cursor.skipLine (cursor : Cursor) : Cursor :=
  match cursor.rest with
  | '\r' :: '\n' :: rest =>
      { rest, line := cursor.line + 1, column := 0, offset := cursor.offset + 2 }
  | character :: rest =>
      if isYamlBreak character then
        { rest, line := cursor.line + 1, column := 0,
          offset := cursor.offset + character.utf8Size }
      else cursor
  | [] => cursor

/-- This is how the end of the line reads in a scalar. -/
def Cursor.lineBreak (cursor : Cursor) : List Char :=
  match cursor.next with
  | some character =>
      if character.toNat = 0x2028 ∨ character.toNat = 0x2029 then [character]
      else if isYamlBreak character then ['\n'] else []
  | none => []

/-- Three marks of this kind begin a line and stand alone. -/
def Cursor.atMarker (cursor : Cursor) (mark : Char) : Bool :=
  cursor.column == 0 && (cursor.rest.take 3 == [mark, mark, mark]) && cursor.blankAt 3

/-- A document begins or ends here. -/
def Cursor.atDocumentMarker (cursor : Cursor) : Bool :=
  cursor.atMarker '-' || cursor.atMarker '.'

end RoutineAtlas
