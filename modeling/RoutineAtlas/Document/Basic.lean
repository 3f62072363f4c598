/-
This file holds structured answers as documents, and writes them as JSON text.
-/

namespace RoutineAtlas

/-- A document is a value, a list of documents, or a record of named documents. -/
inductive Document where
  | null
  | bool (value : Bool)
  | number (value : Int)
  | text (value : String)
  | list (items : List Document)
  | record (fields : List (String × Document))
  deriving Inhabited

/-- This is a list of texts as a document. -/
def Document.texts (texts : List String) : Document :=
  .list (texts.map Document.text)

/-- This is a natural number as a document. -/
def Document.count (number : Nat) : Document :=
  .number number

/-- A field that has no value is left out of its record. -/
def optionalField (name : String) (value : Option Document) : List (String × Document) :=
  match value with
  | some document => [(name, document)]
  | none => []

/-- A hexadecimal digit is written in lower case. -/
def hexadecimalDigit (value : Nat) : Char :=
  if value < 10 then Char.ofNat (48 + value) else Char.ofNat (87 + value)

/-- Control characters are escaped, some of them by a letter. -/
def escapeCharacter (character : Char) : List Char :=
  match character with
  | '"' => ['\\', '"']
  | '\\' => ['\\', '\\']
  | '\n' => ['\\', 'n']
  | '\r' => ['\\', 'r']
  | '\t' => ['\\', 't']
  | _ =>
      let code := character.toNat
      if code = 0x08 then ['\\', 'b']
      else if code = 0x0C then ['\\', 'f']
      else if code < 0x20 then
        ['\\', 'u', '0', '0', hexadecimalDigit (code / 16), hexadecimalDigit (code % 16)]
      else [character]

/-- A text is written between quotes. -/
def quotedText (text : String) : String :=
  String.ofList ('"' :: text.toList.flatMap escapeCharacter ++ ['"'])

/-- The layout puts each item on a line of its own, or puts everything on one line. -/
structure DocumentLayout where
  isWide : Bool
  depth : Nat
  deriving DecidableEq, Repr

/-- The items of a list or a record lie one level deeper. -/
def DocumentLayout.deeper (layout : DocumentLayout) : DocumentLayout :=
  { layout with depth := layout.depth + 1 }

/-- This stands before an item on its level. -/
def DocumentLayout.lineStart (layout : DocumentLayout) : String :=
  if layout.isWide then "\n" ++ String.ofList (List.replicate (2 * layout.depth) ' ') else ""

/-- This stands between a name and its value. -/
def DocumentLayout.colon (layout : DocumentLayout) : String :=
  if layout.isWide then ": " else ":"

/-- Written items are enclosed, and nothing stands between the brackets of an empty list. -/
def DocumentLayout.enclose (layout : DocumentLayout) (opening closing : String)
    (items : List String) : String :=
  if items.isEmpty then opening ++ closing
  else
    opening ++
      String.intercalate "," (items.map fun item => layout.deeper.lineStart ++ item) ++
      layout.lineStart ++ closing

mutual

/-- A document is written in a layout. -/
def Document.write (layout : DocumentLayout) : Document → String
  | .null => "null"
  | .bool value => if value then "true" else "false"
  | .number value => toString value
  | .text value => quotedText value
  | .list items => layout.enclose "[" "]" (writeItems layout.deeper items)
  | .record fields => layout.enclose "\x7b" "\x7d" (writeFields layout.deeper fields)

/-- The items of a list are written one by one. -/
def writeItems (layout : DocumentLayout) : List Document → List String
  | [] => []
  | item :: rest => item.write layout :: writeItems layout rest

/-- A field is its quoted name and its value. -/
def writeFields (layout : DocumentLayout) : List (String × Document) → List String
  | [] => []
  | (name, value) :: rest =>
      (quotedText name ++ layout.colon ++ value.write layout) :: writeFields layout rest

end

/-- The wide layout is for reading. -/
def Document.wide (document : Document) : String :=
  document.write { isWide := true, depth := 0 }

/-- The narrow layout is for sending. -/
def Document.narrow (document : Document) : String :=
  document.write { isWide := false, depth := 0 }

end RoutineAtlas
