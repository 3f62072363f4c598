/-
This file holds what is shown to a person: lines of styled pieces, with colours or without.
-/

namespace RoutineAtlas

/-- A terminal shows text in these colours. -/
inductive Tint where
  | red
  | green
  | yellow
  | blue
  | magenta
  | cyan
  | white
  deriving DecidableEq, Repr

/-- This is the colour's number on a terminal. -/
def Tint.code : Tint → String
  | .red => "31"
  | .green => "32"
  | .yellow => "33"
  | .blue => "34"
  | .magenta => "35"
  | .cyan => "36"
  | .white => "37"

/-- A text can be bold or dim, and it can have a colour. -/
structure Style where
  isBold : Bool
  isDim : Bool
  tint : Option Tint
  deriving DecidableEq, Repr

/-- This is ordinary text. -/
def Style.plain : Style where
  isBold := false
  isDim := false
  tint := none

/-- A text has a colour only. -/
def Style.tinted (tint : Tint) : Style :=
  { Style.plain with tint := some tint }

/-- A text is bold and has a colour. -/
def Style.bold (tint : Tint) : Style :=
  { Style.tinted tint with isBold := true }

/-- A text is dim. -/
def Style.dim : Style :=
  { Style.plain with isDim := true }

/-- The name of a value is bold and white. -/
def Style.heading : Style :=
  .bold .white

/-- These are the codes of a style. -/
def Style.codes (style : Style) : List String :=
  (if style.isBold then ["1"] else []) ++ (if style.isDim then ["2"] else []) ++
    (style.tint.map Tint.code).toList

/-- This ends a style. -/
def plainAgain : String := "\x1b[0m"

/-- A styled text stands between its codes, which are repeated where the text ends a style. -/
def Style.paint (style : Style) (text : String) : String :=
  if style.codes.isEmpty then text
  else
    let start := "\x1b[" ++ String.intercalate ";" style.codes ++ "m"
    start ++ text.replace plainAgain (plainAgain ++ start) ++ plainAgain

/-- A piece is a text in one style. -/
structure Piece where
  text : String
  style : Style
  deriving DecidableEq, Repr

/-- A text is a piece of ordinary style. -/
def Piece.plain (text : String) : Piece :=
  { text, style := .plain }

/-- A text is a piece in a style. -/
def Style.piece (style : Style) (text : String) : Piece :=
  { text, style }

/-- A page is made of lines, and a line is made of pieces. -/
abbrev Page := List (List Piece)

/-- A piece is painted only when there are colours. -/
def Piece.write (isColoured : Bool) (piece : Piece) : String :=
  if isColoured then piece.style.paint piece.text else piece.text

/-- Every line of a page is ended. -/
def Page.write (isColoured : Bool) (page : Page) : String :=
  String.join (page.map fun line => String.join (line.map (Piece.write isColoured)) ++ "\n")

/-- A short text is filled up with blanks. -/
def fillUp (width : Nat) (text : String) : String :=
  text ++ String.ofList (List.replicate (width - text.length) ' ')

/-- A line names a value. -/
def namedLine (name : String) (values : List Piece) : List Piece :=
  .plain "  " :: Style.heading.piece name :: .plain ": " :: values

end RoutineAtlas
