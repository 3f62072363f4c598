import RoutineAtlas.Host.Script.CharacterSet

/-
This file decides which texts fit a pattern, in which some characters stand for others.
-/

namespace RoutineAtlas

/-- A pattern is made of characters, of which some may stand for others. -/
inductive PatternPiece where
  | exactly (character : Char)
  | oneCharacter
  | anyText
  | oneOf (isNegated : Bool) (ranges : List (Char × Char))
  deriving DecidableEq, Repr

/-- A character of a word is quoted or not, and only the others can have a meaning. -/
abbrev MarkedText := List (Char × Bool)

/-- The characters of a marked text. -/
def unmarkedText (text : MarkedText) : ScriptText :=
  text.map Prod.fst

/-- Between brackets stand characters, ranges of them and named sets. The first bracket that closes
is not the first character. -/
def readBrackets : (fuel : Nat) → (isFirst : Bool) → MarkedText →
    Option (List (Char × Char) × MarkedText)
  | 0, _, _ => none
  | _ + 1, _, [] => none
  | fuel + 1, isFirst, (character, isQuoted) :: rest =>
      let text := (character, isQuoted) :: rest
      if character = ']' && !isQuoted && !isFirst then some ([], rest)
      else
        let (ranges, after) := match readNamedSet? (unmarkedText text), rest with
          | some (ranges, others), _ => (ranges, text.drop (text.length - others.length))
          | none, ('-', false) :: (last, isLastQuoted) :: others =>
              if last = ']' && !isLastQuoted then ([(character, character)], rest)
              else ([(character, last)], others)
          | none, _ => ([(character, character)], rest)
        (readBrackets fuel false after).map fun (others, left) => (ranges ++ others, left)

/-- Outside quotations a star stands for any text, a question mark for one character, and brackets
for one of their characters. -/
def readPattern : (fuel : Nat) → MarkedText → List PatternPiece
  | 0, _ => []
  | _ + 1, [] => []
  | fuel + 1, ('*', false) :: rest => .anyText :: readPattern fuel rest
  | fuel + 1, ('?', false) :: rest => .oneCharacter :: readPattern fuel rest
  | fuel + 1, ('[', false) :: rest =>
      let isNegated := rest.head? = some ('!', false)
      let inside := if isNegated then rest.drop 1 else rest
      match readBrackets (inside.length + 1) true inside with
      | some (ranges, after) => .oneOf isNegated ranges :: readPattern fuel after
      | none => .exactly '[' :: readPattern fuel rest
  | fuel + 1, (character, _) :: rest => .exactly character :: readPattern fuel rest

/-- The pattern of a marked text. -/
def patternOf (text : MarkedText) : List PatternPiece :=
  readPattern (text.length + 1) text

/-- A piece that stands for one character fits it. -/
def PatternPiece.fits (piece : PatternPiece) (character : Char) : Bool :=
  match piece with
  | .exactly wanted => wanted == character
  | .oneCharacter => true
  | .anyText => false
  | .oneOf isNegated ranges =>
      isNegated != inRanges ranges character

/-- A pattern fits a whole text. -/
def fitsPattern : List PatternPiece → ScriptText → Bool
  | [], text => text.isEmpty
  | .anyText :: pieces, [] => fitsPattern pieces []
  | .anyText :: pieces, character :: rest =>
      fitsPattern pieces (character :: rest) || fitsPattern (.anyText :: pieces) rest
  | piece :: pieces, character :: rest => piece.fits character && fitsPattern pieces rest
  | _ :: _, [] => false
  termination_by pieces text => (text.length, pieces.length)

/-- A piece has a meaning beyond its character. -/
def PatternPiece.isSpecial : PatternPiece → Bool
  | .exactly _ => false
  | _ => true

/-- The start of a text that fits is taken away, the shortest or the longest. -/
def withoutStart (pattern : List PatternPiece) (isLongest : Bool) (text : ScriptText) :
    ScriptText :=
  let lengths := List.range (text.length + 1)
  let ordered := if isLongest then lengths.reverse else lengths
  match ordered.find? fun length => fitsPattern pattern (text.take length) with
  | some length => text.drop length
  | none => text

/-- The end of a text that fits is taken away, the shortest or the longest. -/
def withoutEnd (pattern : List PatternPiece) (isLongest : Bool) (text : ScriptText) :
    ScriptText :=
  let lengths := List.range (text.length + 1)
  let ordered := if isLongest then lengths else lengths.reverse
  match ordered.find? fun length => fitsPattern pattern (text.drop length) with
  | some length => text.take length
  | none => text

end RoutineAtlas
