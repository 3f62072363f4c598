import RoutineAtlas.Text.NameSet
import RoutineAtlas.Text.Recognizer
import RoutineAtlas.Text.UpperCase

/-
This file lists the tables that a source touches.
-/

namespace RoutineAtlas

/-- A capital letter or a digit of ASCII. -/
def isAliasCharacter (character : Char) : Bool :=
  character.isUpper || character.isDigit

/-- An alias of three characters before an arrow names a table. -/
def aliasBeforeArrow : List Char → Option String
  | first :: second :: third :: rest =>
      if first.isUpper && isAliasCharacter second && isAliasCharacter third &&
          (afterSpaced "->" rest).isSome then
        some (String.ofList [first, second, third])
      else none
  | _ => none

/-- A call that selects a work area names a table between quotes. -/
def selectedArea (text : List Char) : Option String := do
  let call ← afterLiteral "DBSELECTAREA" text
  let argument ← afterSpaced "(" call
  let quoted ← afterQuote (skipBlanks argument)
  let name := quoted.takeWhile fun character => isAliasCharacter character || character == '_'
  let _ ← afterQuote (quoted.drop name.length)
  if name.isEmpty then none else some (String.ofList name)

/-- These are the aliases that begin where no word goes on. -/
def aliasesBeforeArrows : (afterWord : Bool) → List Char → List String
  | _, [] => []
  | afterWord, character :: rest =>
      match (if afterWord then none else aliasBeforeArrow (character :: rest)) with
      | some name => name :: aliasesBeforeArrows (isWord character) rest
      | none => aliasesBeforeArrows (isWord character) rest

/-- These are the tables that the text selects as work areas. -/
def selectedAreas : List Char → List String
  | [] => []
  | character :: rest =>
      match selectedArea (character :: rest) with
      | some name => name :: selectedAreas rest
      | none => selectedAreas rest

/-- The tables of a source are ascending, and the object itself is none of them. -/
def tablesOf (content : String) : List String :=
  let upper := upperCaseCharacters content.toList
  nameSet ((aliasesBeforeArrows false upper ++ selectedAreas upper).filter (· != "SELF"))

end RoutineAtlas
