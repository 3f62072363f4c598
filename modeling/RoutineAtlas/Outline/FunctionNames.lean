import RoutineAtlas.Text.Lines
import RoutineAtlas.Text.Recognizer

/-
This file lists the functions that a source declares for its customers and for itself.
-/

namespace RoutineAtlas

/-- The blanks within a declaration line are spaces and tabs. -/
def isLineBlank (character : Char) : Bool :=
  character == ' ' || character == '\t'

/-- The phrase is at least one space or tab, and all that follow. -/
def afterLineBlanks : Recognizer
  | [] => none
  | character :: rest => if isLineBlank character then some (rest.dropWhile isLineBlank) else none

/-- A word at the start of the text is a name. -/
def leadingWord (text : List Char) : Option String :=
  let word := text.takeWhile isWord
  if word.isEmpty then none else some (String.ofList word)

/-- A line may declare a function that everybody can call. -/
def userFunctionOf (line : List Char) : Option String := do
  let user ← afterFolded "USER" (line.dropWhile isLineBlank)
  let keyword ← afterLineBlanks user
  let function ← afterFolded "FUNCTION" keyword
  let name ← afterLineBlanks function
  leadingWord name

/-- The short and the long form of the keyword are the same. -/
def afterFunctionKeyword : Recognizer := fun text => do
  let short ← afterFolded "FUNC" text
  pure ((afterFolded "TION" short).getD short)

/-- A line may declare a function that only its own source can call. -/
def staticFunctionOf (line : List Char) : Option String := do
  let static ← afterFolded "STATIC" (line.dropWhile isLineBlank)
  let keyword ← afterLineBlanks static
  let function ← afterFunctionKeyword keyword
  let name ← afterLineBlanks function
  leadingWord name

/-- The declared names of a source, in order of their first declaration. -/
structure FunctionNames where
  user : List String
  static : List String
  deriving DecidableEq, Repr

/-- The names are read line by line, in the case in which they are written. -/
def FunctionNames.of (content : String) : FunctionNames where
  user := ((cutLines '\n' content.toList).filterMap userFunctionOf).eraseDups
  static := ((cutLines '\n' content.toList).filterMap staticFunctionOf).eraseDups

end RoutineAtlas
