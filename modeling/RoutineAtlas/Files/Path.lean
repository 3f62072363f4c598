import RoutineAtlas.Text.Extension
import RoutineAtlas.Text.LegacyEncoding

/-
This file takes paths apart and puts them together. A path is a row of bytes whose steps are
separated by slashes, and it need not be the form of any text.
-/

namespace RoutineAtlas

/-- The names of a file system and the paths that they make up are raw bytes. -/
abbrev PathName := Bytes

/-- A text stands for the path that has its UTF-8 form. -/
instance : Coe String PathName := ⟨utf8Bytes⟩

/-- This byte stands between the steps of a path. -/
def slashByte : UInt8 := 47

/-- This byte stands between the stem of a name and its extension. -/
def dotByte : UInt8 := 46

/-- The pieces between the separators, the empty ones included. -/
def splitPieces {A : Type} [DecidableEq A] (separator : A) (row : List A) : List (List A) :=
  row.foldr
    (fun first pieces =>
      if first = separator then [] :: pieces
      else match pieces with
        | [] => [[first]]
        | piece :: others => (first :: piece) :: others)
    [[]]

/-- These are the pieces of a path between its slashes. -/
def pathPieces (path : PathName) : List PathName :=
  splitPieces slashByte path

/-- A path that starts with a slash is absolute. -/
def isAbsolutePath (path : PathName) : Bool :=
  path.head? == some slashByte

/-- A path that ends with a slash names a directory. -/
def endsWithSlash (path : PathName) : Bool :=
  path.getLast? == some slashByte

/-- These are the names in a path. -/
def pathNames (path : PathName) : List PathName :=
  (pathPieces path).filter (· != [])

/-- These are the steps that a path takes. The empty step at the end of a path that ends with a
slash leads nowhere else and has to start from a directory. -/
def pathSteps (path : PathName) : List PathName :=
  pathNames path ++ if endsWithSlash path then [[]] else []

/-- A name is put below a directory, unless it is absolute itself. -/
def joinPath (directory name : PathName) : PathName :=
  if isAbsolutePath name then name
  else if directory = [] then name
  else if endsWithSlash directory then directory ++ name
  else directory ++ slashByte :: name

/-- The parts of a path leave out empty steps and all steps to where one is but a leading one. -/
structure PathParts where
  absolute : Bool
  steps : List PathName
  deriving DecidableEq, Repr

/-- These are the parts of a path. -/
def PathParts.of (path : PathName) : PathParts :=
  let pieces := pathPieces path
  let steps := pieces.filter fun piece => piece != [] && piece != "."
  { absolute := isAbsolutePath path
    steps := if pieces.head? = some (utf8Bytes ".") then "." :: steps else steps }

/-- The parts are written with one slash between the steps. -/
def PathParts.path (parts : PathParts) : PathName :=
  (if parts.absolute then [slashByte] else []) ++ List.intercalate [slashByte] parts.steps

/-- The file name is the last step, when that step is a name. -/
def pathFileName? (path : PathName) : Option PathName :=
  match (PathParts.of path).steps.getLast? with
  | some step => if step = "." ∨ step = ".." then none else some step
  | none => none

/-- The parent is the path without its last step. -/
def pathParent? (path : PathName) : Option PathName :=
  let parts := PathParts.of path
  if parts.steps.isEmpty then none
  else some { parts with steps := parts.steps.dropLast }.path

/-- A name that starts with its only dot has no extension. -/
def nameExtension? (name : PathName) : Option PathName :=
  match splitAtLast dotByte name with
  | some (stem, extension) => if stem.isEmpty then none else some extension
  | none => none

/-- The stem is the name without its extension. -/
def nameStem (name : PathName) : PathName :=
  match splitAtLast dotByte name with
  | some (stem, _) => if stem.isEmpty then name else stem
  | none => name

/-- This is the stem of the path's file name. -/
def pathStem? (path : PathName) : Option PathName :=
  (pathFileName? path).map nameStem

/-- This is the extension of the path's file name. -/
def pathExtension? (path : PathName) : Option PathName :=
  (pathFileName? path).bind nameExtension?

/-- Exactly two leading slashes are kept, any other number counts as one. -/
def absoluteStart (path : PathName) : PathName :=
  if (path.takeWhile (· == slashByte)).length = 2 then "//" else "/"

/-- A relative path is put below the working directory, and steps that lead nowhere go. -/
def absolutePath (workingDirectory path : PathName) : PathName :=
  if path = [] then []
  else
    let parts := PathParts.of path
    let start := if parts.absolute then absoluteStart path else workingDirectory
    let whole := (parts.steps.filter fun step => step != utf8Bytes ".").foldl joinPath start
    if endsWithSlash path && !endsWithSlash whole then whole ++ [slashByte] else whole

end RoutineAtlas
