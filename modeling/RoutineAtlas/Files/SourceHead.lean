import RoutineAtlas.Files.Tree
import RoutineAtlas.Text.Lines

/-
This file reads the first lines of a source.
-/

namespace RoutineAtlas

/-- Each line is decoded by itself and ends with a line feed. -/
def headLine (line : Bytes) : List Char :=
  (decodeSource (dropReturn 13 line)).toList ++ ['\n']

/-- The head of a content is its first lines. -/
def sourceHead (limit : Nat) (content : Bytes) : String :=
  String.ofList (((cutLines 10 content).take limit).flatMap headLine)

/-- The head of a source can be read when the source can. -/
def FileTree.readHead (tree : FileTree) (limit : Nat) (path : PathName) :
    Except AccessFault String :=
  (tree.read path).map (sourceHead limit)

end RoutineAtlas
