import RoutineAtlas.Files.Tree

/-
This file holds the host of a query: its files, its clock and its version control program.
-/

namespace RoutineAtlas

/-- A command ends well or not, and leaves output and error messages. -/
structure CommandOutcome where
  succeeded : Bool
  output : Bytes
  errors : Bytes
  deriving DecidableEq, Repr

/-- A host may have a version control program, which runs in a directory and may change files. -/
structure Host where
  tree : FileTree
  instant : Int
  versionControl : FileTree → Place → List String → Option (CommandOutcome × FileTree)

/-- A host without a version control program. -/
def Host.withoutVersionControl (tree : FileTree) (instant : Int) : Host where
  tree := tree
  instant := instant
  versionControl := fun _ _ _ => none

end RoutineAtlas
