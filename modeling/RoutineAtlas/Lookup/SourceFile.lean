import RoutineAtlas.Files.Scan

/-
This file finds the source of a routine below a root. The spellings of the name are tried at the
root itself before the walk compares file names without regard to case.
-/

namespace RoutineAtlas

/-- A source is found at the root or by the walk. -/
inductive LookupWay where
  | directProbe
  | walk
  deriving DecidableEq, Repr

/-- This is the way's name in answers. -/
def LookupWay.label : LookupWay → String
  | .directProbe => "direct_probe"
  | .walk => "walk"

/-- Whoever does not find a routine tells what was tried. -/
inductive LookupOutcome where
  | found (path : PathName) (method : LookupWay) (filesScanned : Nat)
  | notFound (root : PathName) (spellings : List String) (filesScanned : Nat)
      (skipped : List SkippedEntry)
  deriving DecidableEq, Repr

/-- The first spelling that leads to a file at the root. -/
def probe (tree : FileTree) (root : PathName) (name : RoutineName) : Option PathName :=
  (name.spellings.map fun spelling => joinPath root (utf8Bytes spelling)).find? tree.isFile

/-- A path answers to a name when its file name is text and agrees with a spelling in upper case. -/
def answersTo (name : RoutineName) (path : PathName) : Bool :=
  match (pathFileName? path).bind readUtf8 with
  | some fileName => (name.spellings.map upperCase).contains (upperCase fileName)
  | none => false

/-- The walk takes place only when no spelling is found at the root. -/
def lookUpRoutine (tree : FileTree) (depth : Nat) (root : PathName) (name : RoutineName) :
    LookupOutcome :=
  match probe tree root name with
  | some path => .found path .directProbe 0
  | none =>
      let scan := (ScanPlan.forSources depth).scan tree root
      match scan.files.find? (answersTo name) with
      | some path => .found path .walk scan.files.length
      | none => .notFound root name.spellings scan.files.length scan.skipped

end RoutineAtlas
