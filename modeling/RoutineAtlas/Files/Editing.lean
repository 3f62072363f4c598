import RoutineAtlas.Files.Tree

/-
This file edits a file tree. An entry is written where its path leads, across the links on the
way, and the directories that are missing there are made.
-/

namespace RoutineAtlas

/-- The steps lead across links as far as there are entries, and straight on from there. -/
def Entry.destination (top : Entry) : Place → List PathName → Place
  | place, [] => place
  | place, step :: rest =>
      match top.follow true linkLimit place [step] with
      | .ok (next, _) => top.destination next rest
      | .error _ => top.destination (place ++ [step]) rest

/-- This is the place to which a path leads, be there an entry or not. -/
def FileTree.placeOf (tree : FileTree) (path : PathName) : Place :=
  tree.top.destination (tree.startOf path) (pathNames path)

/-- This is the place at which a path puts a new link. -/
def FileTree.namedPlace (tree : FileTree) (path : PathName) : Place :=
  let names := pathNames path
  tree.top.destination (tree.startOf path) names.dropLast ++ names.getLast?.toList

/-- A file is written through the links that its path ends in. -/
def FileTree.writeFile (tree : FileTree) (path : PathName) (content : Bytes) : FileTree :=
  { tree with top := Entry.put (tree.placeOf path) (.file content) tree.top }

/-- A link is written where its path names it. -/
def FileTree.writeLink (tree : FileTree) (path target : PathName) : FileTree :=
  { tree with top := Entry.put (tree.namedPlace path) (.link target) tree.top }

/-- A directory that is there already keeps what it has. -/
def FileTree.makeDirectory (tree : FileTree) (path : PathName) : FileTree :=
  let place := tree.placeOf path
  match tree.top.at? place with
  | some (.directory _) => tree
  | _ => { tree with top := Entry.put place .emptyDirectory tree.top }

/-- What a path names is removed, and no link is followed for that. -/
def FileTree.remove (tree : FileTree) (path : PathName) : FileTree :=
  { tree with top := tree.top.erase (tree.namedPlace path) }

/-- These directories are there on every host. -/
def usualDirectories : List PathName :=
  ["bin", "boot", "dev", "etc", "home", "lib", "media", "mnt", "opt", "proc", "root", "run", "sbin",
    "srv", "sys", "tmp", "usr", "var"]

/-- A host without any files has its usual directories and the device that is always empty. -/
def emptyTop : Entry :=
  let directories := usualDirectories.map fun name => (name, Entry.emptyDirectory)
  Entry.put ["dev", "null"] .device (.directory { entries := directories })

/-- This tree has no files, and its working directory is empty. -/
def FileTree.atEmpty (workingDirectory : PathName) : FileTree where
  top := Entry.put (pathNames workingDirectory) .emptyDirectory emptyTop
  workingDirectory := workingDirectory

end RoutineAtlas
