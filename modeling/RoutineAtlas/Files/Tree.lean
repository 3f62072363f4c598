import RoutineAtlas.Files.AccessFault
import RoutineAtlas.Files.Entry

/-
This file follows paths through a file tree, across links, and reads what they lead to.
-/

namespace RoutineAtlas

/-- A file tree is seen from a working directory. -/
structure FileTree where
  top : Entry
  workingDirectory : PathName

/-- A path is followed across at most this many links. -/
def linkLimit : Nat := 40

/-- A name may not take more bytes than this. -/
def nameLimit : Nat := 255

/-- A path takes fewer bytes than this. -/
def pathLimit : Nat := 4096

/-- A path may be too long to be used, whatever it leads to. -/
def isOverlong (path : PathName) : Bool :=
  pathLimit ≤ path.length

/-- A place is given by the names that lead to it from the top. -/
abbrev Place := List PathName

/-- The steps are taken one by one, and a link is replaced by the steps of its target. Every step
but the empty one needs the right to search the directory. -/
def Entry.follow (top : Entry) (followLast : Bool) :
    (links : Nat) → Place → List PathName → Except AccessFault (Place × Entry)
  | _, place, [] =>
      match top.at? place with
      | some entry => .ok (place, entry)
      | none => .error .notFound
  | links, place, step :: rest =>
      match top.at? place with
      | some (.directory folder) =>
          if step = [] then top.follow followLast links place rest
          else if folder.maySearch = false then .error .denied
          else if step = "." then top.follow followLast links place rest
          else if step = ".." then top.follow followLast links place.dropLast rest
          else if nameLimit < step.length then .error .nameTooLong
          else match childNamed step folder with
            | none => .error .notFound
            | some (.link target) =>
                if rest.isEmpty && !followLast then .ok (place ++ [step], .link target)
                else match links with
                  | 0 => .error .linkLoop
                  | fewer + 1 =>
                      top.follow followLast fewer (if isAbsolutePath target then [] else place)
                        (pathSteps target ++ rest)
            | some _ => top.follow followLast links (place ++ [step]) rest
      | some _ => .error .notDirectory
      | none => .error .notFound
  termination_by links _ steps => (links, steps.length)

/-- A path starts at the top when it is absolute, else where the working directory lies. -/
def FileTree.startOf (tree : FileTree) (path : PathName) : Place :=
  if isAbsolutePath path then [] else pathNames tree.workingDirectory

/-- A path that can be used is followed from its start. -/
def FileTree.resolve (tree : FileTree) (followLast : Bool) (path : PathName) :
    Except AccessFault (Place × Entry) :=
  if path.contains 0 then .error .nulInPath
  else if path = [] then .error .notFound
  else if isOverlong path then .error .nameTooLong
  else tree.top.follow followLast linkLimit (tree.startOf path) (pathSteps path)

/-- This is the entry that a path leads to, across all links. -/
def FileTree.entry (tree : FileTree) (path : PathName) : Except AccessFault Entry :=
  (tree.resolve true path).map Prod.snd

/-- This is the entry that a path names, which may be a link. -/
def FileTree.entryItself (tree : FileTree) (path : PathName) : Except AccessFault Entry :=
  (tree.resolve false path).map Prod.snd

/-- The path leads to a file. -/
def FileTree.isFile (tree : FileTree) (path : PathName) : Bool :=
  match tree.entry path with
  | .ok (.file _) => true
  | _ => false

/-- The path leads to a directory. -/
def FileTree.isDirectory (tree : FileTree) (path : PathName) : Bool :=
  match tree.entry path with
  | .ok (.directory _) => true
  | _ => false

/-- Only a file can be read. A directory is opened first, which needs the right to list it. -/
def FileTree.read (tree : FileTree) (path : PathName) : Except AccessFault Bytes :=
  match tree.entry path with
  | .ok (.file content) => .ok content
  | .ok .device => .ok []
  | .ok (.directory folder) => .error (if folder.mayList then .isDirectory else .denied)
  | .ok (.link _) => .error .linkLoop
  | .error fault => .error fault

/-- The text of a source is its decoded content. -/
def FileTree.readSource (tree : FileTree) (path : PathName) : Except AccessFault String :=
  (tree.read path).map decodeSource

/-- A path that leads to a file can be read. -/
theorem FileTree.read_of_isFile {tree : FileTree} {path : PathName}
    (isFile : tree.isFile path = true) : ∃ content, tree.read path = .ok content := by
  simp only [FileTree.isFile] at isFile
  split at isFile
  · rename_i content found
    exact ⟨content, by simp [FileTree.read, found]⟩
  · simp at isFile

end RoutineAtlas
