import RoutineAtlas.Files.PathText
import RoutineAtlas.Files.Tree
import RoutineAtlas.Routine.Name
import RoutineAtlas.Text.LowerCase

/-
This file lists the files of certain extensions below a root. The walk lists a directory before
what lies below it, keeps the order of names, follows no links and avoids some directories.
-/

namespace RoutineAtlas

/-- These directories hold no sources of interest. -/
def ignoredDirectories : List String :=
  [".git", ".svn", ".hg", ".vscode", "build", "bin", "obj", "out", "dist", "backup", "backups",
    "bkp", "old", "__pycache__", "node_modules"]

/-- The name of an ignored directory may be written in any case, and it is text. -/
def isIgnoredDirectory (name : PathName) : Bool :=
  (readUtf8 name).any (holdsIgnoringCase ignoredDirectories)

/-- An entry is skipped because the walk cannot go on there or because it cannot be read. -/
inductive SkipKind where
  | walk
  | read
  deriving DecidableEq, Repr

/-- A skipped entry keeps its path and the fault. -/
structure SkippedEntry where
  path : PathName
  kind : SkipKind
  fault : AccessFault
  deriving DecidableEq, Repr

/-- The message of a skipped entry names its path. -/
def SkippedEntry.message (skipped : SkippedEntry) : String :=
  let path := skipped.path.display
  match skipped.kind with
  | .walk =>
      path ++ ": IO error for operation on " ++ path ++ ": " ++ skipped.fault.message ++
        " (walk error)"
  | .read => path ++ ": " ++ skipped.fault.message ++ " (I/O error)"

/-- A scan lists files in walk order, and what it had to skip. -/
structure Scan where
  files : List PathName
  skipped : List SkippedEntry
  deriving DecidableEq, Repr

/-- A scan looks for some extensions down to some depth. -/
structure ScanPlan where
  extensions : List String
  depth : Nat
  deriving DecidableEq, Repr

/-- The extensions are stored in lower case and without leading dots. -/
def ScanPlan.ofExtensions (extensions : List String) (depth : Nat) : ScanPlan where
  extensions := extensions.map fun extension =>
    lowerCase (String.ofList (extension.toList.dropWhile (· == '.')))
  depth := depth

/-- This plan looks for sources. -/
def ScanPlan.forSources (depth : Nat) : ScanPlan :=
  .ofExtensions sourceExtensions depth

/-- A file is wanted when its extension is text and agrees with one of the plan. -/
def ScanPlan.wants (plan : ScanPlan) (extension : Option PathName) : Bool :=
  (extension.bind readUtf8).any (holdsIgnoringCase plan.extensions)

/-- A directory below another can be refused for the length of its path or for the lack of the right
to search the other one. -/
def wayFault? (path : PathName) (folder : Folder Entry) : Option AccessFault :=
  if isOverlong path then some .nameTooLong
  else if folder.maySearch then none
  else some .denied

/-- A walk enters these directories of a folder. -/
def isEntered (path : PathName) (folder : Folder Entry) (name : PathName) : Bool :=
  !isIgnoredDirectory name && (wayFault? (joinPath path name) folder).isNone

/-- These are the wanted files below a directory, to the given depth. -/
def ScanPlan.walk (plan : ScanPlan) :
    (depth : Nat) → (path : PathName) → Folder Entry → List PathName
  | 0, _, _ => []
  | depth + 1, path, folder =>
      (listing folder).flatMap fun (name, entry) =>
        match entry with
        | .file _ => if plan.wants (nameExtension? name) then [joinPath path name] else []
        | .link _ => []
        | .device => []
        | .directory below =>
            if isEntered path folder name then plan.walk depth (joinPath path name) below else []

/-- A directory is refused to a walk for this fault. -/
def SkippedEntry.refused (path : PathName) (fault : AccessFault) : SkippedEntry where
  path := path
  kind := .walk
  fault := fault

/-- These are the directories that are refused to a walk down to the given depth, from a directory
on. -/
def refusedDirectories : (depth : Nat) → (path : PathName) → Folder Entry → List SkippedEntry
  | 0, _, _ => []
  | depth + 1, path, folder =>
      if folder.mayList then
        (listing folder).flatMap fun (name, entry) =>
          match entry with
          | .directory below =>
              if isIgnoredDirectory name || depth = 0 then []
              else match wayFault? (joinPath path name) folder with
                | some fault => [.refused (joinPath path name) fault]
                | none => refusedDirectories depth (joinPath path name) below
          | _ => []
      else [.refused path .denied]

/-- A walk that cannot start skips its root. -/
def Scan.skippedRoot (root : PathName) (fault : AccessFault) : Scan where
  files := []
  skipped := [.refused root fault]

/-- A walk lists the wanted files below a directory and skips what it cannot enter. -/
def ScanPlan.scanBelow (plan : ScanPlan) (root : PathName) (folder : Folder Entry) : Scan where
  files := plan.walk plan.depth root folder
  skipped := refusedDirectories plan.depth root folder

/-- The root may be a directory, a link to one, or a wanted file itself. -/
def ScanPlan.scan (plan : ScanPlan) (tree : FileTree) (root : PathName) : Scan :=
  match tree.entryItself root with
  | .error fault => .skippedRoot root fault
  | .ok (.file _) =>
      { files := if plan.wants (pathExtension? root) then [root] else [], skipped := [] }
  | .ok .device => { files := [], skipped := [] }
  | .ok (.directory folder) => plan.scanBelow root folder
  | .ok (.link _) =>
      match tree.entry root with
      | .error fault => .skippedRoot root fault
      | .ok (.directory folder) => plan.scanBelow root folder
      | .ok _ => { files := [], skipped := [] }

end RoutineAtlas
