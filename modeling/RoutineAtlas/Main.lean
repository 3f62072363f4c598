import RoutineAtlas.CommandLine.Run
import RoutineAtlas.Files.Editing
import Std.Time.DateTime.Timestamp

/-
This file runs the command line on a machine. The files that a command can need are copied into a
tree, and the command runs on the tree. Version control is not asked.
-/

namespace RoutineAtlas

/-- A path of the machine, seen from the working directory. The machine takes texts as paths. -/
def onMachine (path : PathName) :=
  (do return (← IO.currentDir) / path.display : IO _)

/-- An entry is copied with what lies below it, and a link with the place to which it leads. A
directory that cannot be listed is copied without its entries. -/
def copyEntry : (depth : Nat) → (path : PathName) → IO Entry
  | 0, _ => pure .emptyDirectory
  | depth + 1, path => do
      let place ← onMachine path
      match (← place.symlinkMetadata).type with
      | .symlink => pure (.link (← IO.FS.realPath place).toString)
      | .dir =>
          match ← place.readDir.toBaseIO with
          | .error _ => pure (.directory { entries := [], mayList := false })
          | .ok found =>
              let names : List PathName :=
                found.toList.map fun child => utf8Bytes child.fileName
              let entries ← names.mapM fun name => do
                let child ← if isIgnoredDirectory name then pure .emptyDirectory
                  else copyEntry depth (joinPath path name)
                pure (name, child)
              pure (.directory { entries })
      | _ => pure (.file (← IO.FS.readBinFile place).data.toList)

/-- These links stand in a directory itself. -/
def Entry.linkTargets : Entry → List PathName
  | .link target => [target]
  | .file _ => []
  | .device => []
  | .directory folder => folder.entries.filterMap fun
      | (_, .link target) => some target
      | _ => none

/-- An entry is copied into the tree if it is there. -/
def FileTree.copyIn (tree : FileTree) (depth : Nat) (path : PathName) : IO FileTree := do
  if ← (← onMachine path).pathExists then
    let entry ← copyEntry depth path
    pure { tree with top := Entry.put (tree.namedPlace path) entry tree.top }
  else pure tree

/-- A root is copied together with what its links lead to, across some links. -/
def FileTree.copyRoot (depth : Nat) : (links : Nat) → (tree : FileTree) → (path : PathName) →
    IO FileTree
  | 0, tree, _ => pure tree
  | links + 1, tree, path => do
      let rooted ← tree.copyIn depth path
      let targets := match rooted.entryItself path with
        | .ok entry => entry.linkTargets
        | .error _ => []
      targets.foldlM (FileTree.copyRoot depth links) rooted

/-- This many links in a row are copied. -/
def copiedLinks : Nat := 3

/-- A walk goes no deeper than this, and a file lies one level below its directory. -/
def SearchLimits.depth (limits : SearchLimits) : Nat :=
  limits.routineDepth + limits.tableDepth + limits.discoveryDepth + 1

/-- These variables are looked at. -/
def observedVariables : List String :=
  ["CLICOLOR_FORCE", Setting.configurationFile.variable, Setting.stagingRoot.variable,
    Setting.productionRoot.variable, Setting.standardRoot.variable, Setting.maxResults.variable]

/-- The configuration file is copied first, and then the roots that it leads to. -/
def copyNeeded (tree : FileTree) (lookup : Setting → Option Bytes) (invocation : Invocation) :
    IO FileTree := do
  let files := (invocation.configuration.or (lookup .configurationFile)).toList
  let configured ← files.foldlM (FileTree.copyRoot 1 copiedLinks) tree
  match Configuration.ofProcess configured lookup invocation.configuration with
  | .error _ => pure configured
  | .ok configuration =>
      let roots := configuration.roots
      let needed := [invocation.request.root?, roots.staging, roots.production, roots.standard]
      (needed.filterMap id).foldlM (FileTree.copyRoot configuration.search.depth copiedLinks)
        configured

end RoutineAtlas

open RoutineAtlas in
/-- The process ends with the status of its command. -/
def main (arguments : List String) : IO UInt32 := do
  let values ← observedVariables.mapM fun name => do return (name, ← IO.getEnv name)
  let processVariable (name : String) : Option Bytes := (values.lookup name).join.map utf8Bytes
  let empty := FileTree.atEmpty (utf8Bytes (← IO.currentDir).toString)
  let tree ← match Invocation.read (arguments.map utf8Bytes) with
    | .ok invocation =>
        copyNeeded empty (fun setting => processVariable setting.variable) invocation
    | .error _ => pure empty
  let now ← Std.Time.Timestamp.now
  let host := Host.withoutVersionControl tree now.toSecondsSinceUnixEpoch.val
  let (result, _) := CommandContext.run
    { host, processVariable, arguments := arguments.map utf8Bytes }
  IO.print result.output
  IO.eprint result.errors
  return UInt32.ofNat result.status.code
