import RoutineAtlas.Files.PathText
import RoutineAtlas.Host.Basic
import RoutineAtlas.Text.BlankCharacter

/-
This file asks version control about the source of a routine. Nothing here fails: what cannot be
learned is told as a message.
-/

namespace RoutineAtlas

/-- Either the facts are known, or a message says why they are not. -/
inductive VersionControlStatus where
  | known (branch : String) (status lastCommit : Option String)
  | unavailable (message : String)
  deriving DecidableEq, Repr

/-- The trimmed text of some output. -/
def trimmedOutput (output : Bytes) : String :=
  trim (decodeSource output)

/-- The program could not be started. -/
def notAvailable (reason : String) : String :=
  "git is not available: " ++ reason

/-- No text with a null can be handed to a program. -/
def holdsNull (text : String) : Bool :=
  text.any (·.toNat == 0)

/-- The output of the program counts when it ended well, and else the message about its failure. -/
def CommandOutcome.answer (outcome : CommandOutcome) (arguments : List String) :
    Except String String :=
  if outcome.succeeded then .ok (trimmedOutput outcome.output)
  else
    let message := trimmedOutput outcome.errors
    .error (if message = "" then
      "git " ++ String.intercalate " " arguments ++ " failed" else message)

/-- The program runs in a directory and answers, and it leaves the host with its files. It needs the
right to search the directory. -/
def Host.ask (host : Host) (directory : PathName) (arguments : List String) :
    Except String String × Host :=
  if directory.contains 0 || arguments.any holdsNull then
    (.error (notAvailable "nul byte found in provided data"), host)
  else match host.tree.resolve true directory with
  | .error fault => (.error (notAvailable fault.message), host)
  | .ok (place, .directory folder) =>
      if folder.maySearch = false then (.error (notAvailable AccessFault.denied.message), host)
      else match host.versionControl host.tree place arguments with
        | none => (.error (notAvailable AccessFault.notFound.message), host)
        | some (outcome, tree) => (outcome.answer arguments, { host with tree })
  | .ok _ => (.error (notAvailable AccessFault.notDirectory.message), host)

/-- An answer counts when there is one and it is not empty. -/
def worthTelling (answer : Except String String) : Option String :=
  match answer with
  | .ok text => if text = "" then none else some text
  | .error _ => none

/-- The program runs in the directory of the file, and a failure to tell the branch ends it. -/
def Host.versionControlStatus (host : Host) (file : PathName) : VersionControlStatus × Host :=
  match pathParent? file with
  | none => (.unavailable "file has no parent directory", host)
  | some directory =>
      let fileName := ((pathFileName? file).map PathName.display).getD ""
      match host.ask directory ["rev-parse", "--abbrev-ref", "HEAD"] with
      | (.error message, asked) => (.unavailable message, asked)
      | (.ok branch, asked) =>
          let (status, later) := asked.ask directory ["status", "--porcelain", "--", fileName]
          let (commit, last) := later.ask directory
            ["log", "-1", "--date=short", "--format=%h %ad %an %s", "--", fileName]
          (.known branch (worthTelling status) (worthTelling commit), last)

end RoutineAtlas
