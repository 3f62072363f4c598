import RoutineAtlas.Files.Editing
import RoutineAtlas.Host.Script.CharacterSet
import RoutineAtlas.Host.Script.State

/-
This file holds the programs that small scripts call. Each of them has the few options that such
scripts need.
-/

namespace RoutineAtlas

/-- This is what a program leaves. It may have read the input, and the files may have changed. -/
structure ProgramOutcome where
  output : ScriptText
  errors : ScriptText
  status : Nat
  readsInput : Bool
  top : Option Entry

/-- A program that only writes. -/
def ProgramOutcome.written (output : ScriptText) : ProgramOutcome where
  output := output
  errors := []
  status := 0
  readsInput := false
  top := none

/-- A program that only complains. -/
def ProgramOutcome.refused (errors : ScriptText) (status : Nat) : ProgramOutcome where
  output := []
  errors := errors ++ ['\n']
  status := status
  readsInput := false
  top := none

/-- A program runs with arguments. -/
abbrev Program := ScriptState → List ScriptText → ProgramOutcome

/-- A call of a program is not understood. -/
def unknownCall (tool : String) : ProgramOutcome :=
  .refused (plainText (tool ++ ": unknown call")) 1

/-- A text is quoted in messages. -/
def quotedName (text : ScriptText) : ScriptText :=
  singleQuotation :: text ++ [singleQuotation]

/-- The texts of some files are put together, or the input is taken, and the missing files are
complained about. -/
def ScriptState.gather (state : ScriptState) (tool : String) (names : List ScriptText) :
    ProgramOutcome :=
  let add (outcome : ProgramOutcome) (name : ScriptText) : ProgramOutcome :=
    match state.entry? name with
    | some (.file content) => { outcome with output := outcome.output ++ scriptText content }
    | found =>
        let reason := if found.isSome then "Is a directory" else "No such file or directory"
        { outcome with
          errors := outcome.errors ++ plainText (tool ++ ": ") ++ name ++
            plainText (": " ++ reason ++ "\n")
          status := 1 }
  if names.isEmpty then { ProgramOutcome.written state.input with readsInput := true }
  else names.foldl add (.written [])

/-- The text that was gathered is changed. -/
def ProgramOutcome.change (outcome : ProgramOutcome) (treat : ScriptText → ScriptText) :
    ProgramOutcome :=
  { outcome with output := treat outcome.output }

/-- The slashes at the end of a path go, unless nothing is left. -/
def withoutLastSlashes (path : ScriptText) : ScriptText :=
  let kept := (path.reverse.dropWhile (· == '/')).reverse
  if kept.isEmpty && !path.isEmpty then ['/'] else kept

/-- The last name of a path, without an ending. -/
def lastName (path ending : ScriptText) : ScriptText :=
  let kept := withoutLastSlashes path
  let name := if kept = ['/'] then kept else (kept.reverse.takeWhile (· != '/')).reverse
  if ending.isSuffixOf name && ending != name then name.take (name.length - ending.length)
  else name

/-- The directory of a path. -/
def directoryName (path : ScriptText) : ScriptText :=
  let kept := withoutLastSlashes path
  if kept.contains '/' then
    withoutLastSlashes (kept.take (kept.length - (kept.reverse.takeWhile (· != '/')).length))
  else ['.']

/-- The last name of a path is written. -/
def writeLastName : Program := fun _ arguments =>
  match arguments with
  | [path] => .written (lastName path [] ++ ['\n'])
  | [path, ending] => .written (lastName path ending ++ ['\n'])
  | _ => unknownCall "basename"

/-- The directory of a path is written. -/
def writeDirectoryName : Program := fun _ arguments =>
  match arguments with
  | [path] => .written (directoryName path ++ ['\n'])
  | _ => unknownCall "dirname"

/-- The names in a directory are listed, and a file is listed by its own name. Names that begin with
a point are hidden. -/
def listNames : Program := fun state arguments =>
  let name := arguments.headD ['.']
  match state.resolve true name with
  | .ok (_, .directory folder) =>
      let names := (listing folder).map fun child => scriptText child.1
      .written (joinTextLines ((names.filter fun name => name.head? != some '.').mergeSort
        comesBefore))
  | .ok _ => .written (name ++ ['\n'])
  | .error _ =>
      .refused (plainText "ls: cannot access " ++ quotedName name ++
        plainText ": No such file or directory") 2

/-- The lines of a text with their line feeds, where the last one may lack it. -/
def keptLines : ScriptText → List ScriptText
  | [] => []
  | '\n' :: rest => ['\n'] :: keptLines rest
  | character :: rest =>
      match keptLines rest with
      | line :: others => (character :: line) :: others
      | [] => [[character]]

/-- The first lines of files are written. -/
def showStart : Program := fun state arguments =>
  let shown (count : Option Nat) (names : List ScriptText) : ProgramOutcome :=
    match count with
    | some number =>
        (state.gather "head" names).change fun text => ((keptLines text).take number).flatten
    | none => unknownCall "head"
  match arguments with
  | ['-', 'n'] :: number :: names => shown (readNatural? number) names
  | ('-' :: number) :: names => shown (readNatural? number) names
  | names => shown (some 10) names

/-- A line begins with a pattern, in which a point stands for any character. -/
def beginsLike : (pattern line : ScriptText) → Bool
  | [], _ => true
  | _ :: _, [] => false
  | wanted :: pattern, character :: line =>
      (wanted == '.' || wanted == character) && beginsLike pattern line

/-- A pattern fits some part of a line. -/
def isInLine (pattern : ScriptText) : ScriptText → Bool
  | [] => pattern.isEmpty
  | character :: line => beginsLike pattern (character :: line) || isInLine pattern line

/-- The lines that a pattern fits are written or counted. -/
def searchLines : Program := fun state arguments =>
  let isCount := arguments.head? = some ['-', 'c']
  match if isCount then arguments.drop 1 else arguments with
  | [] => unknownCall "grep"
  | pattern :: names =>
      let gathered := state.gather "grep" names
      let fitting := (splitTextLines gathered.output).filter (isInLine pattern)
      { gathered with
        output := if isCount then plainText (toString fitting.length ++ "\n")
          else joinTextLines fitting
        status := max gathered.status (if fitting.isEmpty then 1 else 0) }

/-- The lines of files are written in their order. -/
def sortLines : Program := fun state names =>
  (state.gather "sort" names).change fun text =>
    joinTextLines ((splitTextLines text).mergeSort comesBefore)

/-- The words of a text are separated by blanks. -/
def countWords (text : ScriptText) : Nat :=
  ((splitPieces ' ' (text.map fun character =>
    if isNumberBlank character then ' ' else character)).filter (!·.isEmpty)).length

/-- The words, lines or bytes of a text are counted. -/
def countText : Program := fun state arguments =>
  let counted (count : ScriptText → Nat) (names : List ScriptText) : ProgramOutcome :=
    (state.gather "wc" names).change fun text => plainText (toString (count text) ++ "\n")
  match arguments with
  | ['-', 'w'] :: names => counted countWords names
  | ['-', 'l'] :: names => counted (List.count '\n') names
  | ['-', 'c'] :: names => counted List.length names
  | _ => unknownCall "wc"

/-- A set of characters has ranges and single characters. -/
def setMembers : ScriptText → List Char
  | first :: '-' :: last :: rest => characterRange first.toNat last.toNat ++ setMembers rest
  | character :: rest => character :: setMembers rest
  | [] => []

/-- A character becomes the one at the same place of another set, whose last one is repeated. -/
def replaceMember (first second : List Char) (character : Char) : Char :=
  match first.idxOf? character with
  | some index => (second[index]?).getD (second.getLast?.getD character)
  | none => character

/-- Characters of the input are replaced or deleted. -/
def replaceCharacters : Program := fun state arguments =>
  let gathered := state.gather "tr" []
  match arguments with
  | [['-', 'd'], set] =>
      gathered.change fun text => text.filter fun character => !(setMembers set).contains character
  | [first, second] =>
      gathered.change fun text => text.map (replaceMember (setMembers first) (setMembers second))
  | _ => unknownCall "tr"

/-- A new entry is put where a name leads from the directory of a script. -/
def ScriptState.putEntry (state : ScriptState) (name : ScriptText) (entry : Entry) : Entry :=
  let names := pathNames (scriptBytes name)
  Entry.put (state.top.destination (state.startOf name) names) entry state.top

/-- The input is copied to the output and to a file. -/
def copyInput : Program := fun state arguments =>
  let gathered := state.gather "tee" []
  match arguments with
  | [name] => { gathered with top := state.putEntry name (.file (scriptBytes gathered.output)) }
  | _ => unknownCall "tee"

/-- A directory is made with those on the way to it, unless it is there. -/
def makeDirectory : Program := fun state arguments =>
  match arguments with
  | [['-', 'p'], name] =>
      if (state.entry? name).isSome then .written []
      else { ProgramOutcome.written [] with top := state.putEntry name .emptyDirectory }
  | _ => unknownCall "mkdir"

/-- The program of a name, if there is one. No time passes while a script runs. -/
def program? (name : String) : Option Program :=
  match name with
  | "basename" => some writeLastName
  | "cat" => some fun state => state.gather name
  | "dirname" => some writeDirectoryName
  | "grep" => some searchLines
  | "head" => some showStart
  | "ls" => some listNames
  | "mkdir" => some makeDirectory
  | "sleep" => some fun _ _ => .written []
  | "sort" => some sortLines
  | "tee" => some copyInput
  | "tr" => some replaceCharacters
  | "wc" => some countText
  | _ => none

end RoutineAtlas
