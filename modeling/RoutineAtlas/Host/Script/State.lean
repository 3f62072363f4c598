import RoutineAtlas.Files.Tree
import RoutineAtlas.Host.Script.Command

/-
This file holds what a running script knows and what it has written. Descriptors lead to channels,
and the text of a channel grows.
-/

namespace RoutineAtlas

/-- What is written comes to a channel or to a file, or nowhere. -/
inductive ScriptSink where
  | channel (number : Nat)
  | file (place : Place)
  | nowhere
  deriving DecidableEq, Repr

/-- A run goes on, leaves or continues loops, returns from a named command, or has ended. -/
inductive ScriptFlow where
  | going
  | breaking (levels : Nat)
  | continuing (levels : Nat)
  | returning
  | exited
  | killed
  deriving DecidableEq, Repr

/-- A name stands for a command. -/
structure NamedCommand where
  name : String
  body : ScriptCommand

/-- A running script has a name and arguments and stands in a directory. A value that a named
command hides is kept, and so is the action for the end of the script. The input comes from one of
the sources, and what was read is gone from it. -/
structure ScriptState where
  name : ScriptText
  arguments : List ScriptText
  top : Entry
  place : Place
  assigned : List (String × ScriptText)
  exported : List String
  hidden : List (String × Option ScriptText)
  commands : List NamedCommand
  lastAction : Option ScriptText
  descriptors : List (Nat × ScriptSink)
  channels : List (List ScriptText)
  sources : List ScriptText
  source : Option Nat
  status : Nat
  outputStatus : Nat
  flow : ScriptFlow
  caller : ScriptText
  line : Nat
  callDepth : Nat
  loopDepth : Nat
  stopsOnFailure : Bool
  needsValues : Bool

/-- The directory of a place is written as an absolute path. -/
def placeText (place : Place) : ScriptText :=
  scriptText (slashByte :: List.intercalate [slashByte] place)

/-- The number under which a script can name its own process. -/
def processNumber : Nat := 1000

/-- The output and the error messages go to channels of these numbers. -/
def startingDescriptors : List (Nat × ScriptSink) :=
  [(1, .channel 0), (2, .channel 1)]

/-- Values are split at these characters, unless others are given. -/
def usualSeparators : ScriptText := [' ', '\t', '\n']

/-- A script begins with two channels, for its output and its error messages. -/
def ScriptState.start (name : ScriptText) (arguments : List ScriptText) (top : Entry)
    (place : Place) : ScriptState where
  name := name
  arguments := arguments
  top := top
  place := place
  assigned := [("PWD", placeText place), ("IFS", usualSeparators)]
  exported := ["PWD"]
  hidden := []
  commands := []
  lastAction := none
  descriptors := startingDescriptors
  channels := [[], []]
  sources := [[]]
  source := some 0
  status := 0
  outputStatus := 0
  flow := .going
  caller := []
  line := 1
  callDepth := 0
  loopDepth := 0
  stopsOnFailure := false
  needsValues := false

/-- The run goes on with the next command. -/
def ScriptState.isGoing (state : ScriptState) : Bool :=
  state.flow == .going

/-- This is the text of a channel. -/
def ScriptState.channelText (state : ScriptState) (number : Nat) : ScriptText :=
  ((state.channels[number]?).getD []).reverse.flatten

/-- This is what is left of the input, and a closed input has nothing. -/
def ScriptState.input (state : ScriptState) : ScriptText :=
  (state.source.bind fun number => state.sources[number]?).getD []

/-- Something of the input was read, and this is left. -/
def ScriptState.keepInput (state : ScriptState) (rest : ScriptText) : ScriptState :=
  match state.source with
  | some number => { state with sources := state.sources.set number rest }
  | none => state

/-- The input comes from a new source. -/
def ScriptState.openSource (state : ScriptState) (text : ScriptText) : ScriptState :=
  { state with
    sources := state.sources ++ [text]
    source := some state.sources.length }

/-- A path starts at the top when it is absolute, else where the script stands. -/
def ScriptState.startOf (state : ScriptState) (name : ScriptText) : Place :=
  if isAbsolutePath (scriptBytes name) then [] else state.place

/-- A name is followed from the directory of the script. -/
def ScriptState.resolve (state : ScriptState) (followLast : Bool) (name : ScriptText) :
    Except AccessFault (Place × Entry) :=
  if name.isEmpty then .error .notFound
  else if pathLimit ≤ name.length then .error .nameTooLong
  else
    state.top.follow followLast linkLimit (state.startOf name) (pathSteps (scriptBytes name))

/-- This is the entry that a name leads to from the directory. -/
def ScriptState.entry? (state : ScriptState) (name : ScriptText) : Option Entry :=
  (state.resolve true name).toOption.map Prod.snd

/-- A text is added to what a sink leads to. -/
def ScriptState.pour (state : ScriptState) (sink : ScriptSink) (text : ScriptText) :
    ScriptState :=
  match sink with
  | .channel number =>
      { state with channels := state.channels.modify number fun chunks => text :: chunks }
  | .file place =>
      let before := match state.top.at? place with
        | some (.file content) => content
        | _ => []
      { state with top := Entry.put place (.file (before ++ scriptBytes text)) state.top }
  | .nowhere => state

/-- A descriptor that was not closed can be written to. -/
def ScriptState.write? (state : ScriptState) (descriptor : Nat) (text : ScriptText) :
    Option ScriptState :=
  (state.descriptors.lookup descriptor).map fun sink => state.pour sink text

/-- An error message is written as it is. -/
def ScriptState.warn (state : ScriptState) (message : ScriptText) : ScriptState :=
  (state.write? 2 (message ++ ['\n'])).getD state

/-- A complaint names the script, the line, and the command that was called. -/
def ScriptState.complain (state : ScriptState) (message : ScriptText) : ScriptState :=
  state.warn
    (state.name ++ plainText (": " ++ toString state.line ++ ": ") ++ state.caller ++ message)

/-- A command ends with a status. -/
def ScriptState.ends (state : ScriptState) (status : Nat) : ScriptState :=
  { state with status }

/-- A complaint can be the status of a command. -/
def ScriptState.refuse (state : ScriptState) (message : ScriptText) (status : Nat) :
    ScriptState :=
  { state.complain message with status }

/-- A complaint can end the script. -/
def ScriptState.abort (state : ScriptState) (message : ScriptText) : ScriptState :=
  { state.refuse message 2 with flow := .exited }

/-- A command writes a text, which fails when the output is closed. -/
def ScriptState.print (state : ScriptState) (command : String) (text : ScriptText) :
    ScriptState :=
  match state.write? 1 text with
  | some after => after.ends 0
  | none =>
      if text.isEmpty then state.ends 0
      else state.refuse (plainText (command ++ ": I/O error")) 1

/-- A variable is given a value. -/
def ScriptState.assign (state : ScriptState) (name : String) (value : ScriptText) :
    ScriptState :=
  { state with
    assigned := (name, value) :: state.assigned.filter fun entry => entry.1 != name }

/-- A variable loses its value. -/
def ScriptState.unassign (state : ScriptState) (name : String) : ScriptState :=
  { state with assigned := state.assigned.filter fun entry => entry.1 != name }

/-- A variable gets back the value that it had, if there was one. -/
def ScriptState.restore (state : ScriptState) (name : String) (value : Option ScriptText) :
    ScriptState :=
  match value with
  | some text => state.assign name text
  | none => state.unassign name

/-- These characters split a value into fields. -/
def ScriptState.separators (state : ScriptState) : ScriptText :=
  (state.assigned.lookup "IFS").getD usualSeparators

/-- This is the text that stands for a value, unless there is none. -/
def ScriptState.value? (state : ScriptState) : ScriptValue → Option ScriptText
  | .argument index =>
      if index = 0 then some state.name else state.arguments[index - 1]?
  | .arguments _ =>
      if state.arguments.isEmpty then none else some (joinTexts ' ' state.arguments)
  | .argumentCount => some (plainText (toString state.arguments.length))
  | .lastStatus => some (plainText (toString state.status))
  | .processNumber => some (plainText (toString processNumber))
  | .variable name => state.assigned.lookup name

/-- A value is called by its sign or name. -/
def ScriptValue.label : ScriptValue → String
  | .argument index => toString index
  | .arguments true => "@"
  | .arguments false => "*"
  | .argumentCount => "#"
  | .lastStatus => "?"
  | .processNumber => "$"
  | .variable name => name

end RoutineAtlas
