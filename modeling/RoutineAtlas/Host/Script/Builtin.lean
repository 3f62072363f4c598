import RoutineAtlas.Host.Script.Escape
import RoutineAtlas.Host.Script.Question
import RoutineAtlas.Host.Script.Signal
import RoutineAtlas.Host.Script.Sink

/-
This file holds the commands that belong to the language of scripts and that run no other commands.
Some of them end the script when they fail.
-/

namespace RoutineAtlas

/-- A command of the language changes the state. -/
abbrev BuiltinCommand := ScriptState → List ScriptText → ScriptState

/-- These commands end the script when they fail, and their assignments last. -/
def specialCommands : List String :=
  [":", "break", "continue", "eval", "exec", "exit", "export", "local", "return", "set", "shift",
    "trap", "unset"]

/-- Texts are echoed with blanks between them, and a line feed unless it is not wanted. -/
def echoText (arguments : List ScriptText) : ScriptText :=
  let isOpen := arguments.head? = some (plainText "-n")
  let written := unescape (joinTexts ' ' (if isOpen then arguments.drop 1 else arguments))
  if isOpen || written.isCut then written.text else written.text ++ ['\n']

/-- A text is written in some format. -/
def ScriptState.printFormatted (state : ScriptState) (arguments : List ScriptText) :
    ScriptState :=
  let operands := if arguments.head? = some ['-', '-'] then arguments.drop 1 else arguments
  match operands with
  | [] => state.refuse (plainText "usage: printf format [arg ...]") 2
  | format :: others =>
      match format with
      | '-' :: letter :: _ =>
          if arguments.length = operands.length then
            state.refuse (plainText "Illegal option -" ++ [letter]) 2
          else write format others
      | _ => write format others
where
  /-- The complaints come before the text. -/
  write (format : ScriptText) (others : List ScriptText) : ScriptState :=
    let written := writeFormatted format others
    let warned := written.complaints.foldl ScriptState.complain state
    let printed := warned.print "printf" written.text
    if written.isBroken then printed.ends 2
    else if written.complaints.isEmpty then printed
    else printed.ends 1

/-- A number in an argument may be missing. -/
def numberArgument (usual : Nat) (arguments : List ScriptText) : Except ScriptText Nat :=
  match arguments with
  | [] => .ok usual
  | text :: _ =>
      match (readInteger? text).filter fun number => 0 ≤ number && number ≤ 2147483647 with
      | some number => .ok number.toNat
      | none => .error (plainText "Illegal number: " ++ text)

/-- The script ends with a status. -/
def ScriptState.leave : BuiltinCommand := fun state arguments =>
  match numberArgument state.status arguments with
  | .ok number => { state with status := number % 256, flow := .exited }
  | .error message => state.abort message

/-- A named command ends with a status. -/
def ScriptState.comeBack : BuiltinCommand := fun state arguments =>
  match numberArgument state.status arguments with
  | .ok number => { state with status := number, flow := .returning }
  | .error message => state.abort message

/-- Some loops are left or continued, and outside of loops nothing happens. -/
def ScriptState.jump (flow : Nat → ScriptFlow) : BuiltinCommand := fun state arguments =>
  match numberArgument 1 arguments with
  | .ok 0 => state.abort (plainText "Illegal number: 0")
  | .ok number =>
      let levels := min number state.loopDepth
      { state with status := 0, flow := if levels = 0 then state.flow else flow levels }
  | .error message => state.abort message

/-- The first arguments go. -/
def ScriptState.shift : BuiltinCommand := fun state arguments =>
  match numberArgument 1 arguments with
  | .ok number =>
      if state.arguments.length < number then state.abort (plainText "can't shift that many")
      else
        { state with arguments := state.arguments.drop number, status := 0 }
  | .error message => state.abort message

/-- A letter switches an option on or off. -/
def ScriptState.switch (isOn : Bool) (state : ScriptState) (letter : Char) : ScriptState :=
  if letter = 'e' then { state with stopsOnFailure := isOn }
  else if letter = 'u' then { state with needsValues := isOn }
  else state.abort (plainText "Illegal option -" ++ [letter])

/-- Options are switched by their letters, and then come new arguments. -/
def ScriptState.configure (state : ScriptState) : List ScriptText → ScriptState
  | [] => if state.isGoing then state.ends 0 else state
  | ['-', '-'] :: rest => { state with arguments := rest, status := 0 }
  | ('-' :: letters) :: rest => (letters.foldl (ScriptState.switch true) state).configure rest
  | ('+' :: letters) :: rest => (letters.foldl (ScriptState.switch false) state).configure rest
  | text :: rest => { state with arguments := text :: rest, status := 0 }

/-- An argument may be a name or an assignment. -/
def splitAssignment (text : ScriptText) : ScriptText × Option ScriptText :=
  let name := text.takeWhile (· != '=')
  (name, if name.length = text.length then none else some (text.drop (name.length + 1)))

/-- Every name is treated, and its value is assigned, unless a name is none. -/
def ScriptState.declare (treat : ScriptState → String → ScriptState) (state : ScriptState) :
    List ScriptText → ScriptState
  | [] => if state.isGoing then state.ends 0 else state
  | text :: rest =>
      let (name, value) := splitAssignment text
      if !isVariableName name then state.abort (name ++ plainText ": bad variable name")
      else
        let treated := treat state (spelledText name)
        let assigned := match value with
          | some content => treated.assign (spelledText name) content
          | none => treated
        assigned.declare treat rest

/-- The values of names are known to other programs. -/
def ScriptState.exportNames : BuiltinCommand := fun state arguments =>
  state.declare (fun current name => { current with exported := name :: current.exported })
    arguments

/-- The values of names are hidden while a named command runs. -/
def ScriptState.hideNames : BuiltinCommand := fun state arguments =>
  if state.callDepth = 0 then state.abort (plainText "not in a function")
  else state.declare
    (fun current name =>
      { current with hidden := (name, current.assigned.lookup name) :: current.hidden })
    arguments

/-- The hidden values are restored. -/
def ScriptState.reveal (state : ScriptState) : ScriptState :=
  state.hidden.foldl (fun current (name, value) => current.restore name value) state

/-- Names lose their values. -/
def ScriptState.forget : BuiltinCommand := fun state arguments =>
  (arguments.map spelledText).foldl ScriptState.unassign (state.ends 0)

/-- A line of the input is read, in which backslashes may quote. The last line may lack its end. -/
def takeInputLine (isRaw : Bool) : ScriptText → MarkedText × ScriptText × Bool
  | [] => ([], [], false)
  | '\n' :: rest => ([], rest, true)
  | ['\\'] => (if isRaw then [('\\', false)] else [], [], false)
  | '\\' :: next :: rest =>
      if isRaw then
        let (line, after, isEnded) := takeInputLine isRaw (next :: rest)
        (('\\', false) :: line, after, isEnded)
      else
        let (line, after, isEnded) := takeInputLine isRaw rest
        (if next = '\n' then line else (next, true) :: line, after, isEnded)
  | character :: rest =>
      let (line, after, isEnded) := takeInputLine isRaw rest
      ((character, false) :: line, after, isEnded)

/-- A field of a line goes to the next separator, and the last one takes what is left. -/
def splitInputLine (separators : ScriptText) : (count : Nat) → MarkedText → List ScriptText
  | 0, _ => []
  | count + 1, text =>
      let isBlank (piece : Char × Bool) : Bool :=
        !piece.2 && separators.contains piece.1 && [' ', '\t', '\n'].contains piece.1
      let isSeparator (piece : Char × Bool) : Bool := !piece.2 && separators.contains piece.1
      let trimmed := text.dropWhile isBlank
      if count = 0 then
        let kept := (trimmed.reverse.dropWhile isBlank).reverse
        let single := kept.dropLast
        if kept.getLast?.any isSeparator && !single.any isSeparator then [unmarkedText single]
        else [unmarkedText kept]
      else
        let field := trimmed.takeWhile fun piece => !isSeparator piece
        let rest := (trimmed.drop field.length).dropWhile isBlank
        let after := if rest.head?.any isSeparator then rest.drop 1 else rest
        unmarkedText field :: splitInputLine separators count after

/-- The fields of a line become values of names. -/
def ScriptState.readInput : BuiltinCommand := fun state arguments =>
  let isRaw := arguments.head? = some ['-', 'r']
  let operands := if isRaw then arguments.drop 1 else arguments
  let names := operands.map spelledText
  if names.isEmpty then state.refuse (plainText "arg count") 2
  else if let some name := operands.find? fun name => !isVariableName name then
    state.refuse (name ++ plainText ": bad variable name") 2
  else
    let (line, rest, isEnded) := takeInputLine isRaw state.input
    let values := splitInputLine state.separators names.length line
    let assigned := (names.zip (values ++ List.replicate names.length [])).foldl
      (fun current (name, value) => current.assign name value)
      (state.keepInput rest)
    assigned.ends (if isEnded then 0 else 1)

/-- The directory is changed. -/
def ScriptState.changeDirectory : BuiltinCommand := fun state arguments =>
  let wanted := arguments.headD ['.']
  match state.resolve true wanted with
  | .ok (place, .directory _) =>
      ({ state with place }.assign "PWD" (placeText place)).ends 0
  | _ => state.refuse (plainText "can't cd to " ++ wanted) 2

/-- A question is the status of its answer, or it is not understood. -/
def ScriptState.ask : BuiltinCommand := fun state arguments =>
  match state.answer arguments with
  | .ok holds => state.ends (if holds then 0 else 1)
  | .error message => state.refuse message 2

/-- A question in brackets has to be closed. -/
def ScriptState.askInBrackets : BuiltinCommand := fun state arguments =>
  if arguments.getLast? = some [']'] then state.ask arguments.dropLast
  else state.refuse (plainText "missing ]") 2

/-- The command of the language that has a name. -/
def builtinCommand? (name : String) : Option BuiltinCommand :=
  match name with
  | ":" => some fun state _ => state.ends 0
  | "true" => some fun state _ => state.ends 0
  | "wait" => some fun state _ => state.ends 0
  | "false" => some fun state _ => state.ends 1
  | "echo" => some fun state arguments => state.print name (echoText arguments)
  | "printf" => some ScriptState.printFormatted
  | "pwd" => some fun state _ => state.print name (placeText state.place ++ ['\n'])
  | "exit" => some ScriptState.leave
  | "return" => some ScriptState.comeBack
  | "break" => some (ScriptState.jump .breaking)
  | "continue" => some (ScriptState.jump .continuing)
  | "shift" => some ScriptState.shift
  | "set" => some ScriptState.configure
  | "export" => some ScriptState.exportNames
  | "local" => some ScriptState.hideNames
  | "unset" => some ScriptState.forget
  | "read" => some ScriptState.readInput
  | "cd" => some ScriptState.changeDirectory
  | "test" => some ScriptState.ask
  | "[" => some ScriptState.askInBrackets
  | "kill" => some ScriptState.sendSignal
  | "trap" => some ScriptState.setAction
  | _ => none

end RoutineAtlas
