import RoutineAtlas.Host.Basic
import RoutineAtlas.Host.Script.Builtin
import RoutineAtlas.Host.Script.Program

/-
This file runs small scripts. A host can take a script in the directory for its version control
program.
-/

namespace RoutineAtlas

/-- A command that failed can end the script, unless its status is asked for. -/
def ScriptState.check (state : ScriptState) (isGuarded : Bool) : ScriptState :=
  if state.stopsOnFailure && !isGuarded && state.status != 0 && state.isGoing then
    { state with flow := .exited }
  else state

/-- A run that would not end is given up. -/
def ScriptState.giveUp (state : ScriptState) : ScriptState :=
  { state with status := 2, flow := .killed }

/-- After a run apart, only what it wrote and read and its status are kept. -/
def ScriptState.returnTo (inner outer : ScriptState) : ScriptState :=
  { outer with
    top := inner.top
    channels := inner.channels
    sources := inner.sources
    status := inner.status % 256 }

/-- A run apart has no action for its end. -/
def ScriptState.setApart (state : ScriptState) : ScriptState :=
  { state with lastAction := none }

/-- A new channel takes the output. -/
def ScriptState.openChannel (state : ScriptState) : ScriptState :=
  { state with channels := state.channels ++ [[]] }.direct 1 (some (.channel state.channels.length))

/-- The text of the new channel is taken out. -/
def ScriptState.closeChannel (after before : ScriptState) : ScriptState × ScriptText :=
  let number := before.channels.length
  ({ after with
      channels := after.channels.take number
      descriptors := before.descriptors },
    after.channelText number)

/-- A loop ends with the jump that leaves it, and an outer loop may be meant. -/
def ScriptState.leaveLoop (state : ScriptState) : ScriptState :=
  match state.flow with
  | .breaking levels => { state with flow := if levels < 2 then .going else .breaking (levels - 1) }
  | .continuing levels =>
      { state with flow := if levels < 2 then .going else .continuing (levels - 1) }
  | _ => state

/-- A loop goes on after a command that ended well or asked for the next round. -/
def ScriptState.nextRound (state : ScriptState) : ScriptState :=
  if state.flow = .continuing 1 then { state with flow := .going } else state

/-- The words of a command become texts. Some commands take assignments that are not split. -/
def expandCommand (outputOf : OutputOf) (state : ScriptState) (words : List ScriptWord) :
    ScriptState × List ScriptText :=
  match words with
  | [] => (state, [])
  | first :: rest =>
      if ["export", "local"].contains ((plainSpelling first).getD "") then
        words.foldl
          (fun (before, texts) word =>
            match assignment? word with
            | some (name, value) =>
                let (after, text) := expandWhole outputOf before value
                (after, texts ++ [plainText name ++ '=' :: text])
            | none =>
                let (after, more) := expandFields outputOf before [word]
                (after, texts ++ more))
          (state, [])
      else expandFields outputOf state (first :: rest)

/-- Variables are assigned from left to right. -/
def ScriptState.assignAll (outputOf : OutputOf) (state : ScriptState) :
    List (String × ScriptWord) → ScriptState
  | [] => state
  | (name, value) :: rest =>
      let (expanded, text) := expandWhole outputOf state value
      if !expanded.isGoing then expanded
      else (expanded.assign name text).assignAll outputOf rest

/-- Variables get back the values that they had before. -/
def ScriptState.unassignAll (after before : ScriptState)
    (assignments : List (String × ScriptWord)) : ScriptState :=
  assignments.foldl
    (fun current (name, _) => current.restore name (before.assigned.lookup name)) after

/-- A program writes its error messages and its output. What it has read and changed stays so. -/
def ScriptState.accept (state : ScriptState) (tool : String) (outcome : ProgramOutcome) :
    ScriptState :=
  let changed := { state with top := outcome.top.getD state.top }
  let read := if outcome.readsInput then changed.keepInput [] else changed
  let complained := (read.write? 2 outcome.errors).getD read
  match complained.write? 1 outcome.output with
  | some written => written.ends outcome.status
  | none =>
      if outcome.output.isEmpty then complained.ends outcome.status
      else (complained.warn (plainText (tool ++ ": write error: Bad file descriptor"))).ends 1

/-- A new script begins with the values that were exported. -/
def ScriptState.forScript (state : ScriptState) (name : ScriptText)
    (arguments : List ScriptText) : ScriptState :=
  let begun := ScriptState.start name arguments state.top state.place
  { begun with
    assigned := (state.assigned.filter fun entry => state.exported.contains entry.1) ++
      begun.assigned
    exported := state.exported
    descriptors := state.descriptors
    channels := state.channels
    sources := state.sources
    source := state.source }

/-- A fault in the text of a script ends it. -/
def ScriptState.stopAt (state : ScriptState) (fault : ScriptFault) : ScriptState :=
  { state with line := fault.line }.abort (plainText ("Syntax error: " ++ fault.reason))

/-- Named commands do not call one another deeper than this. -/
def callLimit : Nat := 1000

mutual

/-- A command runs unless the script has ended. Its status may be asked for by another command. -/
def runCommand : (fuel : Nat) → (isGuarded : Bool) → ScriptCommand → ScriptState → ScriptState
  | 0, _, _, state => state.giveUp
  | fuel + 1, isGuarded, command, state =>
      if !state.isGoing then state
      else match command with
        | .nothing => state
        | .simple simple => (runSimple fuel isGuarded simple state).check isGuarded
        | .sequence first second =>
            runCommand fuel isGuarded second (runCommand fuel isGuarded first state)
        | .both first second =>
            let after := runCommand fuel true first state
            if after.status = 0 then runCommand fuel isGuarded second after else after
        | .either first second =>
            let after := runCommand fuel true first state
            if after.status = 0 then after else runCommand fuel isGuarded second after
        | .negated inner =>
            let after := runCommand fuel true inner state
            if after.isGoing then after.ends (if after.status = 0 then 1 else 0) else after
        | .aside inner =>
            { runApart fuel true inner (state.openSource []) with
              status := 0, source := state.source }
        | .piped first second =>
            let opened := state.openChannel
            let (after, text) := (runApart fuel true first opened).closeChannel state
            let begun := { after with flow := state.flow }.openSource text
            { runApart fuel true second begun with source := state.source }.check isGuarded
        | .redirected line inner redirections =>
            let begun := { state with line }
            match begun.redirect (captureOutput fuel) redirections with
            | (failed, false) => failed.undirect state redirections
            | (ready, true) =>
                (runCommand fuel isGuarded inner ready).undirect state redirections
        | .apart inner => (runApart fuel isGuarded inner state).check isGuarded
        | .condition question positive negative =>
            let after := runCommand fuel true question state
            if !after.isGoing then after
            else if after.status = 0 then runCommand fuel isGuarded positive after
            else if negative.isNothing then after.ends 0
            else runCommand fuel isGuarded negative after
        | .repeated goesOnWhile question body =>
            let begun := { state with loopDepth := state.loopDepth + 1 }
            let after := runRounds fuel isGuarded goesOnWhile question body 0 begun
            { after with loopDepth := state.loopDepth }
        | .each line name words body =>
            let (expanded, values) := expandFields (captureOutput fuel) { state with line } words
            if !expanded.isGoing then expanded
            else if values.isEmpty then expanded.ends 0
            else
              let begun := { expanded with loopDepth := state.loopDepth + 1 }
              let after := runEach fuel isGuarded name values body begun
              { after with loopDepth := state.loopDepth }
        | .choice line subject branches =>
            let (expanded, text) := expandWhole (captureOutput fuel) { state with line } subject
            if !expanded.isGoing then expanded
            else runBranches fuel isGuarded text branches expanded
        | .definition name body =>
            { state with
              commands := { name, body } ::
                state.commands.filter fun command => command.name != name
              status := 0 }

/-- A simple command replaces its words, redirects, assigns, and then does what its first word
says. -/
def runSimple : (fuel : Nat) → (isGuarded : Bool) → SimpleCommand → ScriptState → ScriptState
  | 0, _, _, state => state.giveUp
  | fuel + 1, isGuarded, command, state =>
      let begun := { state with line := command.line, outputStatus := 0 }
      let (expanded, texts) := expandCommand (captureOutput fuel) begun command.words
      let spelled := spelledText (texts.headD [])
      let isSpecial := !texts.isEmpty && specialCommands.contains spelled
      if !expanded.isGoing then expanded
      else match expanded.redirect (captureOutput fuel) command.redirections with
        | (failed, false) =>
            let after := failed.undirect state command.redirections
            if isSpecial && after.isGoing then { after with flow := .exited } else after
        | (ready, true) =>
            let assigned := ready.assignAll (captureOutput fuel) command.assignments
            match texts with
            | [] =>
                let after := if assigned.isGoing then assigned.ends assigned.outputStatus
                  else assigned
                after.undirect state command.redirections
            | name :: arguments =>
                let names := command.assignments.map Prod.fst
                let called := { assigned with exported := names ++ assigned.exported }
                let after :=
                  if assigned.isGoing then runNamed fuel isGuarded true name arguments called
                  else assigned
                let exported := after.exported.filter fun other =>
                  ready.exported.contains other || !names.contains other
                let unexported := { after with exported }
                let unassigned := if isSpecial then unexported
                  else unexported.unassignAll ready command.assignments
                if spelled = "exec" && arguments.isEmpty then unassigned
                else unassigned.undirect state command.redirections

/-- A command is run by its name, which may be given in the script, and otherwise belongs to the
language or to a program. -/
def runNamed : (fuel : Nat) → (isGuarded isNamed : Bool) → ScriptText → List ScriptText →
    ScriptState → ScriptState
  | 0, _, _, _, _, state => state.giveUp
  | fuel + 1, isGuarded, isNamed, name, arguments, state =>
      let spelled := spelledText name
      match state.commands.find? fun command => isNamed && command.name == spelled with
      | some command =>
          if callLimit ≤ state.callDepth then
            state.abort (plainText "Maximum function recursion depth (1000) reached")
          else
            let begun := { state with
              arguments
              callDepth := state.callDepth + 1
              loopDepth := 0
              hidden := [] }
            let after := (runCommand fuel isGuarded command.body begun).reveal
            { after with
              arguments := state.arguments
              callDepth := state.callDepth
              loopDepth := state.loopDepth
              hidden := state.hidden
              flow := if after.flow = .returning then .going else after.flow }
      | none =>
          match builtinCommand? spelled, program? spelled with
          | some command, _ =>
              let after := command { state with caller := plainText (spelled ++ ": ") } arguments
              { after with caller := state.caller }
          | none, some perform => state.accept spelled (perform state arguments)
          | none, none => runNested fuel isGuarded name arguments state

/-- Some commands run other commands. -/
def runNested : (fuel : Nat) → (isGuarded : Bool) → ScriptText → List ScriptText → ScriptState →
    ScriptState
  | 0, _, _, _, state => state.giveUp
  | fuel + 1, isGuarded, name, arguments, state =>
      match spelledText name, arguments with
      | "eval", texts =>
          let begun := { state.ends 0 with caller := plainText "eval: " }
          let after := runText fuel isGuarded (joinTexts ' ' texts) 1 begun
          { after with caller := state.caller, line := state.line }
      | "exec", [] => state.ends 0
      | "exec", command :: rest =>
          let after := runNamed fuel isGuarded false command rest state
          if after.flow = .killed then after
          else { after with
            flow := .exited
            lastAction := if after.status = 127 then after.lastAction else none }
      | "sh", ['-', 'c'] :: script :: texts =>
          let begun := state.forScript (texts.headD ['s', 'h']) (texts.drop 1)
          (runLast fuel (runText fuel false script 1 begun)).returnTo state
      | _, _ => state.refuse (name ++ plainText ": not found") 127

/-- Every value of a list is given to a name in turn. -/
def runEach : (fuel : Nat) → (isGuarded : Bool) → String → List ScriptText → ScriptCommand →
    ScriptState → ScriptState
  | 0, _, _, _, _, state => state.giveUp
  | _ + 1, _, _, [], _, state => state
  | fuel + 1, isGuarded, name, value :: rest, body, state =>
      let after := (runCommand fuel isGuarded body (state.assign name value)).nextRound
      if after.isGoing then runEach fuel isGuarded name rest body after else after.leaveLoop

/-- A command is repeated while a question has the wanted answer. -/
def runRounds : (fuel : Nat) → (isGuarded goesOnWhile : Bool) → (question body : ScriptCommand) →
    (status : Nat) → ScriptState → ScriptState
  | 0, _, _, _, _, _, state => state.giveUp
  | fuel + 1, isGuarded, goesOnWhile, question, body, status, state =>
      let asked := (runCommand fuel true question state).nextRound
      if !asked.isGoing then asked.leaveLoop
      else if (asked.status == 0) != goesOnWhile then asked.ends status
      else
        let after := (runCommand fuel isGuarded body asked).nextRound
        if after.isGoing then
          runRounds fuel isGuarded goesOnWhile question body after.status after
        else after.leaveLoop

/-- The first branch with a pattern that fits is run. -/
def runBranches : (fuel : Nat) → (isGuarded : Bool) → ScriptText →
    List (List ScriptWord × ScriptCommand) → ScriptState → ScriptState
  | 0, _, _, _, state => state.giveUp
  | _ + 1, _, _, [], state => state.ends 0
  | fuel + 1, isGuarded, text, ([], _) :: rest, state => runBranches fuel isGuarded text rest state
  | fuel + 1, isGuarded, text, (word :: words, body) :: rest, state =>
      let (expanded, pieces) := expandPieces (captureOutput fuel) state word
      if !expanded.isGoing then expanded
      else if fitsPattern (patternOf (wholeMarked pieces)) text then
        if body.isNothing then expanded.ends 0 else runCommand fuel isGuarded body expanded
      else runBranches fuel isGuarded text ((words, body) :: rest) expanded

/-- A command runs with a state of its own. -/
def runApart : (fuel : Nat) → (isGuarded : Bool) → ScriptCommand → ScriptState → ScriptState
  | 0, _, _, state => state.giveUp
  | fuel + 1, isGuarded, command, state =>
      (runLast fuel (runCommand fuel isGuarded command state.setApart)).returnTo state

/-- The lines of a script run one after the other, up to a fault in their text. -/
def runLines : (fuel : Nat) → (isGuarded : Bool) → List PlacedToken → ScriptState → ScriptState
  | 0, _, _, state => state.giveUp
  | fuel + 1, isGuarded, tokens, state =>
      if !state.isGoing then state
      else match nextToken tokens with
        | .finish => state
        | _ =>
            match readScriptLine (tokens.length + 1) tokens with
            | .error fault => state.stopAt fault
            | .ok (line, rest) =>
                runLines fuel isGuarded rest (runCommand fuel isGuarded line state)

/-- A script runs from a line on. -/
def runText : (fuel : Nat) → (isGuarded : Bool) → ScriptText → (line : Nat) → ScriptState →
    ScriptState
  | 0, _, _, _, state => state.giveUp
  | fuel + 1, isGuarded, script, line, state =>
      runLines fuel isGuarded (scriptTokens script line) state

/-- At its end a run performs the action that was kept for it. -/
def runLast : (fuel : Nat) → ScriptState → ScriptState
  | 0, state => state.giveUp
  | fuel + 1, state =>
      match state.lastAction.filter fun _ => state.flow != .killed with
      | none => state
      | some action =>
          let begun := { state with lastAction := none, caller := [], flow := .going }
          let after := runText fuel false action 1 begun
          if after.flow = .going then { after with status := state.status, flow := .exited }
          else after

/-- The output of a script inside a script is taken. A fault in its text ends the outer one. -/
def captureOutput : (fuel : Nat) → ScriptState → ScriptText → (line : Nat) →
    ScriptState × ScriptText
  | 0, state, _, _ => (state.giveUp, [])
  | fuel + 1, state, script, line =>
      match (ScriptProgram.read script line).fault with
      | some fault => (state.stopAt fault, [])
      | none =>
          let begun := state.setApart.openChannel
          let inner := runLast fuel (runText fuel false script line begun)
          let (closed, text) := inner.closeChannel state
          ({ closed.returnTo state with
              status := state.status
              outputStatus := inner.status % 256 },
            text)

end

/-- A script that does not end within so many steps is given up. -/
def scriptFuel : Nat := 10000000

/-- This is what is left when a script has run in a directory, with all entries. -/
def runScript (name : ScriptText) (arguments : List ScriptText) (top : Entry) (place : Place)
    (content : Bytes) : CommandOutcome × Entry :=
  let begun := ScriptState.start name arguments top place
  let ended := runLast scriptFuel (runText scriptFuel false (scriptText content) 1 begun)
  ({ succeeded := ended.status % 256 == 0 && ended.flow != .killed
     output := scriptBytes (ended.channelText 0)
     errors := scriptBytes (ended.channelText 1) },
    ended.top)

/-- Without a script, a directory is under no version control. -/
def scriptedVersionControl (scriptName : String) (tree : FileTree) (place : Place)
    (arguments : List String) : CommandOutcome × FileTree :=
  match tree.top.follow true linkLimit place [scriptName] with
  | .ok (_, .file content) =>
      let (outcome, top) := runScript (plainText ("./" ++ scriptName)) (arguments.map plainText)
        tree.top place content
      (outcome, { tree with top })
  | _ => (
      { succeeded := false, output := [], errors := utf8Bytes "fatal: not a git repository\n" },
      tree)

/-- A host may find its version control program as a script in each directory. -/
def Host.scripted (tree : FileTree) (instant : Int) (scriptName : String) : Host where
  tree := tree
  instant := instant
  versionControl := fun current place arguments =>
    some (scriptedVersionControl scriptName current place arguments)

end RoutineAtlas
