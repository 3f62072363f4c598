import RoutineAtlas.Host.Script.Expansion

/-
This file redirects the descriptors of small scripts. A redirection leads to a file, to another
descriptor or to nowhere, and a file that cannot be used is complained about.
-/

namespace RoutineAtlas

/-- A descriptor leads to another sink, or it is closed. -/
def ScriptState.direct (state : ScriptState) (descriptor : Nat) (sink : Option ScriptSink) :
    ScriptState :=
  { state with
    descriptors := (sink.toList.map fun target => (descriptor, target)) ++
      state.descriptors.filter fun entry => entry.1 != descriptor }

/-- A file that is written to need not be there, but its directory has to be. -/
def ScriptState.writingPlace (state : ScriptState) (name : ScriptText) : Except String Place :=
  let start := state.startOf name
  let steps := pathSteps (scriptBytes name)
  match state.top.follow true linkLimit start steps, steps.getLast? with
  | _, none => .error "Directory nonexistent"
  | .ok (_, .directory _), some _ => .error "Is a directory"
  | .ok (place, _), some _ => .ok place
  | .error _, some last =>
      match state.top.follow true linkLimit start steps.dropLast with
      | .ok (place, .directory _) =>
          if last = [] then .error "Is a directory" else .ok (place ++ [last])
      | _ => .error "Directory nonexistent"

/-- A descriptor leads to a file, which may be emptied before. -/
def ScriptState.directToFile (state : ScriptState) (descriptor : Nat) (name : ScriptText)
    (isEmptied : Bool) : ScriptState × Bool :=
  match state.writingPlace name with
  | .error reason =>
      let message := plainText "cannot create " ++ name ++ plainText (": " ++ reason)
      (state.refuse message 2, false)
  | .ok place =>
      match state.top.at? place with
      | some .device => (state.direct descriptor (some .nowhere), true)
      | present =>
          let content := match present with
            | some (.file content) => if isEmptied then [] else content
            | _ => []
          let written := { state with top := Entry.put place (.file content) state.top }
          (written.direct descriptor (some (.file place)), true)

/-- The input comes from a file. -/
def ScriptState.takeInput (state : ScriptState) (descriptor : Nat) (name : ScriptText) :
    ScriptState × Bool :=
  let give (text : ScriptText) : ScriptState × Bool :=
    (if descriptor = 0 then state.openSource text else state, true)
  match state.entry? name with
  | some (.file content) => give (scriptText content)
  | some _ => give []
  | none =>
      let message := plainText "cannot open " ++ name ++ plainText ": No such file"
      (state.refuse message 2, false)

/-- A descriptor becomes a copy of another, or it is closed. A complaint is lost when it concerns
the descriptor for complaints. -/
def ScriptState.copyDescriptor (state : ScriptState) (descriptor : Nat) (text : ScriptText) :
    ScriptState × Bool :=
  if text = ['-'] then
    (if descriptor = 0 then { state with source := none } else state.direct descriptor none, true)
  else match readNatural? text with
    | some 0 => (state, true)
    | some other =>
        match state.descriptors.lookup other with
        | some sink => (state.direct descriptor (some sink), true)
        | none =>
            let message := text ++ plainText ": Bad file descriptor"
            ((if descriptor = 2 then state.direct 2 none else state).refuse message 2, false)
    | none => (state.refuse (plainText "Syntax error: Bad fd number") 2, false)

/-- One redirection takes place, unless its word or its file cannot be used. -/
def ScriptState.redirectOne (outputOf : OutputOf) (state : ScriptState)
    (redirection : Redirection) : ScriptState × Bool :=
  let (expanded, text) := expandWhole outputOf state redirection.word
  if !expanded.isGoing then (expanded, false)
  else match redirection.kind with
    | .reading => expanded.takeInput redirection.descriptor text
    | .writing => expanded.directToFile redirection.descriptor text true
    | .appending => expanded.directToFile redirection.descriptor text false
    | .copying => expanded.copyDescriptor redirection.descriptor text
    | .document =>
        (if redirection.descriptor = 0 then expanded.openSource text else expanded, true)

/-- Redirections take place from left to right, until one of them cannot. -/
def ScriptState.redirect (outputOf : OutputOf) (state : ScriptState) :
    List Redirection → ScriptState × Bool
  | [] => (state, true)
  | redirection :: rest =>
      match state.redirectOne outputOf redirection with
      | (ready, true) => ready.redirect outputOf rest
      | (failed, false) => (failed, false)

/-- The input is redirected by one of the redirections. -/
def redirectsInput (redirections : List Redirection) : Bool :=
  redirections.any fun redirection => redirection.descriptor == 0

/-- After a command, the descriptors that it redirected lead where they led before it. -/
def ScriptState.undirect (after before : ScriptState) (redirections : List Redirection) :
    ScriptState :=
  let directed := redirections.foldl
    (fun current redirection =>
      current.direct redirection.descriptor (before.descriptors.lookup redirection.descriptor))
    after
  { directed with source := if redirectsInput redirections then before.source else after.source }

end RoutineAtlas
