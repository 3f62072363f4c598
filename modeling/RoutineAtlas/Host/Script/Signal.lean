import RoutineAtlas.Host.Script.State

/-
This file holds the signals that a small script can send to itself, and the action that it keeps for
its end.
-/

namespace RoutineAtlas

/-- Signals have names and numbers. -/
def signalNumbers : List (String × Nat) :=
  [("EXIT", 0), ("HUP", 1), ("INT", 2), ("QUIT", 3), ("KILL", 9), ("TERM", 15)]

/-- A signal is given by its name or number. -/
def signalNumber? (text : ScriptText) : Option Nat :=
  (readNatural? text).or (signalNumbers.lookup (spelledText text))

/-- A signal is sent to the script itself, which ends by it. -/
def ScriptState.sendSignal (state : ScriptState) (arguments : List ScriptText) : ScriptState :=
  match arguments with
  | ('-' :: name) :: target :: _ =>
      match signalNumber? name with
      | some number =>
          if readNatural? target = some processNumber then
            { state with status := 128 + number, flow := .killed }
          else state.refuse (plainText "No such process\n") 1
      | none => state.refuse (plainText "invalid signal number or name: " ++ name) 2
  | _ => state.refuse (plainText "invalid signal number or name") 2

/-- An action is kept for the end of the script, or none. -/
def ScriptState.setAction (state : ScriptState) (arguments : List ScriptText) : ScriptState :=
  match arguments with
  | [action, signal] =>
      if signalNumber? signal = some 0 then
        { state with lastAction := if action = ['-'] then none else some action, status := 0 }
      else state.refuse (signal ++ plainText ": bad trap") 1
  | _ => state.ends 0

end RoutineAtlas
