/-
This file lets a piece of work be done once. The vendor's leads are learned behind this gate.
-/

namespace RoutineAtlas

/-- The work is still to be done, being done, or done. -/
inductive GateState where
  | notStarted
  | inProgress
  | completed
  deriving DecidableEq, Repr

/-- This is the state's name in answers. -/
def GateState.label : GateState → String
  | .notStarted => "not_started"
  | .inProgress => "in_progress"
  | .completed => "completed"

/-- The work sees the gate in progress, and the gate counts it as done however it ends. -/
def GateState.enter {A : Type} (state : GateState) (work : GateState → A) :
    Option A × GateState :=
  match state with
  | .notStarted => (some (work .inProgress), .completed)
  | .inProgress => (none, .completed)
  | .completed => (none, .completed)

/-- After a run the gate is closed. -/
@[simp] theorem GateState.enter_state {A : Type} (state : GateState)
    (work : GateState → A) : (state.enter work).2 = .completed := by
  cases state <;> rfl

end RoutineAtlas
