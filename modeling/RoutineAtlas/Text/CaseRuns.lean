/-
This file reads a case mapping that is written in runs. In a run the code points lie one or two
apart, and so do their partners.
-/

namespace RoutineAtlas

/-- A run holds its first and last code point, their distance and the partner of the first. -/
abbrev CaseRuns := List (Nat × Nat × Nat × Nat)

/-- The runs are ascending, so the first run that does not lie below the code point decides. -/
def CaseRuns.partner : CaseRuns → Nat → Option Nat
  | [], _ => none
  | (first, last, distance, target) :: rest, code =>
      if code ≤ last then
        if first ≤ code ∧ (code - first) % distance = 0 then some (target + (code - first))
        else none
      else CaseRuns.partner rest code

end RoutineAtlas
