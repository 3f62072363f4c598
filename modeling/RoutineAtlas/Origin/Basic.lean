/-
This file tells the vendor's routines from those of customers.
-/

namespace RoutineAtlas

/-- A standard routine ships with the vendor, a custom one is a customer's. -/
inductive Origin where
  | standard
  | custom
  deriving DecidableEq, Repr

/-- This is the origin's name in answers. -/
def Origin.label : Origin → String
  | .standard => "standard"
  | .custom => "custom"

end RoutineAtlas
