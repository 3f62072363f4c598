import RoutineAtlas.Files.Path

/-
This file holds the configuration: the roots of the environments and the limits of a search.
-/

namespace RoutineAtlas

/-- Each environment may have a root. -/
structure Roots where
  staging : Option PathName
  production : Option PathName
  standard : Option PathName
  deriving DecidableEq, Repr

/-- The limits say how many rows are answered and how deep the walks go. -/
structure SearchLimits where
  maxResults : Nat
  routineDepth : Nat
  tableDepth : Nat
  discoveryDepth : Nat
  deriving DecidableEq, Repr

/-- A configuration has roots and limits. -/
structure Configuration where
  roots : Roots
  search : SearchLimits
  deriving DecidableEq, Repr

/-- No root is configured at first. -/
def Roots.unset : Roots where
  staging := none
  production := none
  standard := none

/-- These limits hold when nothing else is said. -/
def SearchLimits.usual : SearchLimits where
  maxResults := 50
  routineDepth := 5
  tableDepth := 12
  discoveryDepth := 3

/-- This is the configuration without a file and without settings. -/
def Configuration.usual : Configuration where
  roots := .unset
  search := .usual

end RoutineAtlas
