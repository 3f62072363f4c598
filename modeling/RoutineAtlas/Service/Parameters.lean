import RoutineAtlas.Configuration.Reading
import RoutineAtlas.Document.Basic

/-
This file reads the parameters of tools from documents. A list gives the parameters in order, and
a record gives them by name. A document that does not fit has no reading.
-/

namespace RoutineAtlas

/-- A list is a record whose fields are named by their positions, and it has no others. -/
def Document.parameters? (names : List String) :
    Document → Option (List (String × Document))
  | .record fields => some fields
  | .list items => if names.length < items.length then none else some (names.zip items)
  | _ => none

/-- This is a text parameter. -/
def Document.text? : Document → Option String
  | .text value => some value
  | _ => none

/-- This is a path parameter, which is given as text. -/
def Document.path? (document : Document) : Option PathName :=
  document.text?.map utf8Bytes

/-- This is a parameter that is true or false. -/
def Document.bool? : Document → Option Bool
  | .bool value => some value
  | _ => none

/-- A count is a number that is not negative and has 64 bits. -/
def Document.count? : Document → Option Nat
  | .number (.ofNat value) => if value < numberLimit then some value else none
  | _ => none

/-- A parameter that must be there. -/
def requiredParameter {A : Type} (read : Document → Option A) (name : String)
    (fields : List (String × Document)) : Option A :=
  (fields.lookup name).bind read

/-- A parameter that may be absent or null. -/
def optionalParameter {A : Type} (read : Document → Option A) (name : String)
    (fields : List (String × Document)) : Option (Option A) :=
  match fields.lookup name with
  | none => some none
  | some .null => some none
  | some value => (read value).map some

/-- A switch is off when it is absent, and it is never null. -/
def switchParameter (name : String) (fields : List (String × Document)) : Option Bool :=
  match fields.lookup name with
  | none => some false
  | some value => value.bool?

/-- These parameters ask for a routine. -/
structure FindParameters where
  routine : String
  environment : Option String
  root : Option PathName
  action : Option String
  deriving DecidableEq, Repr

/-- These parameters ask for the routines that use a table. -/
structure SearchParameters where
  table : String
  environment : Option String
  root : Option PathName
  includeStandard : Option Bool
  maxResults : Option Nat
  deriving DecidableEq, Repr

/-- These parameters ask for the environments. -/
structure EnvironmentsParameters where
  discover : Bool
  deriving DecidableEq, Repr

/-- These are the parameters of a lookup in order. -/
def FindParameters.names : List String :=
  ["routine", "environment", "root", "action"]

/-- These are the parameters of a search in order. -/
def SearchParameters.names : List String :=
  ["table", "environment", "root", "include_standard", "max_results"]

/-- These are the parameters of the environments in order. -/
def EnvironmentsParameters.names : List String :=
  ["discover"]

/-- Only the routine is required. -/
def FindParameters.read (document : Document) : Option FindParameters := do
  let fields ← document.parameters? FindParameters.names
  pure {
    routine := ← requiredParameter Document.text? "routine" fields
    environment := ← optionalParameter Document.text? "environment" fields
    root := ← optionalParameter Document.path? "root" fields
    action := ← optionalParameter Document.text? "action" fields }

/-- Only the table is required. -/
def SearchParameters.read (document : Document) : Option SearchParameters := do
  let fields ← document.parameters? SearchParameters.names
  pure {
    table := ← requiredParameter Document.text? "table" fields
    environment := ← optionalParameter Document.text? "environment" fields
    root := ← optionalParameter Document.path? "root" fields
    includeStandard := ← optionalParameter Document.bool? "include_standard" fields
    maxResults := ← optionalParameter Document.count? "max_results" fields }

/-- Nothing is required. -/
def EnvironmentsParameters.read (document : Document) : Option EnvironmentsParameters := do
  let fields ← document.parameters? EnvironmentsParameters.names
  pure { discover := ← switchParameter "discover" fields }

end RoutineAtlas
