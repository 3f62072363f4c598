import RoutineAtlas.Files.Scan
import RoutineAtlas.Lookup.Root
import RoutineAtlas.Lookup.VersionControl
import RoutineAtlas.Origin.Classifier
import RoutineAtlas.Outline.Basic
import RoutineAtlas.Routine.Aspect
import RoutineAtlas.Table.Search

/-
This file holds queries and the answers to them.
-/

namespace RoutineAtlas

/-- A routine query names a routine and says what to tell about it. -/
structure RoutineQuery where
  routine : String
  environment : Environment
  root : Option PathName
  aspect : RoutineAspect
  deriving DecidableEq, Repr

/-- A table query names a table and says which routines to list. -/
structure TableQuery where
  table : String
  environment : Environment
  root : Option PathName
  includeStandard : Bool
  maxResults : Option Nat
  deriving DecidableEq, Repr

/-- What is told about a routine depends on the aspect. -/
inductive RoutineDetail where
  | place
  | outline (outline : Outline)
  | report (text : String) (outline : Outline)
  | source (text : String)
  | versionControl (status : VersionControlStatus)
  deriving DecidableEq, Repr

/-- This is the aspect to which a detail belongs. -/
def RoutineDetail.aspect : RoutineDetail → RoutineAspect
  | .place => .locate
  | .outline _ => .outline
  | .report _ _ => .report
  | .source _ => .source
  | .versionControl _ => .versionControl

/-- The data of a routine that was found. -/
structure RoutineFacts where
  routine : String
  path : PathName
  detail : RoutineDetail
  deriving DecidableEq, Repr

/-- A table's provenance counts what the rows do not show. -/
structure TableFacts where
  table : String
  summary : List (UsageCategory × Nat)
  limitReached : Bool
  standardExcluded : Nat
  deriving DecidableEq, Repr

/-- The subject of an answer is a routine, which may be classified, or a table. -/
inductive Subject where
  | routine (name : String) (classification : Option (Origin × Ground))
  | table (facts : TableFacts)
  deriving DecidableEq, Repr

/-- The provenance tells where an answer comes from. -/
structure Provenance where
  place : NamedRoot
  subject : Subject
  deriving DecidableEq, Repr

/-- The account explains why nothing was found. -/
structure SearchAccount where
  searchedRoot : PathName
  attempted : List String
  filesScanned : Nat
  skipped : List String
  deriving DecidableEq, Repr

/-- An answer holds data, or an account of the search that found nothing. -/
inductive Finding (A : Type) where
  | found (data : A)
  | nothing (account : SearchAccount)
  deriving DecidableEq, Repr

/-- Every answer has a message and provenance. -/
structure Answer (A : Type) where
  message : String
  provenance : Provenance
  finding : Finding A
  deriving DecidableEq, Repr

/-- This is the data of an answer. -/
def Answer.data? {A : Type} (answer : Answer A) : Option A :=
  match answer.finding with
  | .found data => some data
  | .nothing _ => none

/-- This is the account of an answer. -/
def Answer.account? {A : Type} (answer : Answer A) : Option SearchAccount :=
  match answer.finding with
  | .found _ => none
  | .nothing account => some account

/-- An answer is positive when the query found what it asked for. -/
def Answer.isPositive {A : Type} (answer : Answer A) : Bool :=
  answer.data?.isSome

/-- An answer has data or an account, and not both. -/
theorem Answer.isPositive_eq {A : Type} (answer : Answer A) :
    answer.isPositive = answer.account?.isNone := by
  cases answer with
  | mk message provenance finding => cases finding <;> rfl

end RoutineAtlas
