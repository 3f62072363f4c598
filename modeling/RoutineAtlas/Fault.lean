import RoutineAtlas.Setting
import RoutineAtlas.Files.AccessFault
import RoutineAtlas.Files.PathText

/-
This file lists the causes for which a query fails, and words each of them in one place.
-/

namespace RoutineAtlas

/-- An input fault says what is wrong with something that was typed. -/
inductive InputFault where
  | blankRoutine
  | routineIsPath (typed : String)
  | routineWithoutStem (typed : String)
  | routineWithoutBody (typed : String)
  | unknownEnvironment (token : String)
  | unknownAction (token : String)
  | blankTable
  | tableCharacters (table : String)
  | zeroCap
  deriving DecidableEq, Repr

/-- These are the accepted spellings of an environment. -/
def environmentTokens : String :=
  "staging|hml, production|prod|prd, standard|vendor|padrao, auto"

/-- These are the accepted spellings of an action. -/
def actionTokens : String :=
  "locate, structure, report, source, git_status"

/-- The message of an input fault quotes what was typed. -/
def InputFault.message : InputFault → String
  | .blankRoutine => "routine name must be a non-empty string"
  | .routineIsPath typed =>
      "routine name '" ++ typed ++ "' must be a bare file name, not a path"
  | .routineWithoutStem typed =>
      "routine name '" ++ typed ++ "' has no name before its extension"
  | .routineWithoutBody typed =>
      "routine name '" ++ typed ++ "' has nothing after the U_ prefix"
  | .unknownEnvironment token =>
      "unknown environment '" ++ token ++ "'. Valid values: " ++ environmentTokens
  | .unknownAction token =>
      "unknown action '" ++ token ++ "'. Valid values: " ++ actionTokens
  | .blankTable => "table name must be a non-empty string"
  | .tableCharacters table =>
      "table name '" ++ table ++ "' may only contain letters, digits and underscores"
  | .zeroCap => "max_results must be at least 1"

/-- A configuration fault is a document that does not fit or a row cap that is no number. -/
inductive ConfigurationFault where
  | unacceptableDocument (path : PathName)
  | rowCap (value : String)
  deriving DecidableEq, Repr

/-- The message of a configuration fault names the file or the setting. -/
def ConfigurationFault.message : ConfigurationFault → String
  | .unacceptableDocument path => path.display ++ ": not an acceptable configuration document"
  | .rowCap value =>
      Setting.maxResults.variable ++ " must be a positive integer, got '" ++ value ++ "'"

/-- A fault ends a query. What is merely not found is no fault. -/
inductive Fault where
  | input (cause : InputFault)
  | rootMissing (setting : Setting)
  | configuration (cause : ConfigurationFault)
  | access (cause : AccessFault)
  deriving DecidableEq, Repr

/-- The message of a fault starts with its kind. -/
def Fault.message : Fault → String
  | .input cause => "invalid input: " ++ cause.message
  | .rootMissing setting => "environment root not configured: set " ++ setting.variable
  | .configuration cause => "configuration error: " ++ cause.message
  | .access cause => "I/O error: " ++ cause.message

/-- An input error is one that its caller can mend by asking differently. -/
def Fault.isInputError : Fault → Bool
  | .input _ => true
  | .rootMissing _ => true
  | .configuration _ => false
  | .access _ => false

end RoutineAtlas
