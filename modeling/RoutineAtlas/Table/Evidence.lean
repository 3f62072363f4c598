import RoutineAtlas.Table.Category
import RoutineAtlas.Table.Name

/-
This file looks in an upper-case text for references to a table, and for the calls that lock,
change and delete its records.
-/

namespace RoutineAtlas

/-- The phrase is the table's name as a whole word. -/
def TableName.word (table : TableName) : Recognizer :=
  afterWord table.label

/-- The phrase is an argument list that is the table's name between quotes. -/
def TableName.quotedArgument (table : TableName) : Recognizer := fun text => do
  let argument ← afterLiteral "(" text
  let closing ← afterQuoted table.label argument
  afterSpaced ")" closing

/-- The phrase selects the table as the work area. -/
def TableName.selection (table : TableName) : Recognizer := fun text => do
  let call ← afterLiteral "DBSELECTAREA" text
  table.quotedArgument (skipBlanks call)

/-- The phrase is the table's name and the arrow to a field or an expression. -/
def TableName.arrow (table : TableName) : Recognizer := fun text => do
  let name ← afterLiteral table.label text
  afterSpaced "->" name

/-- The phrase opens a call that locks a record of the table, up to the second argument. -/
def TableName.lock (table : TableName) : Recognizer := fun text => do
  let call ← afterLiteral "RECLOCK" text
  let argument ← afterSpaced "(" call
  let closing ← afterQuoted table.label argument
  let comma ← afterSpaced "," closing
  pure (skipBlanks comma)

/-- The phrase locks a new record. -/
def TableName.lockForInsert (table : TableName) : Recognizer := fun text => do
  let second ← table.lock text
  afterLiteral ".T." second

/-- The phrase locks a record that exists. -/
def TableName.lockForUpdate (table : TableName) : Recognizer := fun text => do
  let second ← table.lock text
  afterLiteral ".F." second

/-- The phrase opens a call that deletes the current record. -/
def deleteCall : Recognizer := fun text => do
  let call ← afterLiteral "DBDELETE" text
  afterSpaced "(" call

/-- The phrase deletes the current record of the table by name. -/
def TableName.deleteByArrow (table : TableName) : Recognizer := fun text => do
  let expression ← table.arrow text
  let inside ← afterSpaced "(" expression
  deleteCall (skipBlanks inside)

/-- A deletion counts for a lock when no more than this many characters lie between them. -/
def deleteReach : Nat := 400

/-- The phrase begins after a gap of at most the given number of characters. -/
def occursWithin (recognizer : Recognizer) : (gap : Nat) → Recognizer
  | 0, text => recognizer text
  | gap + 1, text =>
      match recognizer text with
      | some rest => some rest
      | none =>
          match text with
          | [] => none
          | _ :: rest => occursWithin recognizer gap rest

/-- The phrase locks a record that exists and deletes it shortly after. -/
def TableName.deleteAfterLock (table : TableName) : Recognizer := fun text => do
  let locked ← table.lockForUpdate text
  let gap ← afterSpaced ")" locked
  occursWithin deleteCall deleteReach gap

/-- A text refers to a table in any of four ways. -/
def TableName.isReferenced (table : TableName) (upper : String) : Bool :=
  holdsAtWordStart table.word upper || holdsPhrase table.selection upper ||
    holdsPhrase table.quotedArgument upper || holdsAtWordStart table.arrow upper

/-- This is the number of places where the table's name stands as a whole word. -/
def TableName.occurrences (table : TableName) (upper : String) : Nat :=
  countAtWordStart table.word false upper.toList

/-- The flags are gathered from an upper-case text. -/
def TableName.flags (table : TableName) (upper : String) : UsageMarks where
  hasBrowse := holdsWord browseWords upper
  hasInsert := holdsPhrase table.lockForInsert upper
  hasUpdate := holdsPhrase table.lockForUpdate upper
  hasDelete :=
    holdsAtWordStart table.deleteByArrow upper || holdsPhrase table.deleteAfterLock upper

end RoutineAtlas
