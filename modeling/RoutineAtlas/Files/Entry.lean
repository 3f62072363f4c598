import RoutineAtlas.Files.Path

/-
This file holds the entries of a file tree as values.
-/

namespace RoutineAtlas

/-- A folder has named entries. It may be closed to whoever asks for the names, and to whoever asks
for an entry by its name. -/
structure Folder (A : Type) where
  entries : List (PathName × A)
  mayList : Bool := true
  maySearch : Bool := true

/-- A file has content, a link has a target, and a directory has named entries. A device takes what
is written to it and has nothing to read. -/
inductive Entry where
  | file (content : Bytes)
  | device
  | link (target : PathName)
  | directory (folder : Folder Entry)
  deriving Inhabited

/-- The first entry of a name is the one that the name stands for. -/
def childNamed (name : PathName) (folder : Folder Entry) : Option Entry :=
  folder.entries.lookup name

/-- A new entry takes the place of the one that had its name. -/
def putChild (name : PathName) (entry : Entry) (folder : Folder Entry) : Folder Entry :=
  { folder with
    entries := (name, entry) :: folder.entries.filter fun child => child.1 != name }

/-- This is the entry at the end of the steps, each of which must be a name in a directory. -/
def Entry.at? : Entry → List PathName → Option Entry
  | entry, [] => some entry
  | .directory folder, step :: rest => (childNamed step folder).bind fun child => child.at? rest
  | _, _ :: _ => none

/-- An empty directory is open to everybody. -/
def Entry.emptyDirectory : Entry :=
  .directory { entries := [] }

/-- An entry is put in place, and the directories on the way to it are made. -/
def Entry.put : List PathName → Entry → Entry → Entry
  | [], entry, _ => entry
  | step :: rest, entry, .directory folder =>
      .directory (putChild step
        (Entry.put rest entry ((childNamed step folder).getD .emptyDirectory)) folder)
  | step :: rest, entry, _ =>
      .directory { entries := [(step, Entry.put rest entry .emptyDirectory)] }

/-- An entry is removed with everything below it. -/
def Entry.erase : List PathName → Entry → Entry
  | [step], .directory folder =>
      .directory { folder with entries := folder.entries.filter fun child => child.1 != step }
  | step :: next :: rest, .directory folder =>
      match childNamed step folder with
      | some child => .directory (putChild step (Entry.erase (next :: rest) child) folder)
      | none => .directory folder
  | _, entry => entry

/-- Names are ordered by their bytes. -/
instance (first second : PathName) : Decidable (first < second) :=
  List.decidableLT first second

/-- An entry is inserted in the order of names, and it takes the place of one of its name. -/
def insertChild (child : PathName × Entry) : List (PathName × Entry) → List (PathName × Entry)
  | [] => [child]
  | first :: rest =>
      if child.1 < first.1 then child :: first :: rest
      else if child.1 = first.1 then child :: rest
      else first :: insertChild child rest

/-- The listing of a directory holds each name once, with the entry that it stands for. A directory
that may not be listed shows nothing. -/
def listing (folder : Folder Entry) : List (PathName × Entry) :=
  if folder.mayList then folder.entries.foldr insertChild [] else []

end RoutineAtlas
