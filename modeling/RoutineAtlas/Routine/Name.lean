import RoutineAtlas.Fault
import RoutineAtlas.Text.AsciiCase
import RoutineAtlas.Text.BlankCharacter
import RoutineAtlas.Text.Extension
import RoutineAtlas.Text.UpperCase

/-
This file reads the name of a routine as somebody types it, and lists the file names under which
its source may be stored. A customer's routine bears the custom mark in front of its name.
-/

namespace RoutineAtlas

/-- The custom mark stands in front of the names that customers give. -/
def customMark : String := "U_"

/-- The files of these extensions hold sources. -/
def sourceExtensions : List String := ["prw", "prx", "prg"]

/-- The extension of a source file may be written in any case. -/
def isSourceExtension (extension : String) : Bool :=
  holdsIgnoringCase sourceExtensions extension

/-- The custom mark may be written with a small letter. -/
def afterMark? : List Char → Option (List Char)
  | first :: second :: rest => if first.toUpper = 'U' ∧ second = '_' then some rest else none
  | _ => none

/-- This says that a name bears the custom mark. -/
def hasMark (name : List Char) : Bool :=
  (afterMark? name).isSome

/-- This is the name without one custom mark. -/
def withoutMark (name : List Char) : List Char :=
  (afterMark? name).getD name

/-- This is the name without one source extension. -/
def withoutExtension (name : List Char) : List Char :=
  match splitAtLast '.' name with
  | some (stem, extension) =>
      if isSourceExtension (String.ofList extension) then stem else name
  | none => name

/-- These characters would lead out of a directory. -/
def isPathCharacter (character : Char) : Bool :=
  character == '/' || character == '\\' || character == ':' || character == Char.ofNat 0

/-- Two dots in a row name the directory above. -/
def hasDoubleDot : List Char → Bool
  | [] => false
  | character :: rest => (character == '.' && rest.head? == some '.') || hasDoubleDot rest

/-- A routine name keeps what was typed and its base, the name without an extension. -/
structure RoutineName where
  typed : String
  base : String
  deriving DecidableEq, Repr

/-- A name is refused when it is blank, when it is a path, or when nothing is left of it. -/
def RoutineName.parse (typed : String) : Except Fault RoutineName :=
  let trimmed := trimCharacters typed.toList
  let shown := String.ofList trimmed
  let base := withoutExtension trimmed
  if trimmed.isEmpty then .error (.input .blankRoutine)
  else if trimmed.any isPathCharacter || hasDoubleDot trimmed then
    .error (.input (.routineIsPath shown))
  else if base.isEmpty then .error (.input (.routineWithoutStem shown))
  else if (withoutMark base).isEmpty then .error (.input (.routineWithoutBody shown))
  else .ok { typed, base := String.ofList base }

/-- This is the base in upper case. -/
def RoutineName.baseUpper (name : RoutineName) : String :=
  upperCase name.base

/-- This is the base without its mark. -/
def RoutineName.plain (name : RoutineName) : String :=
  String.ofList (withoutMark name.base.toList)

/-- This is the base with exactly the mark that was there or a new one. -/
def RoutineName.marked (name : RoutineName) : String :=
  customMark ++ name.plain

/-- A name is custom when it was typed with the mark. -/
def RoutineName.isMarked (name : RoutineName) : Bool :=
  hasMark name.base.toList

/-- All spellings of one routine share its key. -/
def RoutineName.key (name : RoutineName) : String :=
  upperCase name.plain

/-- These endings are tried for each form of a name, in this order. -/
def spellingEndings : List String :=
  ["", ".prw", ".PRW", ".prx", ".PRX", ".prg", ".PRG"]

/-- These are the four forms of a name, in the order in which they are tried. -/
def RoutineName.forms (name : RoutineName) : List String :=
  [name.base, name.baseUpper, name.marked, name.plain]

/-- The spellings are the forms with all endings, each spelling once. -/
def RoutineName.spellings (name : RoutineName) : List String :=
  (name.forms.flatMap fun form => spellingEndings.map fun ending => form ++ ending).eraseDups

/-- Dropping the mark of a marked name leaves what stands behind the two characters. -/
theorem afterMark_eq_some {name rest : List Char} :
    afterMark? name = some rest ↔
      ∃ first : Char, first.toUpper = 'U' ∧ name = first :: '_' :: rest := by
  match name with
  | [] => simp [afterMark?]
  | [_] => simp [afterMark?]
  | first :: second :: others =>
      by_cases marked : first.toUpper = 'U' ∧ second = '_'
      · obtain ⟨letter, rfl⟩ := marked
        simp only [afterMark?, letter, and_self, if_true, Option.some.injEq, List.cons.injEq,
          true_and]
        constructor
        · rintro rfl
          exact ⟨first, letter, rfl, rfl⟩
        · rintro ⟨_, _, _, same⟩
          exact same
      · simp only [afterMark?, marked, if_false, List.cons.injEq]
        constructor
        · simp
        · rintro ⟨other, letter, rfl, rfl, _⟩
          exact absurd ⟨letter, rfl⟩ marked

end RoutineAtlas
