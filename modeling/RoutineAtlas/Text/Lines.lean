/-
This file cuts a sequence into lines. It serves texts and raw bytes alike.
-/

namespace RoutineAtlas

/-- A line ends before each mark, and an empty rest after the last mark is no line. -/
def cutLines {A : Type} [DecidableEq A] (mark : A) (sequence : List A) : List (List A) :=
  sequence.foldr
    (fun element lines =>
      if element = mark then [] :: lines
      else match lines with
        | [] => [[element]]
        | line :: others => (element :: line) :: others)
    []

@[simp] theorem cutLines_nil {A : Type} [DecidableEq A] (mark : A) :
    cutLines mark [] = [] := rfl

theorem cutLines_mark {A : Type} [DecidableEq A] (mark : A) (rest : List A) :
    cutLines mark (mark :: rest) = [] :: cutLines mark rest := by
  simp [cutLines]

theorem cutLines_cons {A : Type} [DecidableEq A] {mark element : A} (rest : List A)
    (ordinary : element ≠ mark) :
    cutLines mark (element :: rest) =
      match cutLines mark rest with
      | [] => [[element]]
      | line :: others => (element :: line) :: others := by
  simp [cutLines, ordinary]

/-- A trailing return mark does not belong to its line. -/
def dropReturn {A : Type} [DecidableEq A] (mark : A) (line : List A) : List A :=
  if line.getLast? = some mark then line.dropLast else line

/-- A line of text ends at a line feed, and a carriage return before it is dropped. -/
def textLines (text : List Char) : List (List Char) :=
  (cutLines '\n' text).map fun line => dropReturn '\r' line

end RoutineAtlas
