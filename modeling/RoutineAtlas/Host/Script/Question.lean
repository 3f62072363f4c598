import RoutineAtlas.Host.Script.State

/-
This file answers the questions that small scripts ask about texts, numbers and files.
-/

namespace RoutineAtlas

/-- These operators stand before one text. -/
def unaryOperators : List String :=
  ["-z", "-n", "-e", "-f", "-d", "-s", "-r", "-w", "-x", "-h", "-L"]

/-- These operators stand between two texts. -/
def binaryOperators : List String :=
  ["=", "!=", "-eq", "-ne", "-gt", "-ge", "-lt", "-le"]

/-- A text asks for one of these operators. -/
def isOperator (operators : List String) (text : ScriptText) : Bool :=
  operators.contains (spelledText text)

/-- What an entry answers to a question about it. No file can be run. -/
def Entry.answers (entry : Entry) (operator : String) : Bool :=
  let isCommon := ["-e", "-r", "-w"].contains operator
  match entry with
  | .file content => isCommon || operator == "-f" || (operator == "-s" && !content.isEmpty)
  | .directory _ => isCommon || ["-d", "-x", "-s"].contains operator
  | .device => isCommon
  | .link _ => operator == "-h" || operator == "-L"

/-- A question about one text. -/
def ScriptState.asksOne (state : ScriptState) (operator : String) (text : ScriptText) : Bool :=
  let isAboutLink := operator == "-h" || operator == "-L"
  match operator with
  | "-z" => text.isEmpty
  | "-n" => !text.isEmpty
  | _ =>
      match state.resolve (!isAboutLink) text with
      | .ok (_, entry) => entry.answers operator
      | .error _ => false

/-- A number in a question has to be one. -/
def askedNumber (text : ScriptText) : Except ScriptText Int :=
  match readInteger? text with
  | some value => .ok value
  | none => .error (plainText "Illegal number: " ++ text)

/-- A question about two texts. -/
def asksTwo (operator : String) (left right : ScriptText) : Except ScriptText Bool :=
  match operator with
  | "=" => .ok (left == right)
  | "!=" => .ok (left != right)
  | _ => do
      let first ← askedNumber left
      let second ← askedNumber right
      pure (match operator with
        | "-eq" => first == second
        | "-ne" => first != second
        | "-gt" => second < first
        | "-ge" => second ≤ first
        | "-lt" => first < second
        | _ => first ≤ second)

/-- A question is answered, and it may be negated. A single text asks whether it is empty. -/
def ScriptState.answer (state : ScriptState) : List ScriptText → Except ScriptText Bool
  | [] => .ok false
  | [text] => .ok (!text.isEmpty)
  | [left, operator, right] =>
      if isOperator binaryOperators operator then asksTwo (spelledText operator) left right
      else if left = ['!'] then (state.answer [operator, right]).map not
      else .error (operator ++ plainText ": unexpected operator")
  | first :: rest =>
      if first = ['!'] then (state.answer rest).map not
      else match rest with
        | [operand] =>
            if isOperator unaryOperators first then
              .ok (state.asksOne (spelledText first) operand)
            else .error (first ++ plainText ": unexpected operator")
        | _ => .error (first ++ plainText ": unexpected operator")

end RoutineAtlas
