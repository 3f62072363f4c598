import RoutineAtlas.Host.Script.Text

/-
This file holds the words of small scripts. A word is put together from characters and from values
that are known only when the script runs.
-/

namespace RoutineAtlas

/-- A script can use the arguments with which it was called, the last status, the number of its
process, and its variables. -/
inductive ScriptValue where
  | argument (index : Nat)
  | arguments (isSeparate : Bool)
  | argumentCount
  | lastStatus
  | processNumber
  | variable (name : String)
  deriving DecidableEq, Repr

/-- The end of a value that a pattern takes away may be the shortest or the longest. -/
structure PatternEnd where
  atStart : Bool
  isLongest : Bool
  deriving DecidableEq, Repr

/-- A word can stand for a value that is not there, be assigned to it, stand where there is a
value, or tell that there has to be one. A value may have to be more than empty. Or else the word
is a pattern for one of its ends. -/
inductive ValueChange where
  | usual (notEmpty : Bool)
  | assigned (notEmpty : Bool)
  | instead (notEmpty : Bool)
  | required (notEmpty : Bool)
  | without (ending : PatternEnd)
  deriving DecidableEq, Repr

/-- A word is put together from pieces, and a quotation makes a word even if it is empty. Braces may
hold something that is no value. -/
inductive WordPiece where
  | quotation
  | character (value : Char) (isQuoted : Bool)
  | value (value : ScriptValue) (isQuoted : Bool)
  | length (value : ScriptValue) (isQuoted : Bool)
  | changed (value : ScriptValue) (change : ValueChange) (word : List WordPiece) (isQuoted : Bool)
  | output (script : ScriptText) (line : Nat) (isQuoted : Bool)
  | number (expression : List WordPiece) (isQuoted : Bool)
  | refused
  deriving Repr, Inhabited

/-- A word is a list of pieces. -/
abbrev ScriptWord := List WordPiece

/-- A word without quotations and values is spelled by its characters. -/
def plainSpelling : ScriptWord → Option String
  | [] => some ""
  | .character value false :: rest =>
      (plainSpelling rest).map fun spelling => String.singleton value ++ spelling
  | _ :: _ => none

/-- A word of characters is spelled by them, whether they are quoted or not. -/
def literalSpelling (word : ScriptWord) : ScriptText :=
  word.flatMap fun
    | .character value _ => [value]
    | _ => []

/-- The piece is a certain character outside quotations. -/
def WordPiece.isPlain (wanted : Char) : WordPiece → Bool
  | .character found false => found == wanted
  | _ => false

/-- A word is an assignment when it is a name, an equals sign and the value. -/
def assignment? (word : ScriptWord) : Option (String × ScriptWord) :=
  let name := (word.takeWhile fun piece => !piece.isPlain '=').mapM fun
    | .character value false => some value
    | _ => none
  match name, word.dropWhile fun piece => !piece.isPlain '=' with
  | some letters, _ :: assigned =>
      if isVariableName letters then some (spelledText letters, assigned) else none
  | _, _ => none

/-- A dollar sign stands before a value of one character. -/
def scriptValue? (character : Char) : Option ScriptValue :=
  if character.isDigit then some (.argument (character.toNat - 48))
  else if character = '@' then some (.arguments true)
  else if character = '*' then some (.arguments false)
  else if character = '#' then some .argumentCount
  else if character = '?' then some .lastStatus
  else if character = '$' then some .processNumber
  else none

/-- Between braces the number of an argument may have more digits. -/
def bracedValue (name : ScriptText) : Option ScriptValue :=
  match name with
  | [character] => (scriptValue? character).or
      (if isVariableName name then some (.variable (spelledText name)) else none)
  | _ =>
      if isVariableName name then some (.variable (spelledText name))
      else (readNatural? name).map .argument

end RoutineAtlas
