import RoutineAtlas.Host.Script.Arithmetic
import RoutineAtlas.Host.Script.Pattern
import RoutineAtlas.Host.Script.State

/-
This file replaces the values in words by texts. A value outside quotations falls apart into
fields, and a field with a pattern stands for the names that fit it.
-/

namespace RoutineAtlas

/-- A word becomes characters, of which only the loose ones can separate fields. Between two
arguments there is a boundary, and where there are none their quotation does not count. -/
inductive FieldPiece where
  | quotation
  | fixed (value : Char) (isQuoted : Bool)
  | loose (value : Char)
  | boundary
  | absent
  deriving DecidableEq, Repr

/-- The characters of a text are quoted or loose. -/
def fieldPieces (isQuoted : Bool) (text : ScriptText) : List FieldPiece :=
  text.map fun character => if isQuoted then .fixed character true else .loose character

/-- All arguments are separate fields, and a quoted argument is one even if it is empty. -/
def argumentPieces (isQuoted : Bool) : List ScriptText → List FieldPiece
  | [] => if isQuoted then [.absent] else []
  | argument :: rest =>
      let mark : List FieldPiece := if isQuoted then [.quotation] else []
      let others := if rest.isEmpty then [] else .boundary :: argumentPieces isQuoted rest
      mark ++ fieldPieces isQuoted argument ++ others

/-- Between quotation marks all arguments may make up one text. -/
def ScriptState.joinedArguments (state : ScriptState) : ScriptText :=
  match state.separators with
  | separator :: _ => joinTexts separator state.arguments
  | [] => state.arguments.flatten

/-- A value is missing where there have to be values. -/
def ScriptState.lacks (state : ScriptState) (value : ScriptValue) : Bool :=
  state.needsValues && (state.value? value).isNone &&
    value != .arguments true && value != .arguments false

/-- A missing value ends the script. -/
def ScriptState.refuseValue (state : ScriptState) (value : ScriptValue) : ScriptState :=
  state.abort (plainText (value.label ++ ": parameter not set"))

/-- These are the pieces of a plain value. -/
def ScriptState.valuePieces (state : ScriptState) (value : ScriptValue) (isQuoted : Bool) :
    ScriptState × List FieldPiece :=
  match value with
  | .arguments true => (state, argumentPieces isQuoted state.arguments)
  | .arguments false =>
      (state, if isQuoted then fieldPieces true state.joinedArguments
        else argumentPieces false state.arguments)
  | _ =>
      match state.value? value with
      | some text => (state, fieldPieces isQuoted text)
      | none => (if state.lacks value then state.refuseValue value else state, [])

/-- The text of pieces that are not split. -/
def wholeText (pieces : List FieldPiece) : ScriptText :=
  pieces.flatMap fun
    | .fixed value _ => [value]
    | .loose value => [value]
    | .boundary => [' ']
    | _ => []

/-- The text of pieces that are not split, in which the quoted characters are marked. -/
def wholeMarked (pieces : List FieldPiece) : MarkedText :=
  pieces.flatMap fun
    | .fixed value isQuoted => [(value, isQuoted)]
    | .loose value => [(value, false)]
    | .boundary => [(' ', false)]
    | _ => []

/-- The characters of an inner word are loose unless they are quoted. -/
def FieldPiece.loosen : FieldPiece → FieldPiece
  | .fixed value false => .loose value
  | piece => piece

/-- A script inside a script is run to get its output. -/
abbrev OutputOf := ScriptState → ScriptText → Nat → ScriptState × ScriptText

/-- The line feeds at the end of an output go. -/
def withoutLastLines (text : ScriptText) : ScriptText :=
  (text.reverse.dropWhile (· == '\n')).reverse

/-- A value counts as given when there is one, and it may have to be more than empty. -/
def countsAsGiven (notEmpty : Bool) (value : Option ScriptText) : Bool :=
  value.any fun text => !(notEmpty && text.isEmpty)

/-- A value that is missing is complained about by the inner word. -/
def missingMessage (value : ScriptValue) (notEmpty : Bool) (reason : ScriptText) : ScriptText :=
  let usual := if notEmpty then "parameter not set or null" else "parameter not set"
  plainText (value.label ++ ": ") ++ (if reason.isEmpty then plainText usual else reason)

/-- A piece of a word is replaced, and inner words are replaced first. -/
def expandPiece (outputOf : OutputOf) : (fuel : Nat) → ScriptState → WordPiece →
    ScriptState × List FieldPiece
  | 0, state, _ => (state, [])
  | fuel + 1, state, piece =>
      let expandInner (current : ScriptState) (word : ScriptWord) :
          ScriptState × List FieldPiece :=
        word.foldl
          (fun (before, pieces) inner =>
            let (after, more) := expandPiece outputOf fuel before inner
            (after, pieces ++ more))
          (current, [])
      if !state.isGoing then (state, [])
      else match piece with
      | .quotation => (state, [.quotation])
      | .refused => (state.abort (plainText "Bad substitution"), [])
      | .character value isQuoted => (state, [.fixed value isQuoted])
      | .value value isQuoted => state.valuePieces value isQuoted
      | .length value isQuoted =>
          if state.lacks value then (state.refuseValue value, [])
          else
            let length := ((state.value? value).getD []).length
            (state, fieldPieces isQuoted (plainText (toString length)))
      | .output script line isQuoted =>
          let (after, text) := outputOf state script line
          (after, fieldPieces isQuoted (withoutLastLines (text.filter (·.toNat != 0))))
      | .number expression isQuoted =>
          let (after, pieces) := expandInner state expression
          let text := wholeText pieces
          match evaluateNumber after.assigned text with
          | .ok (value, assigned) =>
              ({ after with assigned }, fieldPieces isQuoted (toString value).toList)
          | .error (.illegalNumber number) =>
              (after.abort (plainText "Illegal number: " ++ number.toList), [])
          | .error fault =>
              (after.abort (plainText (fault.message ++ ": \"") ++ text ++ ['"']), [])
      | .changed value change word isQuoted =>
          let found := state.value? value
          match change with
          | .usual notEmpty =>
              if countsAsGiven notEmpty found then state.valuePieces value isQuoted
              else
                let (after, pieces) := expandInner state word
                (after, if isQuoted then pieces else pieces.map FieldPiece.loosen)
          | .instead notEmpty =>
              if countsAsGiven notEmpty found then
                let (after, pieces) := expandInner state word
                (after, if isQuoted then pieces else pieces.map FieldPiece.loosen)
              else (state, [])
          | .assigned notEmpty =>
              if countsAsGiven notEmpty found then state.valuePieces value isQuoted
              else
                let (after, pieces) := expandInner state word
                let text := wholeText pieces
                (after.assign value.label text, fieldPieces isQuoted text)
          | .required notEmpty =>
              if countsAsGiven notEmpty found then state.valuePieces value isQuoted
              else
                let (after, pieces) := expandInner state word
                (after.abort (missingMessage value notEmpty (wholeText pieces)), [])
          | .without ending =>
              if state.lacks value then (state.refuseValue value, [])
              else
                let (after, pieces) := expandInner state word
                let pattern := patternOf (wholeMarked pieces)
                let cut := if ending.atStart then withoutStart else withoutEnd
                (after, fieldPieces isQuoted (cut pattern ending.isLongest (found.getD [])))

/-- Words are not nested deeper than this. -/
def wordDepth : Nat := 200

/-- The pieces of a word are replaced from left to right. -/
def expandPieces (outputOf : OutputOf) (state : ScriptState) (word : ScriptWord) :
    ScriptState × List FieldPiece :=
  word.foldl
    (fun (before, pieces) piece =>
      let (after, more) := expandPiece outputOf wordDepth before piece
      (after, pieces ++ more))
    (state, [])

/-- A word that is not split becomes one text. -/
def expandWhole (outputOf : OutputOf) (state : ScriptState) (word : ScriptWord) :
    ScriptState × ScriptText :=
  let (after, pieces) := expandPieces outputOf state word
  (after, wholeText pieces)

/-- The fields that are complete, and the field that grows. A separator that is no blank ends the
field before the blanks in front of it. The quotations in a field are counted, since one that held
no arguments does not make a field. The growing field holds its last character first. -/
structure FieldSplit where
  complete : List MarkedText
  growing : Option MarkedText
  quotations : Nat
  isAbsent : Bool
  afterBlank : Bool
  deriving DecidableEq, Repr

/-- The last field is there, even if it is empty. -/
def FieldSplit.open (fields : FieldSplit) : FieldSplit :=
  { fields with growing := some (fields.growing.getD []), afterBlank := false }

/-- A character makes the last field grow. -/
def FieldSplit.grow (fields : FieldSplit) (character : Char) (isQuoted : Bool) : FieldSplit :=
  { fields with
    growing := some ((character, isQuoted) :: fields.growing.getD [])
    afterBlank := false }

/-- The growing field is complete. A field in which nothing is present does not count. -/
def FieldSplit.finish (fields : FieldSplit) : FieldSplit where
  complete := fields.complete ++
    ((fields.growing.filter fun text =>
      !(fields.isAbsent && fields.quotations = 0 && text.isEmpty)).map List.reverse).toList
  growing := none
  quotations := 0
  isAbsent := false
  afterBlank := false

/-- A piece of a word makes a field grow or ends it. -/
def FieldSplit.step (separators : ScriptText) (fields : FieldSplit) : FieldPiece → FieldSplit
  | .quotation => { fields.open with quotations := fields.quotations + 1 }
  | .fixed value isQuoted => fields.grow value isQuoted
  | .boundary => fields.finish
  | .absent => { fields with quotations := fields.quotations - 1, isAbsent := true }
  | .loose value =>
      if !separators.contains value then fields.grow value false
      else if [' ', '\t', '\n'].contains value then
        { fields.finish with afterBlank := fields.growing.isSome || fields.afterBlank }
      else if fields.growing.isNone && fields.afterBlank then { fields with afterBlank := false }
      else fields.open.finish

/-- The pieces of a word fall apart into fields. -/
def splitFields (separators : ScriptText) (pieces : List FieldPiece) : List MarkedText :=
  (pieces.foldl (FieldSplit.step separators)
    { complete := []
      growing := none
      quotations := 0
      isAbsent := false
      afterBlank := false }).finish.complete

/-- The names in a directory that fit a pattern, where hidden names need their dot. -/
def ScriptState.fittingNames (state : ScriptState) (directory : ScriptText) (pattern : MarkedText) :
    List ScriptText :=
  let entry := if directory.isEmpty then state.top.at? state.place else state.entry? directory
  match entry with
  | some (.directory folder) =>
      let hidden := pattern.head?.any fun piece => piece.1 == '.'
      let names := (listing folder).map (fun child => scriptText child.1) ++ [['.'], ['.', '.']]
      let shown := names.filter fun name =>
        (hidden || name.head? != some '.') && fitsPattern (patternOf pattern) name
      (shown.map fun name => directory ++ name).mergeSort comesBefore
  | _ => []

/-- A field with a pattern in its last step stands for the names that fit, if there are any. -/
def ScriptState.expandNames (state : ScriptState) (field : MarkedText) : List ScriptText :=
  let last := (field.reverse.takeWhile fun piece => piece.1 != '/').reverse
  let directory := unmarkedText (field.take (field.length - last.length))
  if (patternOf last).any PatternPiece.isSpecial then
    match state.fittingNames directory last with
    | [] => [unmarkedText field]
    | names => names
  else [unmarkedText field]

/-- Words stand for any number of texts. -/
def expandFields (outputOf : OutputOf) (state : ScriptState) (words : List ScriptWord) :
    ScriptState × List ScriptText :=
  words.foldl
    (fun (before, texts) word =>
      let (after, pieces) := expandPieces outputOf before word
      let fields := splitFields after.separators pieces
      (after, texts ++ fields.flatMap after.expandNames))
    (state, [])

end RoutineAtlas
