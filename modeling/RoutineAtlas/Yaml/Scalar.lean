import RoutineAtlas.Yaml.Cursor

/-
This file reads the scalars of a YAML document: plain ones, quoted ones and blocks of lines. A
reader answers nothing when the scalar is malformed.
-/

namespace RoutineAtlas

/-- A plain scalar may stand for something else than its text. -/
inductive ScalarStyle where
  | plain
  | quoted
  | literal
  | folded
  deriving DecidableEq, Repr

/-- The white space between two words of a scalar. -/
structure Gap where
  blanks : List Char
  broken : Bool
  firstBreak : List Char
  otherBreaks : List Char
  deriving DecidableEq, Repr

/-- Nothing lies between two words. -/
def Gap.none : Gap where
  blanks := []
  broken := false
  firstBreak := []
  otherBreaks := []

/-- A single line break folds to a space, and of several the first is dropped. -/
def Gap.text (gap : Gap) : List Char :=
  if gap.broken then
    if gap.firstBreak = ['\n'] then
      if gap.otherBreaks.isEmpty then [' '] else gap.otherBreaks
    else gap.firstBreak ++ gap.otherBreaks
  else gap.blanks

/-- A line break is noted, and what was blank before it is dropped. -/
def Gap.addBreak (gap : Gap) (lineBreak : List Char) : Gap :=
  if gap.broken then { gap with otherBreaks := gap.otherBreaks ++ lineBreak }
  else { gap with blanks := [], broken := true, firstBreak := lineBreak }

/-- A blank counts only before the first break. -/
def Gap.addBlank (gap : Gap) (blank : Char) : Gap :=
  if gap.broken then gap else { gap with blanks := gap.blanks ++ [blank] }

/-- A gap is read to its end, and a tab may not stand where indentation is due. -/
def readGap (indentation : Nat) : (fuel : Nat) → Cursor → Gap → Option (Gap × Cursor)
  | 0, cursor, gap => some (gap, cursor)
  | fuel + 1, cursor, gap =>
      match cursor.next with
      | some character =>
          if isYamlBlank character then
            if gap.broken && decide (cursor.column < indentation) && character == '\t' then none
            else readGap indentation fuel (cursor.skip 1) (gap.addBlank character)
          else if isYamlBreak character then
            readGap indentation fuel cursor.skipLine (gap.addBreak cursor.lineBreak)
          else some (gap, cursor)
      | none => some (gap, cursor)

/-- These characters end a plain scalar within a flow collection. -/
def isFlowIndicator (character : Char) : Bool :=
  [',', '[', ']', '{', '}'].contains character

/-- A colon glued to these is refused in a flow collection. -/
def isGluedIndicator (character : Char) : Bool :=
  isFlowIndicator character || character == '?'

/-- One word of a plain scalar goes to the next blank or indicator. -/
def readPlainWord (inFlow : Bool) : (fuel : Nat) → Cursor → List Char →
    Option (List Char × Cursor)
  | 0, cursor, word => some (word, cursor)
  | fuel + 1, cursor, word =>
      match cursor.next with
      | none => some (word, cursor)
      | some character =>
          if cursor.blankAt 0 then some (word, cursor)
          else if character == ':' && inFlow && (cursor.ahead 1).any isGluedIndicator then none
          else if (character == ':' && cursor.blankAt 1) ||
              (inFlow && isFlowIndicator character) then some (word, cursor)
          else readPlainWord inFlow fuel (cursor.skip 1) (word ++ [character])

/-- A plain scalar is its text and whether it ended after a line break. -/
structure PlainScalar where
  text : List Char
  afterBreak : Bool
  deriving DecidableEq, Repr

/-- A plain scalar goes on over lines that are indented enough. -/
def readPlain (inFlow : Bool) (indentation : Nat) : (fuel : Nat) → Cursor → Gap → List Char →
    Option (PlainScalar × Cursor)
  | 0, cursor, gap, text => some (⟨text, gap.broken⟩, cursor)
  | fuel + 1, cursor, gap, text =>
      if cursor.atDocumentMarker || cursor.sees '#' then some (⟨text, gap.broken⟩, cursor)
      else do
        let (word, afterWord) ← readPlainWord inFlow (cursor.rest.length) cursor []
        let joined := if word.isEmpty then text else text ++ gap.text ++ word
        let pending := if word.isEmpty then gap else Gap.none
        if !afterWord.blankAt 0 || afterWord.atEnd then pure (⟨joined, pending.broken⟩, afterWord)
        else
          let (nextGap, afterGap) ← readGap indentation afterWord.rest.length afterWord pending
          if !inFlow && decide (afterGap.column < indentation) then
            pure (⟨joined, nextGap.broken⟩, afterGap)
          else readPlain inFlow indentation fuel afterGap nextGap joined

/-- This is the value of a hexadecimal digit. -/
def hexadecimalValue (character : Char) : Option Nat :=
  if character.isDigit then some (character.toNat - 48)
  else if 'a' ≤ character ∧ character ≤ 'f' then some (character.toNat - 87)
  else if 'A' ≤ character ∧ character ≤ 'F' then some (character.toNat - 55)
  else none

/-- This is the value of some hexadecimal digits. -/
def hexadecimalNumber (digits : List Char) : Option Nat :=
  digits.foldlM (fun value digit => (hexadecimalValue digit).map fun unit => 16 * value + unit) 0

/-- An escape by number must name a character. -/
def numberedEscape (width : Nat) (digits : List Char) : Option (List Char × Nat) := do
  let chosen := digits.take width
  if chosen.length = width then
    let code ← hexadecimalNumber chosen
    if (0xD800 ≤ code ∧ code ≤ 0xDFFF) ∨ 0x10FFFF < code then none
    else pure ([Char.ofNat code], width + 1)
  else none

/-- These letters stand for a character each after a backslash. -/
def namedEscapes : List (Char × Nat) := [
  ('0', 0x00), ('a', 0x07), ('b', 0x08), ('t', 0x09), ('\t', 0x09), ('n', 0x0A), ('v', 0x0B),
  ('f', 0x0C), ('r', 0x0D), ('e', 0x1B), (' ', 0x20), ('"', 0x22), ('/', 0x2F), ('\\', 0x5C),
  ('N', 0x85), ('_', 0xA0), ('L', 0x2028), ('P', 0x2029)]

/-- An escape after a backslash gives characters and takes some places. -/
def readEscape : List Char → Option (List Char × Nat)
  | [] => none
  | 'x' :: digits => numberedEscape 2 digits
  | 'u' :: digits => numberedEscape 4 digits
  | 'U' :: digits => numberedEscape 8 digits
  | letter :: _ => (namedEscapes.lookup letter).map fun code => ([Char.ofNat code], 1)

/-- One stretch of a quoted scalar goes to a blank, to the closing quote or to an escaped break. -/
def readQuotedWord (quote : Char) : (fuel : Nat) → Cursor → List Char →
    Option (List Char × Bool × Cursor)
  | 0, cursor, word => some (word, false, cursor)
  | fuel + 1, cursor, word =>
      match cursor.next with
      | none => some (word, false, cursor)
      | some character =>
          if cursor.blankAt 0 then some (word, false, cursor)
          else if character == quote then
            if quote != '"' && cursor.ahead 1 == some quote then
              readQuotedWord quote fuel (cursor.skip 2) (word ++ [quote])
            else some (word, false, cursor)
          else if quote == '"' && character == '\\' then
            if !(cursor.skip 1).atEnd && cursor.breakAt 1 then
              some (word, true, (cursor.skip 1).skipLine)
            else
              match readEscape (cursor.skip 1).rest with
              | some (characters, places) =>
                  readQuotedWord quote fuel (cursor.skip (places + 1)) (word ++ characters)
              | none => none
          else readQuotedWord quote fuel (cursor.skip 1) (word ++ [character])

/-- The cursor of a quoted scalar stands behind the opening quote, and ends behind the closing. -/
def readQuoted (quote : Char) : (fuel : Nat) → Cursor → List Char → Option (List Char × Cursor)
  | 0, _, _ => none
  | fuel + 1, cursor, text =>
      if cursor.atDocumentMarker || cursor.atEnd then none
      else do
        let (word, escapedBreak, afterWord) ←
          readQuotedWord quote (cursor.rest.length) cursor []
        if afterWord.sees quote && !escapedBreak then pure (text ++ word, afterWord.skip 1)
        else
          let gap := { Gap.none with broken := escapedBreak }
          let (nextGap, afterGap) ← readGap 0 afterWord.rest.length afterWord gap
          readQuoted quote fuel afterGap (text ++ word ++ nextGap.text)

/-- What happens to the line breaks at the end of a block. -/
inductive Chomping where
  | strip
  | clip
  | keep
  deriving DecidableEq, Repr

/-- The header of a block gives its chomping and may give its indentation. -/
structure BlockHeader where
  chomping : Chomping
  increment : Option Nat
  deriving DecidableEq, Repr

/-- A sign chooses the chomping. -/
def chompingOf : Option Char → Option Chomping
  | some '+' => some .keep
  | some '-' => some .strip
  | _ => none

/-- A digit other than zero gives the indentation. -/
def incrementOf : Option Char → Option Nat
  | some character => if character.isDigit then some (character.toNat - 48) else none
  | none => none

/-- The sign and the digit of a header come in either order, and take some places. -/
def blockHeaderAt (cursor : Cursor) : BlockHeader × Nat :=
  match chompingOf cursor.next, incrementOf cursor.next with
  | some chomping, _ =>
      let increment := incrementOf (cursor.ahead 1)
      ({ chomping, increment }, if increment.isSome then 2 else 1)
  | none, some digit =>
      let chomping := chompingOf (cursor.ahead 1)
      ({ chomping := chomping.getD .clip, increment := some digit },
        if chomping.isSome then 2 else 1)
  | none, none => ({ chomping := .clip, increment := none }, 0)

/-- A header may be followed by a comment and ends its line. -/
def readBlockHeader (cursor : Cursor) : Option (BlockHeader × Cursor) :=
  let (header, places) := blockHeaderAt cursor
  if header.increment = some 0 then none
  else
    let blanks := (cursor.skip places).skipWhile isYamlBlank
    let comment := if blanks.sees '#' then
      blanks.skipWhile fun character => !isYamlBreak character else blanks
    if comment.breakAt 0 then some (header, comment.skipLine) else none

/-- The empty lines of a block are passed, and may tell its indentation. -/
def readBlockBreaks (known : Option Nat) : (fuel : Nat) → Cursor → (deepest : Nat) → List Char →
    Option (List Char × Nat × Cursor)
  | 0, cursor, deepest, breaks => some (breaks, deepest, cursor)
  | fuel + 1, cursor, deepest, breaks =>
      let spaces := (cursor.run (· == ' ')).length
      let allowed := match known with
        | some indentation => min spaces (indentation - cursor.column)
        | none => spaces
      let indented := cursor.skip allowed
      let reached := max deepest indented.column
      let early := match known with
        | some indentation => decide (indented.column < indentation)
        | none => true
      if early && indented.sees '\t' then none
      else if !indented.atEnd && indented.breakAt 0 then
        readBlockBreaks known fuel indented.skipLine reached (breaks ++ indented.lineBreak)
      else some (breaks, reached, indented)

/-- The lines of a block are joined, and a folded block joins ordinary lines by spaces. -/
def readBlockLines (isFolded : Bool) (indentation : Nat) : (fuel : Nat) → Cursor →
    (text lastBreak breaks : List Char) → (afterBlank : Bool) →
    Option (List Char × List Char × List Char × Cursor)
  | 0, cursor, text, lastBreak, breaks, _ => some (text, lastBreak, breaks, cursor)
  | fuel + 1, cursor, text, lastBreak, breaks, afterBlank =>
      if cursor.column != indentation || cursor.atEnd then some (text, lastBreak, breaks, cursor)
      else do
        let startsBlank := cursor.next.any isYamlBlank
        let joint :=
          if isFolded && lastBreak == ['\n'] && !afterBlank && !startsBlank then
            (if breaks.isEmpty then [' '] else []) ++ breaks
          else lastBreak ++ breaks
        let line := cursor.run fun character => !isYamlBreak character
        let afterLine := cursor.skip line.length
        let (nextBreaks, _, afterBreaks) ←
          readBlockBreaks (some indentation) (afterLine.rest.length + 1) afterLine.skipLine 0 []
        readBlockLines isFolded indentation fuel afterBreaks (text ++ joint ++ line)
          afterLine.lineBreak nextBreaks startsBlank

/-- The cursor of a block stands behind its indicator, and the parent's indentation is given. -/
def readBlock (isFolded : Bool) (parent : Int) (cursor : Cursor) :
    Option (List Char × Cursor) := do
  let (header, body) ← readBlockHeader cursor
  let fuel := body.rest.length + 1
  let known := header.increment.map fun increment =>
    if 0 ≤ parent then parent.toNat + increment else increment
  let (breaks, deepest, start) ← readBlockBreaks known fuel body 0 []
  let indentation := known.getD (max deepest (max (parent + 1).toNat 1))
  let (text, lastBreak, lastBreaks, rest) ←
    readBlockLines isFolded indentation fuel start [] [] breaks false
  let ending := match header.chomping with
    | .strip => []
    | .clip => lastBreak
    | .keep => lastBreak ++ lastBreaks
  pure (text ++ ending, rest)

end RoutineAtlas
