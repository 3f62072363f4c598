import RoutineAtlas.Yaml.Scalar

/-
This file cuts a YAML document into tokens. Indentation opens and closes blocks, and the key of
a mapping is recognised by the colon behind it, so a key token is put in where the key began.
-/

namespace RoutineAtlas

/-- A tag is a handle and a suffix. A verbatim tag has no handle, and neither has a lone mark. -/
structure TagText where
  handle : String
  suffix : String
  deriving DecidableEq, Repr

/-- The tokens of a YAML document. -/
inductive YamlToken where
  | versionDirective (major minor : Nat)
  | tagDirective (handle lead : String)
  | documentStart
  | documentEnd
  | blockSequenceStart
  | blockMappingStart
  | blockEnd
  | flowSequenceStart
  | flowSequenceEnd
  | flowMappingStart
  | flowMappingEnd
  | blockEntry
  | flowEntry
  | key
  | value
  | alias (name : String)
  | anchor (name : String)
  | tag (tag : TagText)
  | scalar (text : String) (style : ScalarStyle)
  deriving DecidableEq, Repr

/-- What may yet prove to be a key is remembered with the place of its first token. -/
structure KeyCandidate where
  required : Bool
  token : Nat
  line : Nat
  column : Nat
  offset : Nat
  deriving DecidableEq, Repr

/-- A scanner keeps its tokens, its open blocks and the candidates of each flow level. -/
structure Scanner where
  cursor : Cursor
  tokens : Array YamlToken
  candidates : List (Option KeyCandidate)
  keyAllowed : Bool
  indentation : Int
  outer : List Int
  deriving Repr

/-- The scanner at the start of a text. -/
def Scanner.start (text : List Char) : Scanner where
  cursor := .start text
  tokens := #[]
  candidates := [none]
  keyAllowed := true
  indentation := -1
  outer := []

/-- The scanner is within brackets or braces. -/
def Scanner.inFlow (scanner : Scanner) : Bool :=
  1 < scanner.candidates.length

/-- A token is added at the end. -/
def Scanner.emit (scanner : Scanner) (token : YamlToken) : Scanner :=
  { scanner with tokens := scanner.tokens.push token }

/-- A token is added and its characters are passed. -/
def Scanner.take (scanner : Scanner) (places : Nat) (token : YamlToken) : Scanner :=
  { scanner.emit token with cursor := scanner.cursor.skip places }

/-- The column as an indentation. -/
def Scanner.column (scanner : Scanner) : Int :=
  scanner.cursor.column

/-- Blocks that are indented deeper than the column are closed. -/
def Scanner.closeBlocks (scanner : Scanner) (column : Int) : Scanner :=
  if scanner.inFlow then scanner else go scanner scanner.outer
where
  /-- The innermost block is closed first. -/
  go (scanner : Scanner) : List Int → Scanner
    | [] => scanner
    | previous :: others =>
        if column < scanner.indentation then
          go { scanner.emit .blockEnd with indentation := previous, outer := others } others
        else scanner

/-- A block is opened when the column lies deeper than the block around it. -/
def Scanner.openBlock (scanner : Scanner) (column : Int) (place : Nat) (token : YamlToken) :
    Scanner :=
  if !scanner.inFlow && decide (scanner.indentation < column) then
    { scanner with
      tokens := scanner.tokens.insertIdxIfInBounds place token
      indentation := column
      outer := scanner.indentation :: scanner.outer }
  else scanner

/-- A candidate is given up, which is an error when a key had to come. -/
def Scanner.dropCandidate (scanner : Scanner) : Option Scanner :=
  match scanner.candidates with
  | some candidate :: others =>
      if candidate.required then none else some { scanner with candidates := none :: others }
  | _ => some scanner

/-- What comes next may be a key. -/
def Scanner.saveCandidate (scanner : Scanner) : Option Scanner :=
  if scanner.keyAllowed then do
    let cleared ← scanner.dropCandidate
    let candidate : KeyCandidate := {
      required := !scanner.inFlow && scanner.indentation == scanner.column
      token := scanner.tokens.size
      line := scanner.cursor.line
      column := scanner.cursor.column
      offset := scanner.cursor.offset }
    pure { cleared with candidates := some candidate :: cleared.candidates.drop 1 }
  else some scanner

/-- A candidate does not outlast its line, nor a thousand characters. -/
def KeyCandidate.isStale (candidate : KeyCandidate) (cursor : Cursor) : Bool :=
  decide (candidate.line < cursor.line) || decide (candidate.offset + 1024 < cursor.offset)

/-- Stale candidates are given up on every level. -/
def Scanner.dropStale (scanner : Scanner) : Option Scanner := do
  let candidates ← scanner.candidates.mapM fun entry =>
    match entry with
    | some candidate =>
        if candidate.isStale scanner.cursor then
          if candidate.required then none else some none
        else some (some candidate)
    | none => some none
  pure { scanner with candidates }

/-- A byte order mark at the beginning of a line is passed, and it takes a column. -/
def Cursor.skipMark (cursor : Cursor) : Cursor :=
  if cursor.column == 0 && cursor.next.any isByteOrderMark then cursor.skip 1 else cursor

/-- Blanks, comments and line breaks are passed, and a new line may begin with a key. -/
def Scanner.toNextToken : (fuel : Nat) → Scanner → Scanner
  | 0, scanner => scanner
  | fuel + 1, scanner =>
      let tabs := scanner.inFlow || !scanner.keyAllowed
      let spaced := scanner.cursor.skipMark.skipWhile fun character =>
        character == ' ' || (tabs && character == '\t')
      let comment := if spaced.sees '#' then
        spaced.skipWhile fun character => !isYamlBreak character else spaced
      if !comment.atEnd && comment.breakAt 0 then
        Scanner.toNextToken fuel
          { scanner with
            cursor := comment.skipLine
            keyAllowed := scanner.keyAllowed || !scanner.inFlow }
      else { scanner with cursor := comment }

/-- Before a document marker or a directive every block is closed. -/
def Scanner.closeDocument (scanner : Scanner) : Option Scanner := do
  let cleared ← (scanner.closeBlocks (-1)).dropCandidate
  pure { cleared with keyAllowed := false }

/-- The rest of a directive's line is blank or a comment. -/
def Scanner.endDirective (scanner : Scanner) : Option Scanner :=
  let blanks := scanner.cursor.skipWhile isYamlBlank
  let comment := if blanks.sees '#' then
    blanks.skipWhile fun character => !isYamlBreak character else blanks
  if comment.breakAt 0 then some { scanner with cursor := comment.skipLine } else none

/-- A number of a version has so many digits at most. -/
def versionDigits : Nat := 9

/-- A version is two numbers with a dot between them. -/
def Scanner.versionDirective (scanner : Scanner) : Option Scanner := do
  let cursor := scanner.cursor.skipWhile isYamlBlank
  let major := cursor.run Char.isDigit
  let afterMajor := cursor.skip major.length
  let minor := (afterMajor.skip 1).run Char.isDigit
  let fits (digits : List Char) : Bool := !digits.isEmpty && digits.length ≤ versionDigits
  if !fits major || !fits minor || !afterMajor.sees '.' then none
  else
    let number (digits : List Char) : Nat :=
      digits.foldl (fun value digit => 10 * value + (digit.toNat - 48)) 0
    let token := YamlToken.versionDirective (number major) (number minor)
    ({ scanner.emit token with cursor := afterMajor.skip (minor.length + 1) }).endDirective

/-- A character of a tag outside angle brackets. -/
def isTagCharacter (character : Char) : Bool :=
  isYamlWord character ||
    [';', '/', '?', ':', '@', '&', '=', '+', '$', '.', '%', '!', '~', '*', Char.ofNat 0x27, '(',
      ')'].contains character

/-- A character of a verbatim tag or of what a handle stands for. -/
def isVerbatimTagCharacter (character : Char) : Bool :=
  isTagCharacter character || [',', '[', ']'].contains character

/-- So many bytes make the character that a first byte begins. -/
def leadingWidth (byte : Nat) : Option Nat :=
  if byte < 0x80 then some 1
  else if byte < 0xC0 then none
  else if byte < 0xE0 then some 2
  else if byte < 0xF0 then some 3
  else if byte < 0xF8 then some 4
  else none

/-- A byte is written as a percent sign and two hexadecimal digits. -/
def escapedByte : List Char → Option (Nat × List Char)
  | '%' :: high :: low :: rest => (hexadecimalNumber [high, low]).map fun byte => (byte, rest)
  | _ => none

/-- The escaped bytes that follow the first byte of a character. -/
def skipContinuation : (count : Nat) → List Char → Option (List Char)
  | 0, text => some text
  | count + 1, text => do
      let (byte, rest) ← escapedByte text
      if 0x80 ≤ byte ∧ byte < 0xC0 then skipContinuation count rest else none

/-- An escaped character takes as many escapes as it has bytes. All the characters beyond ASCII
read as one, since no tag that matters has any. -/
def escapedCharacter (text : List Char) : Option (Char × List Char) := do
  let (byte, rest) ← escapedByte text
  let width ← leadingWidth byte
  let remaining ← skipContinuation (width - 1) rest
  pure (if byte < 0x80 then Char.ofNat byte else '\uFFFD', remaining)

/-- The escapes of a tag are undone. -/
def unescapeTag : (fuel : Nat) → List Char → Option (List Char)
  | 0, text => some text
  | _ + 1, [] => some []
  | fuel + 1, '%' :: text => do
      let (character, rest) ← escapedCharacter ('%' :: text)
      let others ← unescapeTag fuel rest
      pure (character :: others)
  | fuel + 1, character :: text => (unescapeTag fuel text).map fun others => character :: others

/-- A tag is read without its escapes, as far as it is written, and it ends at an escaped null. -/
def readTagText (written : List Char) : Option (List Char) :=
  (unescapeTag written.length written).map fun text => text.takeWhile (·.toNat != 0)

/-- A handle stands between two exclamation marks, and a lone mark is a handle too. -/
def readTagHandle (cursor : Cursor) : Option (List Char × Cursor) :=
  if cursor.sees '!' then
    let name := (cursor.skip 1).run isYamlWord
    let afterName := cursor.skip (name.length + 1)
    if afterName.sees '!' then some ('!' :: name ++ ['!'], afterName.skip 1)
    else some ('!' :: name, afterName)
  else none

/-- A tag directive tells what a handle stands for. -/
def Scanner.tagDirective (scanner : Scanner) : Option Scanner := do
  let (handle, afterHandle) ← readTagHandle (scanner.cursor.skipWhile isYamlBlank)
  if handle.getLast? != some '!' || !afterHandle.next.any isYamlBlank then none
  else
    let cursor := afterHandle.skipWhile isYamlBlank
    let lead := cursor.run isVerbatimTagCharacter
    let afterLead := cursor.skip lead.length
    if lead.isEmpty || !afterLead.blankAt 0 then none
    else
      let text ← readTagText lead
      let token := YamlToken.tagDirective (String.ofList handle) (String.ofList text)
      ({ scanner.emit token with cursor := afterLead }).endDirective

/-- A directive is one of two kinds. -/
def Scanner.directive (scanner : Scanner) : Option Scanner := do
  let closed ← scanner.closeDocument
  let cursor := closed.cursor.skip 1
  let name := cursor.run isYamlWord
  let afterName := cursor.skip name.length
  if !afterName.blankAt 0 then none
  else if name = "YAML".toList then ({ closed with cursor := afterName }).versionDirective
  else if name = "TAG".toList then ({ closed with cursor := afterName }).tagDirective
  else none

/-- A bracket or a brace opens a flow level. -/
def Scanner.openFlow (scanner : Scanner) (token : YamlToken) : Option Scanner := do
  let saved ← scanner.saveCandidate
  pure ({ saved with candidates := none :: saved.candidates, keyAllowed := true }.take 1 token)

/-- A bracket or a brace closes a flow level. -/
def Scanner.closeFlow (scanner : Scanner) (token : YamlToken) : Option Scanner := do
  let cleared ← scanner.dropCandidate
  let candidates := if cleared.inFlow then cleared.candidates.drop 1 else cleared.candidates
  pure ({ cleared with candidates, keyAllowed := false }.take 1 token)

/-- A comma ends an entry of a flow collection. -/
def Scanner.flowEntry (scanner : Scanner) : Option Scanner := do
  let cleared ← scanner.dropCandidate
  pure ({ cleared with keyAllowed := true }.take 1 .flowEntry)

/-- A hyphen begins an entry of a block sequence. -/
def Scanner.blockEntry (scanner : Scanner) : Option Scanner :=
  if !scanner.inFlow && !scanner.keyAllowed then none
  else do
    let opened := scanner.openBlock scanner.column scanner.tokens.size .blockSequenceStart
    let cleared ← opened.dropCandidate
    pure ({ cleared with keyAllowed := true }.take 1 .blockEntry)

/-- A question mark announces a key. -/
def Scanner.explicitKey (scanner : Scanner) : Option Scanner :=
  if !scanner.inFlow && !scanner.keyAllowed then none
  else do
    let opened := scanner.openBlock scanner.column scanner.tokens.size .blockMappingStart
    let cleared ← opened.dropCandidate
    pure ({ cleared with keyAllowed := !cleared.inFlow }.take 1 .key)

/-- A colon turns a candidate into a key. -/
def Scanner.mappingValue (scanner : Scanner) : Option Scanner :=
  match scanner.candidates with
  | some candidate :: others =>
      let keyed := { scanner with
        tokens := scanner.tokens.insertIdxIfInBounds candidate.token .key
        candidates := none :: others
        keyAllowed := false }
      some ((keyed.openBlock candidate.column candidate.token .blockMappingStart).take 1 .value)
  | _ =>
      if !scanner.inFlow && !scanner.keyAllowed then none
      else
        let opened := scanner.openBlock scanner.column scanner.tokens.size .blockMappingStart
        some ({ opened with keyAllowed := !opened.inFlow }.take 1 .value)

/-- The name of an anchor or an alias is not empty and ends before a blank or an indicator. -/
def Scanner.anchorName (scanner : Scanner) (token : String → YamlToken) : Option Scanner := do
  let saved ← scanner.saveCandidate
  let name := (saved.cursor.skip 1).run isYamlWord
  let afterName := saved.cursor.skip (name.length + 1)
  let ends := afterName.blankAt 0 ||
    afterName.next.any fun character =>
      ['?', ':', ',', ']', '}', '%', '@', Char.ofNat 0x60].contains character
  if name.isEmpty || !ends then none
  else
    pure { saved.emit (token (String.ofList name)) with cursor := afterName, keyAllowed := false }

/-- A tag is verbatim, or has a handle of its own, or the usual handle, or is a lone mark. -/
def readTag (cursor : Cursor) : Option (TagText × Cursor) :=
  if (cursor.ahead 1) == some '<' then
    let inside := cursor.skip 2
    let suffix := inside.run isVerbatimTagCharacter
    let closing := inside.skip suffix.length
    if suffix.isEmpty || !closing.sees '>' then none
    else (readTagText suffix).map fun text =>
      ({ handle := "", suffix := String.ofList text }, closing.skip 1)
  else do
    let (handle, afterHandle) ← readTagHandle cursor
    if 1 < handle.length && handle.getLast? == some '!' then
      let suffix := afterHandle.run isTagCharacter
      if suffix.isEmpty then none
      else
        let text ← readTagText suffix
        pure ({ handle := String.ofList handle, suffix := String.ofList text },
          afterHandle.skip suffix.length)
    else
      let suffix := (cursor.skip 1).run isTagCharacter
      let text ← readTagText suffix
      let tag : TagText := if text.isEmpty then { handle := "", suffix := "!" }
        else { handle := "!", suffix := String.ofList text }
      pure (tag, cursor.skip (suffix.length + 1))

/-- A tag ends before a blank, or before a comma of a flow collection. -/
def Scanner.tagToken (scanner : Scanner) : Option Scanner := do
  let saved ← scanner.saveCandidate
  let (tag, afterTag) ← readTag saved.cursor
  if afterTag.blankAt 0 || (saved.inFlow && afterTag.sees ',') then
    pure { saved.emit (.tag tag) with cursor := afterTag, keyAllowed := false }
  else none

/-- A block of lines is no key. -/
def Scanner.blockScalar (scanner : Scanner) (isFolded : Bool) : Option Scanner := do
  let cleared ← scanner.dropCandidate
  let (text, cursor) ← readBlock isFolded cleared.indentation (cleared.cursor.skip 1)
  let token := YamlToken.scalar (String.ofList text) (if isFolded then .folded else .literal)
  pure { cleared.emit token with cursor, keyAllowed := true }

/-- A quoted scalar may be a key. -/
def Scanner.quotedScalar (scanner : Scanner) (quote : Char) : Option Scanner := do
  let saved ← scanner.saveCandidate
  let inside := saved.cursor.skip 1
  let (text, cursor) ← readQuoted quote (inside.rest.length + 1) inside []
  pure { saved.emit (.scalar (String.ofList text) .quoted) with cursor, keyAllowed := false }

/-- A plain scalar may be a key. -/
def Scanner.plainScalar (scanner : Scanner) : Option Scanner := do
  let saved ← scanner.saveCandidate
  let indentation := (saved.indentation + 1).toNat
  let (scalar, cursor) ←
    readPlain saved.inFlow indentation (saved.cursor.rest.length + 1) saved.cursor Gap.none []
  pure { saved.emit (.scalar (String.ofList scalar.text) .plain) with
    cursor, keyAllowed := scalar.afterBreak }

/-- These characters begin something else than a plain scalar. -/
def isYamlIndicator (character : Char) : Bool :=
  ['-', '?', ':', ',', '[', ']', '{', '}', '#', '&', '*', '!', '|', '>', Char.ofNat 0x27, '"',
    '%', '@', Char.ofNat 0x60].contains character

/-- A plain scalar begins here. -/
def Scanner.atPlain (scanner : Scanner) (character : Char) : Bool :=
  (!scanner.cursor.blankAt 0 && !isYamlIndicator character) ||
    (character == '-' && !(scanner.cursor.ahead 1).any isYamlBlank) ||
    (!scanner.inFlow && (character == '?' || character == ':') && !scanner.cursor.blankAt 1)

/-- The token that begins with a character is read. -/
def Scanner.token (scanner : Scanner) (character : Char) : Option Scanner :=
  let standsAlone := scanner.inFlow || scanner.cursor.blankAt 1
  if scanner.cursor.column == 0 && character == '%' then scanner.directive
  else if scanner.cursor.atMarker '-' then
    scanner.closeDocument.map fun closed => closed.take 3 .documentStart
  else if scanner.cursor.atMarker '.' then
    scanner.closeDocument.map fun closed => closed.take 3 .documentEnd
  else if character == '[' then scanner.openFlow .flowSequenceStart
  else if character == '\x7b' then scanner.openFlow .flowMappingStart
  else if character == ']' then scanner.closeFlow .flowSequenceEnd
  else if character == '\x7d' then scanner.closeFlow .flowMappingEnd
  else if character == ',' then scanner.flowEntry
  else if character == '-' && scanner.cursor.blankAt 1 then scanner.blockEntry
  else if character == '?' && standsAlone then scanner.explicitKey
  else if character == ':' && standsAlone then scanner.mappingValue
  else if character == '*' then scanner.anchorName .alias
  else if character == '&' then scanner.anchorName .anchor
  else if character == '!' then scanner.tagToken
  else if character == '|' && !scanner.inFlow then scanner.blockScalar false
  else if character == '>' && !scanner.inFlow then scanner.blockScalar true
  else if character == '"' || character == Char.ofNat 0x27 then scanner.quotedScalar character
  else if scanner.atPlain character then scanner.plainScalar
  else none

/-- The scanner goes on to the end, where every block is closed. -/
def Scanner.run : (fuel : Nat) → Scanner → Option (List YamlToken)
  | 0, _ => none
  | fuel + 1, scanner => do
      let placed ← (scanner.toNextToken (scanner.cursor.rest.length + 1)).dropStale
      let closed := placed.closeBlocks placed.column
      match closed.cursor.next with
      | none =>
          let finished ← closed.closeDocument
          pure finished.tokens.toList
      | some character =>
          let next ← closed.token character
          Scanner.run fuel next

/-- A text has tokens only when it is made of allowed characters. -/
def YamlToken.scan (text : List Char) : Option (List YamlToken) :=
  if text.all isYamlCharacter then Scanner.run (2 * text.length + 2) (.start text) else none

end RoutineAtlas
