import RoutineAtlas.Host.Script.Quotation

/-
This file cuts small scripts into tokens. A document that stands below its line is put in place
of the word that ends it.
-/

namespace RoutineAtlas

/-- A redirection reads, writes, adds to a file, copies a descriptor, or gives a document. -/
inductive RedirectionKind where
  | reading
  | writing
  | appending
  | copying
  | document
  deriving DecidableEq, Repr

/-- A token is a word, a mark of the language, or a redirection of a descriptor. The last token is
the end of the script, or the fault at which reading stopped. -/
inductive ScriptToken where
  | word (pieces : ScriptWord)
  | mark (text : String)
  | redirection (descriptor : Nat) (kind : RedirectionKind)
  | finish
  | broken (reason : String)
  deriving Repr, Inhabited

/-- A token stands in a line. -/
structure PlacedToken where
  token : ScriptToken
  line : Nat
  deriving Repr, Inhabited

/-- A document is announced by the word at its end, may be taken as it is, and may be indented. -/
structure AnnouncedDocument where
  ending : ScriptText
  isLiteral : Bool
  isIndented : Bool
  deriving DecidableEq, Repr

/-- These are the tokens so far, the last first, and the documents that were announced or read. -/
structure TokenReading where
  tokens : List PlacedToken
  announcing : Option Bool
  announced : List AnnouncedDocument
  documents : List ScriptWord

/-- Nothing has been read at first. -/
def TokenReading.start : TokenReading where
  tokens := []
  announcing := none
  announced := []
  documents := []

/-- A token is added. -/
def TokenReading.put (reading : TokenReading) (line : Nat) (token : ScriptToken) : TokenReading :=
  { reading with tokens := { token, line } :: reading.tokens }

/-- A word is added, and it may announce a document. -/
def TokenReading.putWord (reading : TokenReading) (line : Nat) (word : ScriptWord) :
    TokenReading :=
  let added := reading.put line (.word word)
  match reading.announcing with
  | none => added
  | some isIndented =>
      let document : AnnouncedDocument := {
        ending := literalSpelling word
        isLiteral := (plainSpelling word).isNone
        isIndented }
      { added with announcing := none, announced := reading.announced ++ [document] }

/-- The lines of a document go to the line that ends it. -/
def takeDocument (document : AnnouncedDocument) : List ScriptText → ScriptText × Nat
  | [] => ([], 0)
  | line :: rest =>
      let kept := if document.isIndented then line.dropWhile (· == '\t') else line
      if kept = document.ending then ([], 1)
      else
        let (text, count) := takeDocument document rest
        (kept ++ '\n' :: text, count + 1)

/-- The announced documents are read from the beginning of a line. -/
def TokenReading.readDocuments (reading : TokenReading) :
    List AnnouncedDocument → ScriptCursor → Except ScriptFault (TokenReading × ScriptCursor)
  | [], cursor => .ok ({ reading with announced := [] }, cursor)
  | document :: rest, cursor => do
      let lines := splitTextLines cursor.rest
      let (text, count) := takeDocument document lines
      let places := ((lines.take count).map fun line => line.length + 1).sum
      let written : ScriptCursor := { rest := text, line := cursor.line }
      let (word, _) ← if document.isLiteral then pure (text.map (.character · true), written)
        else written.word .document
      ({ reading with documents := reading.documents ++ [word] }).readDocuments rest
        (cursor.drop places)

/-- These marks have two characters. -/
def wideMarks : List String := ["&&", "||", ";;"]

/-- These signs redirect a descriptor, and the longer ones come first. -/
def redirectionSigns : List (String × Nat × RedirectionKind × Bool) := [
  ("<<-", 0, .document, true), ("<<", 0, .document, false), ("<&", 0, .copying, false),
  (">&", 1, .copying, false), (">>", 1, .appending, false), (">|", 1, .writing, false),
  ("<", 0, .reading, false), (">", 1, .writing, false)]

/-- A redirection is added, and its descriptor may be given. -/
def TokenReading.redirect (reading : TokenReading) (cursor : ScriptCursor)
    (descriptor : Option Nat) : Option (TokenReading × ScriptCursor) :=
  (redirectionSigns.find? fun entry => entry.1.toList.isPrefixOf cursor.rest).map
    fun (sign, usual, kind, isIndented) =>
      let added := reading.put cursor.line (.redirection (descriptor.getD usual) kind)
      ({ added with announcing := if kind = .document then some isIndented else none },
        cursor.drop sign.length)

/-- A word of one digit is a descriptor when a redirection follows it at once. -/
def descriptorOf (word : ScriptWord) (cursor : ScriptCursor) : Option Nat :=
  match word, cursor.rest.head? with
  | [.character digit false], some sign =>
      if digit.isDigit && (sign = '<' || sign = '>') then some (digit.toNat - 48) else none
  | _, _ => none

/-- The next token is read, after blanks. -/
def TokenReading.step (reading : TokenReading) (character : Char) (cursor : ScriptCursor) :
    Except ScriptFault (TokenReading × ScriptCursor) :=
  let wide := spelledText (cursor.rest.take 2)
  if [' ', '\t'].contains character then .ok (reading, cursor.drop 1)
  else if cursor.rest.take 2 = ['\\', '\n'] then .ok (reading, cursor.drop 2)
  else if character = '#' then
    .ok (reading, cursor.drop (cursor.rest.takeWhile (· != '\n')).length)
  else if character = '\n' then
    let after := cursor.drop 1
    (reading.put after.line (.mark "\n")).readDocuments reading.announced after
  else if character = '<' || character = '>' then
    .ok ((reading.redirect cursor none).getD (reading, cursor.drop 1))
  else if wideMarks.contains wide then .ok (reading.put cursor.line (.mark wide), cursor.drop 2)
  else if isWordEnd character then
    .ok (reading.put cursor.line (.mark (String.singleton character)), cursor.drop 1)
  else do
    let (word, after) ← cursor.word .plain
    match (descriptorOf word after).bind fun digit => reading.redirect after (some digit) with
    | some redirected => pure redirected
    | none => pure (reading.putWord cursor.line word, after)

/-- The tokens of a script go to its end, or to a fault. -/
def TokenReading.run : (fuel : Nat) → TokenReading → ScriptCursor → TokenReading
  | 0, reading, cursor => reading.put cursor.line .finish
  | fuel + 1, reading, cursor =>
      match cursor.rest with
      | [] => reading.put cursor.line .finish
      | character :: _ =>
          match reading.step character cursor with
          | .ok (next, after) => next.run fuel after
          | .error fault => reading.put fault.line (.broken fault.reason)

/-- Each document takes the place of the word that announced it. -/
def placeDocuments : List ScriptWord → List PlacedToken → List PlacedToken
  | documents, first :: second :: rest =>
      match first.token, second.token with
      | .redirection _ .document, .word _ =>
          first :: { second with token := .word (documents.headD []) } ::
            placeDocuments (documents.drop 1) rest
      | _, _ => first :: placeDocuments documents (second :: rest)
  | _, tokens => tokens

/-- A script is cut into tokens from a line on. -/
def scriptTokens (script : ScriptText) (line : Nat) : List PlacedToken :=
  let reading := TokenReading.start.run (2 * script.length + 2) { rest := script, line }
  placeDocuments reading.documents reading.tokens.reverse

end RoutineAtlas
