import RoutineAtlas.Host.Script.Word

/-
This file reads the words of small scripts. A quotation ends where its mark comes again, and a
dollar sign begins a value that may hold words and scripts of its own.
-/

namespace RoutineAtlas

/-- A fault in the text of a script is noticed in one of its lines. -/
structure ScriptFault where
  line : Nat
  reason : String
  deriving DecidableEq, Repr

/-- This is what is left of a script, and the number of its line. -/
structure ScriptCursor where
  rest : ScriptText
  line : Nat
  deriving DecidableEq, Repr

/-- Some characters are passed over, and line feeds are counted. -/
def ScriptCursor.drop (cursor : ScriptCursor) (count : Nat) : ScriptCursor where
  rest := cursor.rest.drop count
  line := cursor.line + (cursor.rest.take count).count '\n'

/-- A word is read outside quotations, between double quotation marks, between braces, or as a
document in which only values are replaced. -/
inductive WordContext where
  | plain
  | double
  | braced (isQuoted : Bool)
  | document
  deriving DecidableEq, Repr

/-- Characters count as quoted when they cannot be split or stand for others. -/
def WordContext.isQuoted : WordContext → Bool
  | .plain => false
  | .double => true
  | .braced isQuoted => isQuoted
  | .document => true

/-- These characters separate words. -/
def isWordEnd (character : Char) : Bool :=
  [' ', '\t', '\n', ';', '&', '|', '(', ')', '<', '>'].contains character

/-- The word ends before or with this character. -/
def WordContext.endsAt : WordContext → Char → Bool
  | .plain, character => isWordEnd character
  | .double, character => character == '"'
  | .braced _, character => character == '\x7d'
  | .document, _ => false

/-- The character that ends a word belongs to it when it is a closing mark. -/
def WordContext.isClosed : WordContext → Bool
  | .plain => false
  | .double => true
  | .braced _ => true
  | .document => false

/-- Where the script ends, a closing mark may be missing. -/
def WordContext.missing? : WordContext → Option String
  | .double => some "Unterminated quoted string"
  | .braced _ => some "Missing '\x7d'"
  | _ => none

/-- After a backslash these characters lose their meaning, and the backslash goes. -/
def WordContext.unescapes : WordContext → Char → Bool
  | .plain, _ => true
  | .braced false, _ => true
  | .double, character => ['$', '"', '\\', backQuotation].contains character
  | .braced true, character => ['$', '"', '\\', backQuotation, '\x7d'].contains character
  | .document, character => ['$', '\\', backQuotation].contains character

/-- The inside of parentheses is looked through in parentheses, in quotations, and in a choice,
where patterns end with a parenthesis. -/
inductive InsideMode where
  | parentheses
  | single
  | double
  | choice
  deriving DecidableEq, Repr

/-- After these words another command can begin. -/
def leadingWords : List String :=
  ["!", "\x7b", "do", "elif", "else", "if", "then", "until", "while"]

/-- A command can begin behind these characters. -/
def beginsCommand (character : Char) : Bool :=
  ['\n', ';', '&', '|', '(', ')'].contains character

/-- The inside of parentheses has as many characters as there are up to the one that closes them.
The modes that were entered are left one by one. -/
def insideLength : (fuel : Nat) → (modes : List InsideMode) → (atCommand : Bool) → ScriptText →
    Option Nat
  | 0, _, _, _ => none
  | _ + 1, _, _, [] => none
  | fuel + 1, modes, atCommand, character :: rest =>
      let go (next : List InsideMode) (begins : Bool) (count : Nat) : Option Nat :=
        (insideLength fuel next begins ((character :: rest).drop count)).map (count + ·)
      match modes with
      | [] => some 0
      | .single :: outer =>
          go (if character = singleQuotation then outer else modes) false 1
      | .double :: outer =>
          if character = '\\' then go modes false 2
          else if character = '"' then go outer false 1
          else if character = '$' && rest.head? = some '(' then go (.parentheses :: modes) true 2
          else go modes false 1
      | mode :: outer =>
          let word := spelledText ((character :: rest).takeWhile fun next => !isWordEnd next)
          if character = '\\' then go modes false 2
          else if character = singleQuotation then go (.single :: modes) false 1
          else if character = '"' then go (.double :: modes) false 1
          else if character = '(' then go (.parentheses :: modes) true 1
          else if character = ')' && mode = .choice then go modes true 1
          else if character = ')' then
            if outer.isEmpty then some 0 else go outer true 1
          else if atCommand && word = "case" then go (.choice :: modes) false 4
          else if atCommand && word = "esac" && mode = .choice then go outer false 4
          else if atCommand && leadingWords.contains word then go modes true word.length
          else
            go modes (beginsCommand character || (atCommand && [' ', '\t'].contains character)) 1

/-- The inside of parentheses, in which another one may be open already. -/
def insideParentheses? (isTwice : Bool) (text : ScriptText) : Option ScriptText :=
  let modes := if isTwice then [InsideMode.parentheses, .parentheses] else [.parentheses]
  (insideLength (text.length + 1) modes true text).map text.take

/-- The inside of back quotation marks goes to the next one, and some backslashes go. -/
def splitBackQuotation (isQuoted : Bool) : ScriptText → Option (ScriptText × Nat)
  | [] => none
  | '\\' :: character :: rest =>
      let isBare := ['$', '\\', backQuotation].contains character || (isQuoted && character == '"')
      (splitBackQuotation isQuoted rest).map fun (inside, places) =>
        (if isBare then character :: inside else '\\' :: character :: inside, places + 2)
  | character :: rest =>
      if character = backQuotation then some ([], 1)
      else (splitBackQuotation isQuoted rest).map fun (inside, places) =>
        (character :: inside, places + 1)

/-- This is how a value is changed by the word behind the sign. -/
def valueChange? : ScriptText → Option (ValueChange × Nat)
  | ':' :: '-' :: _ => some (.usual true, 2)
  | ':' :: '=' :: _ => some (.assigned true, 2)
  | ':' :: '+' :: _ => some (.instead true, 2)
  | ':' :: '?' :: _ => some (.required true, 2)
  | '-' :: _ => some (.usual false, 1)
  | '=' :: _ => some (.assigned false, 1)
  | '+' :: _ => some (.instead false, 1)
  | '?' :: _ => some (.required false, 1)
  | '%' :: '%' :: _ => some (.without { atStart := false, isLongest := true }, 2)
  | '%' :: _ => some (.without { atStart := false, isLongest := false }, 1)
  | '#' :: '#' :: _ => some (.without { atStart := true, isLongest := true }, 2)
  | '#' :: _ => some (.without { atStart := true, isLongest := false }, 1)
  | _ => none

/-- The name between braces is a sign, or letters, digits and underscores. -/
def bracedName (text : ScriptText) : ScriptText :=
  let name := text.takeWhile isNameCharacter
  if name.isEmpty then text.take 1 else name

mutual

/-- A word is read piece by piece to its end. -/
def readWord : (fuel : Nat) → WordContext → ScriptCursor →
    Except ScriptFault (ScriptWord × ScriptCursor)
  | 0, _, cursor => .ok ([], cursor)
  | fuel + 1, context, cursor =>
      match cursor.rest with
      | [] =>
          match context.missing? with
          | some reason => .error { line := cursor.line, reason }
          | none => .ok ([], cursor)
      | character :: _ =>
          if context.endsAt character then
            .ok ([], if context.isClosed then cursor.drop 1 else cursor)
          else do
            let (pieces, following) ← readPieces fuel context character (cursor.drop 1)
            let (others, last) ← readWord fuel context following
            pure (pieces ++ others, last)

/-- A character begins a quotation or a value, or it stands for itself. -/
def readPieces : (fuel : Nat) → WordContext → Char → ScriptCursor →
    Except ScriptFault (ScriptWord × ScriptCursor)
  | 0, _, _, cursor => .ok ([], cursor)
  | fuel + 1, context, character, cursor =>
      let itself : ScriptWord := [.character character context.isQuoted]
      if character = singleQuotation && !context.isQuoted then
        let inside := cursor.rest.takeWhile (· != singleQuotation)
        if inside.length = cursor.rest.length then
          let line := (cursor.drop inside.length).line
          .error { line, reason := "Unterminated quoted string" }
        else
          .ok (.quotation :: inside.map (.character · true), cursor.drop (inside.length + 1))
      else if character = '"' && context != .document then do
        let (inside, following) ← readWord fuel .double cursor
        pure (.quotation :: inside, following)
      else if character = '\\' then
        match cursor.rest with
        | [] => .ok (itself, cursor)
        | escaped :: _ =>
            if escaped = '\n' then .ok ([], cursor.drop 1)
            else if context.unescapes escaped then
              .ok ([.character escaped true], cursor.drop 1)
            else .ok (itself, cursor)
      else if character = '$' then readScriptValue fuel context.isQuoted cursor
      else if character = backQuotation then
        match splitBackQuotation context.isQuoted cursor.rest with
        | some (script, places) =>
            .ok ([.output script 1 context.isQuoted], cursor.drop places)
        | none => .error {
            line := (cursor.drop cursor.rest.length).line
            reason := "EOF in backquote substitution" }
      else .ok (itself, cursor)

/-- After a dollar sign comes a value, a script, a number, or the sign stands for itself. -/
def readScriptValue : (fuel : Nat) → (isQuoted : Bool) → ScriptCursor →
    Except ScriptFault (ScriptWord × ScriptCursor)
  | 0, _, cursor => .ok ([], cursor)
  | fuel + 1, isQuoted, cursor =>
      let refuse (reason : String) : Except ScriptFault (ScriptWord × ScriptCursor) :=
        .error { line := (cursor.drop cursor.rest.length).line, reason }
      match cursor.rest with
      | '(' :: '(' :: after =>
          match insideParentheses? true after with
          | some inside =>
              if inside.getLast? = some ')' then do
                let written : ScriptCursor := { rest := inside.dropLast, line := cursor.line }
                let (expression, _) ← readWord fuel .document written
                pure ([.number expression isQuoted], cursor.drop (inside.length + 3))
              else refuse "Missing '))'"
          | none => refuse "Missing '))'"
      | '(' :: after =>
          match insideParentheses? false after with
          | some inside =>
              .ok ([.output inside cursor.line isQuoted], cursor.drop (inside.length + 2))
          | none => refuse "end of file unexpected (expecting \")\")"
      | '\x7b' :: _ => readBraced fuel isQuoted (cursor.drop 1)
      | character :: _ =>
          match scriptValue? character with
          | some value => .ok ([.value value isQuoted], cursor.drop 1)
          | none =>
              if isNameCharacter character then
                let name := cursor.rest.takeWhile isNameCharacter
                .ok ([.value (.variable (spelledText name)) isQuoted], cursor.drop name.length)
              else .ok ([.character '$' isQuoted], cursor)
      | [] => .ok ([.character '$' isQuoted], cursor)

/-- Between braces a value may be measured or changed. -/
def readBraced : (fuel : Nat) → (isQuoted : Bool) → ScriptCursor →
    Except ScriptFault (ScriptWord × ScriptCursor)
  | 0, _, cursor => .ok ([], cursor)
  | fuel + 1, isQuoted, cursor =>
      let refuse (places : Nat) : Except ScriptFault (ScriptWord × ScriptCursor) := do
        let (_, following) ← readWord fuel (.braced isQuoted) (cursor.drop places)
        pure ([.refused], following)
      match cursor.rest with
      | '#' :: '\x7d' :: _ => .ok ([.value .argumentCount isQuoted], cursor.drop 2)
      | '#' :: after =>
          let name := bracedName after
          match bracedValue name with
          | some value =>
              if after.drop name.length |>.head? |>.any (· == '\x7d') then
                .ok ([.length value isQuoted], cursor.drop (name.length + 2))
              else refuse (name.length + 1)
          | none => refuse 1
      | text =>
          let name := bracedName text
          match bracedValue name with
          | none => refuse 0
          | some value =>
              match text.drop name.length with
              | '\x7d' :: _ => .ok ([.value value isQuoted], cursor.drop (name.length + 1))
              | signs =>
                  match valueChange? signs with
                  | none => refuse name.length
                  | some (change, places) => do
                      let (word, following) ←
                        readWord fuel (.braced isQuoted) (cursor.drop (name.length + places))
                      pure ([.changed value change word isQuoted], following)

end

/-- A word is read to its end, however deep it is. -/
def ScriptCursor.word (cursor : ScriptCursor) (context : WordContext) :
    Except ScriptFault (ScriptWord × ScriptCursor) :=
  readWord (4 * cursor.rest.length + 8) context cursor

end RoutineAtlas
