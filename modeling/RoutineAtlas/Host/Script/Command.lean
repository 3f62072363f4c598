import RoutineAtlas.Host.Script.Token

/-
This file reads the commands of small scripts from tokens. A script is read line by line, so the
lines before a fault can run.
-/

namespace RoutineAtlas

/-- A redirection has a descriptor and a word, which says where it leads. -/
structure Redirection where
  descriptor : Nat
  kind : RedirectionKind
  word : ScriptWord
  deriving Repr

/-- A simple command stands in a line and may begin with assignments. -/
structure SimpleCommand where
  line : Nat
  assignments : List (String × ScriptWord)
  words : List ScriptWord
  redirections : List Redirection
  deriving Repr, Inhabited

/-- Commands run one after the other, or depend on the status of another command, or are chosen by
a word, or run again and again. A name can be given to a command. -/
inductive ScriptCommand where
  | nothing
  | simple (command : SimpleCommand)
  | sequence (first second : ScriptCommand)
  | both (first second : ScriptCommand)
  | either (first second : ScriptCommand)
  | negated (command : ScriptCommand)
  | aside (command : ScriptCommand)
  | piped (first second : ScriptCommand)
  | redirected (line : Nat) (command : ScriptCommand) (redirections : List Redirection)
  | apart (command : ScriptCommand)
  | condition (question positive negative : ScriptCommand)
  | repeated (goesOnWhile : Bool) (question body : ScriptCommand)
  | each (line : Nat) (name : String) (words : List ScriptWord) (body : ScriptCommand)
  | choice (line : Nat) (subject : ScriptWord) (branches : List (List ScriptWord × ScriptCommand))
  | definition (name : String) (body : ScriptCommand)
  deriving Repr, Inhabited

/-- Nothing is to be done. -/
def ScriptCommand.isNothing : ScriptCommand → Bool
  | .nothing => true
  | _ => false

/-- These words have a meaning where a command can begin. -/
def languageWords : List String :=
  ["!", "\x7b", "\x7d", "case", "do", "done", "elif", "else", "esac", "fi", "for", "if", "in",
    "then", "until", "while"]

/-- These words and marks end a list of commands. -/
def listEnds : List String :=
  ["\x7d", "do", "done", "elif", "else", "esac", "fi", "then", ")", ";;"]

/-- A token may be a word of the language. -/
def ScriptToken.languageWord? : ScriptToken → Option String
  | .word pieces => (plainSpelling pieces).filter languageWords.contains
  | _ => none

/-- A token is a certain mark. -/
def ScriptToken.isMark (token : ScriptToken) (text : String) : Bool :=
  match token with
  | .mark other => other == text
  | _ => false

/-- The next token, which is never missing. -/
def nextToken (tokens : List PlacedToken) : ScriptToken :=
  (tokens.head?.map PlacedToken.token).getD .finish

/-- The next token is a certain mark. -/
def nextIsMark (text : String) (tokens : List PlacedToken) : Bool :=
  (nextToken tokens).isMark text

/-- The next token is a certain word of the language. -/
def nextIsWord (word : String) (tokens : List PlacedToken) : Bool :=
  (nextToken tokens).languageWord? == some word

/-- The next token ends a list of commands. -/
def atListEnd (tokens : List PlacedToken) : Bool :=
  match nextToken tokens with
  | .mark text => listEnds.contains text
  | token => token.languageWord?.any listEnds.contains

/-- This is how a token is called in a complaint. -/
def ScriptToken.label : ScriptToken → String
  | .finish => "end of file"
  | .redirection _ _ => "redirection"
  | .mark "\n" => "newline"
  | .mark text => "\"" ++ text ++ "\""
  | .broken reason => reason
  | token =>
      match token.languageWord? with
      | some found => "\"" ++ found ++ "\""
      | none => "word"

/-- The next token was not expected, and another one may have been. -/
def unexpected (tokens : List PlacedToken) (wanted : Option String) : ScriptFault :=
  let reason := match nextToken tokens, wanted with
    | .broken reason, _ => reason
    | token, some word => token.label ++ " unexpected (expecting " ++ word ++ ")"
    | token, none => token.label ++ " unexpected"
  { line := (tokens.head?.map PlacedToken.line).getD 0, reason }

/-- A certain word of the language comes next and is passed over. -/
def expectWord (word : String) (tokens : List PlacedToken) :
    Except ScriptFault (List PlacedToken) :=
  if nextIsWord word tokens then .ok (tokens.drop 1)
  else .error (unexpected tokens (some ("\"" ++ word ++ "\"")))

/-- A certain mark comes next and is passed over. -/
def expectMark (text : String) (tokens : List PlacedToken) :
    Except ScriptFault (List PlacedToken) :=
  if nextIsMark text tokens then .ok (tokens.drop 1)
  else .error (unexpected tokens (some ("\"" ++ text ++ "\"")))

/-- Line feeds are passed over. -/
def skipLines (tokens : List PlacedToken) : List PlacedToken :=
  tokens.dropWhile fun placed => placed.token.isMark "\n"

/-- A word that is no word of the language. -/
def plainWord? (tokens : List PlacedToken) : Option ScriptWord :=
  match nextToken tokens with
  | .word pieces => some pieces
  | _ => none

/-- The word behind a redirection says where it leads. -/
def readRedirection (descriptor : Nat) (kind : RedirectionKind) (tokens : List PlacedToken) :
    Except ScriptFault (Redirection × List PlacedToken) :=
  match plainWord? tokens with
  | some word => .ok ({ descriptor, kind, word }, tokens.drop 1)
  | none => .error (unexpected tokens none)

/-- Redirections may stand behind a command. -/
def readRedirections : (fuel : Nat) → List Redirection → List PlacedToken →
    Except ScriptFault (List Redirection × List PlacedToken)
  | 0, done, tokens => .ok (done, tokens)
  | fuel + 1, done, tokens =>
      match nextToken tokens with
      | .redirection descriptor kind => do
          let (redirection, rest) ← readRedirection descriptor kind (tokens.drop 1)
          readRedirections fuel (done ++ [redirection]) rest
      | _ => .ok (done, tokens)

/-- A simple command takes assignments, words and redirections until another token. -/
def readSimple : (fuel : Nat) → SimpleCommand → List PlacedToken →
    Except ScriptFault (SimpleCommand × List PlacedToken)
  | 0, command, tokens => .ok (command, tokens)
  | fuel + 1, command, tokens =>
      match nextToken tokens with
      | .word word =>
          match assignment? word, command.words with
          | some assignment, [] =>
              readSimple fuel
                { command with assignments := command.assignments ++ [assignment] }
                (tokens.drop 1)
          | _, words => readSimple fuel { command with words := words ++ [word] } (tokens.drop 1)
      | .redirection descriptor kind => do
          let (redirection, rest) ← readRedirection descriptor kind (tokens.drop 1)
          readSimple fuel
            { command with redirections := command.redirections ++ [redirection] } rest
      | _ => .ok (command, tokens)

/-- The patterns of a branch are separated by bars and end with a parenthesis. -/
def readPatterns : (fuel : Nat) → List PlacedToken →
    Except ScriptFault (List ScriptWord × List PlacedToken)
  | 0, tokens => .error (unexpected tokens none)
  | fuel + 1, tokens =>
      match plainWord? tokens with
      | none => .error (unexpected tokens (some "\")\""))
      | some word =>
          if nextIsMark "|" (tokens.drop 1) then do
            let (others, rest) ← readPatterns fuel (tokens.drop 2)
            pure (word :: others, rest)
          else do
            let rest ← expectMark ")" (tokens.drop 1)
            pure ([word], rest)

/-- The words of a repetition go to the end of their line. -/
def readEachWords : List PlacedToken → Except ScriptFault (List ScriptWord × List PlacedToken)
  | [] => .ok ([], [])
  | placed :: rest =>
      match placed.token with
      | .word word => do
          let (others, after) ← readEachWords rest
          pure (word :: others, after)
      | .mark ";" => .ok ([], rest)
      | .mark "\n" => .ok ([], rest)
      | _ => .error (unexpected (placed :: rest) none)

/-- All arguments, one by one. -/
def everyArgument : List ScriptWord :=
  [[.value (.arguments true) true]]

/-- A repetition has a name and may have words. -/
def readEachHead (tokens : List PlacedToken) :
    Except ScriptFault (String × List ScriptWord × List PlacedToken) :=
  match (plainWord? tokens).bind plainSpelling with
  | some name =>
      if isVariableName name.toList then
        let start := skipLines (tokens.drop 1)
        if nextIsWord "in" start then do
          let (words, rest) ← readEachWords (start.drop 1)
          pure (name, words, skipLines rest)
        else if nextIsMark ";" start then .ok (name, everyArgument, skipLines (start.drop 1))
        else .ok (name, everyArgument, start)
      else .error { unexpected tokens none with reason := "Bad for loop variable" }
  | none => .error { unexpected tokens none with reason := "Bad for loop variable" }

/-- These names cannot be given to commands, since the language itself uses them. -/
def reservedNames : List String :=
  [".", ":", "break", "continue", "eval", "exec", "exit", "export", "readonly", "return", "set",
    "shift", "times", "trap", "unset"]

mutual

/-- The commands of a list are separated by semicolons and line feeds. -/
def readList : (fuel : Nat) → (mayBeEmpty : Bool) → List PlacedToken →
    Except ScriptFault (ScriptCommand × List PlacedToken)
  | 0, _, tokens => .error (unexpected tokens none)
  | fuel + 1, mayBeEmpty, tokens =>
      let start := skipLines tokens
      match nextToken start with
      | .finish => .ok (.nothing, start)
      | _ =>
          if mayBeEmpty && atListEnd start then .ok (.nothing, start)
          else do
            let (first, rest) ← readChain fuel start
            if nextIsMark ";" rest || nextIsMark "\n" rest then
              let (others, after) ← readList fuel true (rest.drop 1)
              pure (.sequence first others, after)
            else if nextIsMark "&" rest then
              let (others, after) ← readList fuel true (rest.drop 1)
              pure (.sequence (.aside first) others, after)
            else pure (first, rest)

/-- A chain of commands depends on the status of its first part. -/
def readChain : (fuel : Nat) → List PlacedToken →
    Except ScriptFault (ScriptCommand × List PlacedToken)
  | 0, tokens => .error (unexpected tokens none)
  | fuel + 1, tokens => do
      let (first, rest) ← readPipeline fuel tokens
      continueChain fuel first rest

/-- A longer chain depends on the chain before. -/
def continueChain : (fuel : Nat) → ScriptCommand → List PlacedToken →
    Except ScriptFault (ScriptCommand × List PlacedToken)
  | 0, _, tokens => .error (unexpected tokens none)
  | fuel + 1, first, tokens =>
      if nextIsMark "&&" tokens then do
        let (second, after) ← readPipeline fuel (skipLines (tokens.drop 1))
        continueChain fuel (.both first second) after
      else if nextIsMark "||" tokens then do
        let (second, after) ← readPipeline fuel (skipLines (tokens.drop 1))
        continueChain fuel (.either first second) after
      else .ok (first, tokens)

/-- A pipeline may be negated. -/
def readPipeline : (fuel : Nat) → List PlacedToken →
    Except ScriptFault (ScriptCommand × List PlacedToken)
  | 0, tokens => .error (unexpected tokens none)
  | fuel + 1, tokens =>
      if nextIsWord "!" tokens then do
        let (command, rest) ← readPiped fuel (tokens.drop 1)
        pure (.negated command, rest)
      else readPiped fuel tokens

/-- The output of a command may be the input of the next. -/
def readPiped : (fuel : Nat) → List PlacedToken →
    Except ScriptFault (ScriptCommand × List PlacedToken)
  | 0, tokens => .error (unexpected tokens none)
  | fuel + 1, tokens => do
      let (first, rest) ← readCommand fuel tokens
      if nextIsMark "|" rest then
        let (second, after) ← readPiped fuel (skipLines (rest.drop 1))
        pure (.piped first second, after)
      else pure (first, rest)

/-- A command starts with a word of the language, or it is a simple command. -/
def readCommand : (fuel : Nat) → List PlacedToken →
    Except ScriptFault (ScriptCommand × List PlacedToken)
  | 0, tokens => .error (unexpected tokens none)
  | fuel + 1, tokens =>
      let line := (tokens.head?.map PlacedToken.line).getD 0
      let rest := tokens.drop 1
      let whole (command : ScriptCommand) (after : List PlacedToken) :
          Except ScriptFault (ScriptCommand × List PlacedToken) := do
        let (redirections, last) ← readRedirections after.length [] after
        pure (if redirections.isEmpty then command else .redirected line command redirections, last)
      let simple : Except ScriptFault (ScriptCommand × List PlacedToken) := do
        let start : SimpleCommand := { line, assignments := [], words := [], redirections := [] }
        let (command, after) ← readSimple (tokens.length + 1) start tokens
        if nextIsMark "(" after && command.words.length = 1 && command.assignments.isEmpty &&
            command.redirections.isEmpty then
          let bodyStart ← expectMark ")" (after.drop 1)
          let name := spelledText (literalSpelling (command.words.headD []))
          if isVariableName name.toList && !reservedNames.contains name then
            let (body, last) ← readCommand fuel (skipLines bodyStart)
            pure (.definition name body, last)
          else .error { unexpected after none with reason := "Bad function name" }
        else pure (.simple command, after)
      match nextToken tokens with
      | .redirection _ _ => simple
      | .mark "(" => do
          let (command, after) ← readList fuel false rest
          whole (.apart command) (← expectMark ")" after)
      | .word _ =>
          match (nextToken tokens).languageWord? with
          | none => simple
          | some "case" =>
              match plainWord? rest with
              | some subject => do
                  let start ← expectWord "in" (skipLines (rest.drop 1))
                  let (branches, after) ← readBranches fuel (skipLines start)
                  whole (.choice line subject branches) after
              | none => .error (unexpected rest (some "word"))
          | some "if" => do
              let (command, after) ← readCondition fuel rest
              whole command after
          | some "while" => do
              let (question, body) ← readList fuel false rest
              let (command, after) ← readList fuel false (← expectWord "do" body)
              whole (.repeated true question command) (← expectWord "done" after)
          | some "until" => do
              let (question, body) ← readList fuel false rest
              let (command, after) ← readList fuel false (← expectWord "do" body)
              whole (.repeated false question command) (← expectWord "done" after)
          | some "for" => do
              let (name, words, body) ← readEachHead rest
              let (command, after) ← readList fuel false (← expectWord "do" body)
              whole (.each line name words command) (← expectWord "done" after)
          | some "\x7b" => do
              let (command, after) ← readList fuel false rest
              whole command (← expectWord "\x7d" after)
          | some _ => .error (unexpected tokens none)
      | _ => .error (unexpected tokens none)

/-- The branches of a choice end with a word of the language. -/
def readBranches : (fuel : Nat) → List PlacedToken →
    Except ScriptFault (List (List ScriptWord × ScriptCommand) × List PlacedToken)
  | 0, tokens => .error (unexpected tokens none)
  | fuel + 1, tokens =>
      if nextIsWord "esac" tokens then .ok ([], tokens.drop 1)
      else do
        let start := if nextIsMark "(" tokens then tokens.drop 1 else tokens
        let (patterns, bodyStart) ← readPatterns start.length start
        let (body, rest) ← readList fuel true bodyStart
        if nextIsMark ";;" rest then
          let (others, after) ← readBranches fuel (skipLines (rest.drop 1))
          pure ((patterns, body) :: others, after)
        else if nextIsWord "esac" rest then pure ([(patterns, body)], rest.drop 1)
        else .error (unexpected rest (some "\";;\""))

/-- A condition asks a question, and what follows a negative answer may be another condition. -/
def readCondition : (fuel : Nat) → List PlacedToken →
    Except ScriptFault (ScriptCommand × List PlacedToken)
  | 0, tokens => .error (unexpected tokens none)
  | fuel + 1, tokens => do
      let (question, afterQuestion) ← readList fuel false tokens
      let (positive, rest) ← readList fuel false (← expectWord "then" afterQuestion)
      if nextIsWord "elif" rest then
        let (negative, after) ← readCondition fuel (rest.drop 1)
        pure (.condition question positive negative, after)
      else if nextIsWord "else" rest then
        let (negative, last) ← readList fuel false (rest.drop 1)
        pure (.condition question positive negative, ← expectWord "fi" last)
      else pure (.condition question positive .nothing, ← expectWord "fi" rest)

end

/-- The commands of one line go to its end. -/
def readScriptLine : (fuel : Nat) → List PlacedToken →
    Except ScriptFault (ScriptCommand × List PlacedToken)
  | 0, tokens => .error (unexpected tokens none)
  | fuel + 1, tokens =>
      match nextToken tokens with
      | .finish => .ok (.nothing, tokens)
      | .mark "\n" => .ok (.nothing, tokens.drop 1)
      | _ => do
          let (first, rest) ← readChain (8 * (tokens.length + 1)) tokens
          match nextToken rest with
          | .finish => pure (first, rest)
          | .mark "\n" => pure (first, rest.drop 1)
          | .mark ";" =>
              let (others, after) ← readScriptLine fuel (rest.drop 1)
              pure (.sequence first others, after)
          | .mark "&" =>
              let (others, after) ← readScriptLine fuel (rest.drop 1)
              pure (.sequence (.aside first) others, after)
          | _ => .error (unexpected rest none)

/-- A program is the lines of a script, and the fault at which reading stopped. -/
structure ScriptProgram where
  lines : List ScriptCommand
  fault : Option ScriptFault

/-- The lines are read one after the other. -/
def readProgram : (fuel : Nat) → List PlacedToken → ScriptProgram
  | 0, _ => { lines := [], fault := none }
  | fuel + 1, tokens =>
      match nextToken tokens with
      | .finish => { lines := [], fault := none }
      | _ =>
          match readScriptLine (tokens.length + 1) tokens with
          | .error fault => { lines := [], fault := some fault }
          | .ok (line, rest) =>
              let program := readProgram fuel rest
              { program with lines := line :: program.lines }

/-- A script is read from a line on. -/
def ScriptProgram.read (script : ScriptText) (line : Nat) : ScriptProgram :=
  let tokens := scriptTokens script line
  readProgram (tokens.length + 1) tokens

end RoutineAtlas
