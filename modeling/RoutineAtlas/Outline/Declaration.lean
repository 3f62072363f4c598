import RoutineAtlas.Text.Recognizer

/-
This file recognises the lines of a source that declare, include or document something.
-/

namespace RoutineAtlas

/-- The kinds of declarations that an outline tells apart. -/
inductive DeclarationKind where
  | userFunction
  | staticFunction
  | function
  | classDefinition
  | method
  deriving DecidableEq, Repr

/-- These are all kinds. -/
def DeclarationKind.all : List DeclarationKind :=
  [.userFunction, .staticFunction, .function, .classDefinition, .method]

/-- This is the kind's name in answers. -/
def DeclarationKind.label : DeclarationKind → String
  | .userFunction => "user_function"
  | .staticFunction => "static_function"
  | .function => "function"
  | .classDefinition => "class"
  | .method => "method"

/-- A declaration keeps its line and whether documentation stands before it. -/
structure Declaration where
  kind : DeclarationKind
  name : String
  line : Nat
  documented : Bool
  deriving DecidableEq, Repr

/-- A name starts with a letter or an underscore. -/
def startsName (character : Char) : Bool :=
  (foldLetter character).isUpper || character == '_'

/-- A name goes on with letters, digits and underscores. -/
def continuesName (character : Char) : Bool :=
  startsName character || character.isDigit

/-- A name at the start of the text. -/
def leadingName : List Char → Option String
  | [] => none
  | character :: rest =>
      if startsName character then some (String.ofList (character :: rest.takeWhile continuesName))
      else none

/-- A keyword of two words has blanks between them. -/
def afterTwoWords (first second : String) : Recognizer := fun text => do
  let between ← afterFolded first text
  afterBlanks between >>= afterFolded second

/-- The short and the long keyword of a static function are the same. -/
def afterStaticFunction : Recognizer := fun text => do
  let short ← afterTwoWords "STATIC" "FUNC" text
  pure ((afterFolded "TION" short).getD short)

/-- These are the keywords that declare something. -/
def declarationKeywords : List Recognizer :=
  [afterTwoWords "USER" "FUNCTION", afterStaticFunction, afterTwoWords "STATIC" "PROCEDURE",
    afterTwoWords "MAIN" "FUNCTION", afterFolded "FUNCTION", afterFolded "CLASS",
    afterFolded "METHOD", afterFolded "WSMETHOD"]

/-- The kind depends on the ASCII letters of the keyword alone. -/
def DeclarationKind.of (keyword : List Char) : DeclarationKind :=
  let upper := keyword.map Char.toUpper
  if "USER".toList.isPrefixOf upper then .userFunction
  else if "STATIC".toList.isPrefixOf upper then .staticFunction
  else if upper = "CLASS".toList then .classDefinition
  else if "METHOD".toList.isSuffixOf upper then .method
  else .function

/-- A keyword declares the name that follows it after blanks. -/
def declaredBy (keyword : Recognizer) (text : List Char) : Option (DeclarationKind × String) := do
  let rest ← keyword text
  let name ← afterBlanks rest >>= leadingName
  pure (DeclarationKind.of (text.take (text.length - rest.length)), name)

/-- A line declares what the first keyword that fits it declares. -/
def declarationOf (line : List Char) : Option (DeclarationKind × String) :=
  declarationKeywords.findSome? fun keyword => declaredBy keyword (skipBlanks line)

/-- The phrase is the mark of a documentation block. -/
def documentationMark : Recognizer := fun text => do
  let inside ← afterLiteral "\x7b" text
  let word ← afterFolded "PROTHEUS.DOC" (skipBlanks inside)
  afterSpaced "\x7d" word

/-- A line documents what follows it. -/
def isDocumentation (line : List Char) : Bool :=
  occursAnywhere documentationMark line

/-- A quote of either kind. -/
def isQuote (character : Char) : Bool :=
  character == '"' || character == Char.ofNat 39

/-- A line may include a header, whose name stands between quotes and is not empty. -/
def includeOf (line : List Char) : Option String := do
  let directive ← afterLiteral "#" (skipBlanks line)
  let word ← afterFolded "INCLUDE" (skipBlanks directive)
  let header ← afterBlanks word >>= afterQuote
  let name := header.takeWhile fun character => !isQuote character
  match header.dropWhile fun character => !isQuote character with
  | [] => none
  | _ :: _ => if name.isEmpty then none else some (String.ofList name)

end RoutineAtlas
