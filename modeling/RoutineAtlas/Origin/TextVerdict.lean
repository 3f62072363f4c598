import RoutineAtlas.Text.Recognizer

/-
This file judges by the text of a source whether the vendor or a customer wrote it.
-/

namespace RoutineAtlas

/-- A text speaks for a customer, for the vendor, or for neither. -/
inductive TextVerdict where
  | custom
  | standard
  | inconclusive
  deriving DecidableEq, Repr

/-- This is the verdict's name in answers. -/
def TextVerdict.label : TextVerdict → String
  | .custom => "custom"
  | .standard => "standard"
  | .inconclusive => "inconclusive"

/-- A text that speaks for nobody counts as the vendor's. -/
def TextVerdict.isStandard (verdict : TextVerdict) : Bool :=
  verdict != .custom

/-- The phrase is a name after at least one blank. -/
def afterBlanksAndName : Recognizer := fun text => do
  let name ← afterBlanks text
  if startsWithWord name then some name else none

/-- The first of the recognisers that applies is taken. -/
def firstOf (recognizers : List Recognizer) : Recognizer := fun text =>
  recognizers.findSome? fun recognizer => recognizer text

/-- The phrase declares a function that everybody can call. -/
def userDeclaration : Recognizer := fun text => do
  let keyword ← afterLiteral "USER" (skipBlanks text) >>= afterBlanks
  let name ← firstOf [afterLiteral "FUNCTION", afterLiteral "PROCEDURE"] keyword
  afterBlanksAndName name

/-- The phrase includes one of the vendor's headers. -/
def vendorInclude : Recognizer := fun text => do
  let directive ← afterLiteral "#" (skipBlanks text)
  let quoted ← afterSpaced "INCLUDE" directive >>= afterBlanks
  let header ← afterQuote quoted
  let ending ← firstOf
    [afterLiteral "FIVEWIN", afterLiteral "TOTVS", afterLiteral "PROTHEUS"] header
  afterLiteral ".CH" ending >>= afterQuote

/-- The phrase is the keyword of the main function, which may be missing. -/
def afterMainKeyword (text : List Char) : List Char :=
  ((afterLiteral "MAIN" text) >>= afterBlanks).getD text

/-- The phrase declares a function in the vendor's manner. -/
def plainDeclaration : Recognizer := fun text => do
  let keyword ← afterLiteral "FUNCTION" (afterMainKeyword (skipBlanks text))
  afterBlanksAndName keyword

/-- The phrase opens the menu definition. -/
def menuDefinition : Recognizer := fun text => do
  let name ← afterLiteral "MENUDEF" text
  afterSpaced "(" name

/-- A customer's declaration outweighs every mark of the vendor. -/
def TextVerdict.of (upper : String) : TextVerdict :=
  if holdsAtLineStart userDeclaration upper then .custom
  else if holdsAtLineStart vendorInclude upper || holdsAtLineStart plainDeclaration upper ||
      holdsAtWordStart menuDefinition upper || holdsAtWordStart (afterWord "WSSERVICE") upper then
    .standard
  else .inconclusive

end RoutineAtlas
