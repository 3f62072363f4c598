import RoutineAtlas.Text.BlankCharacter
import RoutineAtlas.Text.WordCharacter

/-
This file recognises phrases of source code. A recogniser looks at the start of a text and
answers what is left after its phrase, and a search tries it at every place that is allowed.
-/

namespace RoutineAtlas

/-- A recogniser answers the rest of the text after its phrase. -/
abbrev Recognizer := List Char → Option (List Char)

/-- The phrase is exactly this list of characters. -/
def afterCharacters : List Char → Recognizer
  | [], text => some text
  | _ :: _, [] => none
  | expected :: others, character :: rest =>
      if character = expected then afterCharacters others rest else none

/-- The phrase is exactly this text. -/
def afterLiteral (literal : String) : Recognizer :=
  afterCharacters literal.toList

/-- The phrase is at least one blank, and all the blanks that follow. -/
def afterBlanks : Recognizer
  | [] => none
  | character :: rest => if isBlank character then some (skipBlanks rest) else none

/-- The phrase is a single or a double quote. -/
def afterQuote : Recognizer
  | [] => none
  | character :: rest =>
      if character = '"' ∨ character = Char.ofNat 39 then some rest else none

/-- The phrase is the literal after any blanks. -/
def afterSpaced (literal : String) : Recognizer := fun text =>
  afterLiteral literal (skipBlanks text)

/-- The phrase is the content between two quotes of either kind. -/
def afterQuoted (content : String) : Recognizer := fun text => do
  let inside ← afterQuote (skipBlanks text)
  let closing ← afterLiteral content inside
  afterQuote closing

/-- Folding takes each ASCII letter, and the two characters that fold to one, to upper case. -/
def foldLetter (character : Char) : Char :=
  if character.toNat = 0x17F then 'S'
  else if character.toNat = 0x212A then 'K'
  else character.toUpper

/-- The phrase is these characters, with each letter in any case. -/
def afterFoldedCharacters : List Char → Recognizer
  | [], text => some text
  | _ :: _, [] => none
  | expected :: others, character :: rest =>
      if foldLetter character = expected then afterFoldedCharacters others rest else none

/-- The phrase is the literal, an upper-case text, written in any case. -/
def afterFolded (literal : String) : Recognizer :=
  afterFoldedCharacters literal.toList

/-- A text starts with a word character. -/
def startsWithWord : List Char → Bool
  | [] => false
  | character :: _ => isWord character

/-- The phrase is the literal, and no word goes on after it. -/
def afterWord (literal : String) : Recognizer := fun text =>
  match afterLiteral literal text with
  | some rest => if startsWithWord rest then none else some rest
  | none => none

/-- The recogniser finds its phrase somewhere in the text. -/
def occursAnywhere (recognizer : Recognizer) : List Char → Bool
  | [] => (recognizer []).isSome
  | character :: rest =>
      (recognizer (character :: rest)).isSome || occursAnywhere recognizer rest

/-- The recogniser finds its phrase where no word goes on before it. -/
def occursAtWordStart (recognizer : Recognizer) : (afterWord : Bool) → List Char → Bool
  | _, [] => false
  | afterWord, character :: rest =>
      (!afterWord && (recognizer (character :: rest)).isSome) ||
        occursAtWordStart recognizer (isWord character) rest

/-- The recogniser finds its phrase at the start of a line. -/
def occursAtLineStart (recognizer : Recognizer) : (lineStart : Bool) → List Char → Bool
  | lineStart, [] => lineStart && (recognizer []).isSome
  | lineStart, character :: rest =>
      (lineStart && (recognizer (character :: rest)).isSome) ||
        occursAtLineStart recognizer (character == '\n') rest

/-- This counts the places where the phrase begins and no word goes on before it. -/
def countAtWordStart (recognizer : Recognizer) : (afterWord : Bool) → List Char → Nat
  | _, [] => 0
  | afterWord, character :: rest =>
      (if !afterWord && (recognizer (character :: rest)).isSome then 1 else 0) +
        countAtWordStart recognizer (isWord character) rest

/-- The text holds the phrase. -/
def holdsPhrase (recognizer : Recognizer) (text : String) : Bool :=
  occursAnywhere recognizer text.toList

/-- The text holds the phrase with no word going on before it. -/
def holdsAtWordStart (recognizer : Recognizer) (text : String) : Bool :=
  occursAtWordStart recognizer false text.toList

/-- A line of the text begins with the phrase. -/
def holdsAtLineStart (recognizer : Recognizer) (text : String) : Bool :=
  occursAtLineStart recognizer true text.toList

/-- The text holds one of the words. -/
def holdsWord (words : List String) (text : String) : Bool :=
  words.any fun word => holdsAtWordStart (afterWord word) text

/-- What is left after the expected characters is the rest of the text. -/
theorem afterCharacters_eq_some {expected text rest : List Char} :
    afterCharacters expected text = some rest ↔ text = expected ++ rest := by
  induction expected generalizing text with
  | nil => simp [afterCharacters]
  | cons first others inductionHypothesis =>
      cases text with
      | nil => simp [afterCharacters]
      | cons character following =>
          by_cases same : character = first
          · simp [afterCharacters, same, inductionHypothesis]
          · simp [afterCharacters, same]

theorem afterLiteral_eq_some {literal : String} {text rest : List Char} :
    afterLiteral literal text = some rest ↔ text = literal.toList ++ rest :=
  afterCharacters_eq_some

end RoutineAtlas
