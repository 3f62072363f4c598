import RoutineAtlas.Host.Script.Text

/-
This file computes the numbers that small scripts write as expressions. Numbers have 64 bits.
-/

namespace RoutineAtlas

/-- An expression is made of numbers, names and operators. -/
inductive NumberToken where
  | number (value : Int)
  | name (text : String)
  | operator (text : String)
  deriving DecidableEq, Repr

/-- A number that leaves 64 bits begins again at their other end. -/
def wrapNumber (value : Int) : Int :=
  let width : Int := 18446744073709551616
  let reduced := value % width
  if reduced < 9223372036854775808 then reduced else reduced - width

/-- The value of a digit in some base. -/
def baseDigit (base : Nat) (character : Char) : Option Nat :=
  let value := if character.isDigit then some (character.toNat - 48)
    else if 'a' ≤ character ∧ character ≤ 'f' then some (character.toNat - 87)
    else if 'A' ≤ character ∧ character ≤ 'F' then some (character.toNat - 55)
    else none
  value.filter (· < base)

/-- Digits of some base spell a number. -/
def readBase (base : Nat) (digits : ScriptText) : Option Nat :=
  if digits.isEmpty then none
  else digits.foldlM
    (fun value digit => (baseDigit base digit).map fun unit => base * value + unit) 0

/-- The digits of a number have the base that its beginning tells. -/
def splitBase (text : ScriptText) : Nat × ScriptText :=
  match text with
  | '0' :: 'x' :: digit :: rest =>
      if (baseDigit 16 digit).isSome then (16, digit :: rest) else (8, text)
  | '0' :: 'X' :: digit :: rest =>
      if (baseDigit 16 digit).isSome then (16, digit :: rest) else (8, text)
  | '0' :: _ => (8, text)
  | _ => (10, text)

/-- A number is written in base ten, or in base sixteen or eight behind a zero. It ends before the
first character that is no digit of its base. -/
def readConstant (text : ScriptText) : Nat × ScriptText :=
  let (base, spelled) := splitBase text
  let digits := spelled.takeWhile fun digit => (baseDigit base digit).isSome
  ((readBase base digits).getD 0, spelled.drop digits.length)

/-- These operators have more than one character, and the longer ones come first. -/
def wideOperators : List String :=
  ["<<=", ">>=", "==", "!=", "<=", ">=", "&&", "||", "<<", ">>", "+=", "-=", "*=", "/=", "%=",
    "&=", "|=", "^="]

/-- An expression is cut into tokens. -/
def numberTokens : (fuel : Nat) → ScriptText → List NumberToken
  | 0, _ => []
  | _ + 1, [] => []
  | fuel + 1, character :: rest =>
      let text := character :: rest
      let word := text.takeWhile isNameCharacter
      let wide := wideOperators.find? fun operator => operator.toList.isPrefixOf text
      if [' ', '\t', '\n'].contains character then numberTokens fuel rest
      else if character.isDigit then
        .number (readConstant text).1 :: numberTokens fuel (readConstant text).2
      else if isNameCharacter character then
        .name (spelledText word) :: numberTokens fuel (text.drop word.length)
      else match wide with
        | some operator => .operator operator :: numberTokens fuel (text.drop operator.length)
        | none => .operator (String.singleton character) :: numberTokens fuel rest

/-- A computation can fail, and names are given values on the way. -/
inductive NumberFault where
  | missingOperand
  | missingColon
  | missingParenthesis
  | leftOver
  | divisionByZero
  | illegalNumber (text : String)
  deriving DecidableEq, Repr

/-- This is how a fault is told. -/
def NumberFault.message : NumberFault → String
  | .missingOperand => "arithmetic expression: expecting primary"
  | .missingColon => "arithmetic expression: expecting ':'"
  | .missingParenthesis => "arithmetic expression: expecting ')'"
  | .leftOver => "arithmetic expression: expecting EOF"
  | .divisionByZero => "arithmetic expression: division by zero"
  | .illegalNumber text => "Illegal number: " ++ text

/-- The values of names, the last one given first. -/
abbrev NumberNames := List (String × ScriptText)

/-- A truth is one or zero. -/
def truthNumber (holds : Bool) : Int :=
  if holds then 1 else 0

/-- An operator binds as strongly as its level says. -/
def operatorLevel? : String → Option Nat
  | "||" => some 1
  | "&&" => some 2
  | "|" => some 3
  | "^" => some 4
  | "&" => some 5
  | "==" => some 6
  | "!=" => some 6
  | "<" => some 7
  | ">" => some 7
  | "<=" => some 7
  | ">=" => some 7
  | "<<" => some 8
  | ">>" => some 8
  | "+" => some 9
  | "-" => some 9
  | "*" => some 10
  | "/" => some 10
  | "%" => some 10
  | _ => none

/-- The bits of a number that may be negative. -/
def numberBits (value : Int) : BitVec 64 :=
  BitVec.ofInt 64 value

/-- An operator joins two numbers. -/
def applyOperator (operator : String) (left right : Int) : Except NumberFault Int :=
  match operator with
  | "||" => .ok (truthNumber (left != 0 || right != 0))
  | "&&" => .ok (truthNumber (left != 0 && right != 0))
  | "|" => .ok (numberBits left ||| numberBits right).toInt
  | "^" => .ok (numberBits left ^^^ numberBits right).toInt
  | "&" => .ok (numberBits left &&& numberBits right).toInt
  | "==" => .ok (truthNumber (left == right))
  | "!=" => .ok (truthNumber (left != right))
  | "<" => .ok (truthNumber (left < right))
  | ">" => .ok (truthNumber (right < left))
  | "<=" => .ok (truthNumber (left ≤ right))
  | ">=" => .ok (truthNumber (right ≤ left))
  | "<<" => .ok (numberBits left <<< (right % 64).toNat).toInt
  | ">>" => .ok ((numberBits left).sshiftRight (right % 64).toNat).toInt
  | "+" => .ok (wrapNumber (left + right))
  | "-" => .ok (wrapNumber (left - right))
  | "*" => .ok (wrapNumber (left * right))
  | "/" => if right = 0 then .error .divisionByZero else .ok (wrapNumber (left.tdiv right))
  | "%" => if right = 0 then .error .divisionByZero else .ok (wrapNumber (left.tmod right))
  | _ => .error .missingOperand

/-- All characters of a text belong to a number. -/
def readWholeConstant (text : ScriptText) : Option Nat :=
  let (value, rest) := readConstant text
  if rest.isEmpty && !text.isEmpty then some value else none

/-- A name without a value counts as zero. -/
def nameNumber (names : NumberNames) (name : String) : Except NumberFault Int :=
  match (names.lookup name).filter fun text => !text.isEmpty with
  | none => .ok 0
  | some text =>
      match readSigned readWholeConstant (trimNumber text) with
      | some value => .ok (wrapNumber value)
      | none => .error (.illegalNumber (spelledText text))

/-- An assignment may compute with the value before it. -/
def assignmentOperator? : String → Option (Option String)
  | "=" => some none
  | "+=" => some (some "+")
  | "-=" => some (some "-")
  | "*=" => some (some "*")
  | "/=" => some (some "/")
  | "%=" => some (some "%")
  | "&=" => some (some "&")
  | "|=" => some (some "|")
  | "^=" => some (some "^")
  | "<<=" => some (some "<<")
  | ">>=" => some (some ">>")
  | _ => none

/-- Reading an expression leaves its value, the tokens behind it and the values of the names. -/
abbrev NumberReading := Int × List NumberToken × NumberNames

/-- The right side of an operator does not matter when the left side decides. -/
def isDecided (operator : String) (left : Int) : Bool :=
  match operator with
  | "||" => left != 0
  | "&&" => left == 0
  | _ => false

/-- An operator that is not applied has no faults. -/
def applyWhereNeeded (isIdle : Bool) (operator : String) (left right : Int) :
    Except NumberFault Int :=
  if isIdle then .ok 0 else applyOperator operator left right

/-- A name whose number is not needed has no faults. -/
def nameNumberWhereNeeded (isIdle : Bool) (names : NumberNames) (name : String) :
    Except NumberFault Int :=
  if isIdle then .ok 0 else nameNumber names name

/-- These operators stand before a number. -/
def applySign? : String → Option (Int → Int)
  | "-" => some fun value => wrapNumber (-value)
  | "+" => some id
  | "!" => some fun value => truthNumber (value == 0)
  | "~" => some fun value => -value - 1
  | _ => none

mutual

/-- An assignment gives a value to a name, unless the value is not needed. -/
def readAssigned : (fuel : Nat) → (isIdle : Bool) → NumberNames → List NumberToken →
    Except NumberFault NumberReading
  | 0, _, _, _ => .error .missingOperand
  | fuel + 1, isIdle, names, tokens =>
      match tokens with
      | .name name :: .operator sign :: rest =>
          match assignmentOperator? sign with
          | none => readChosen fuel isIdle names tokens
          | some operator => do
              let (value, after, known) ← readAssigned fuel isIdle names rest
              let result ← match operator with
                | none => pure value
                | some joint => do
                    let before ← nameNumberWhereNeeded isIdle known name
                    applyWhereNeeded isIdle joint before value
              let assigned := if isIdle then known else (name, (toString result).toList) :: known
              pure (result, after, assigned)
      | _ => readChosen fuel isIdle names tokens

/-- A choice has three parts, and one of the last two is not needed. -/
def readChosen : (fuel : Nat) → (isIdle : Bool) → NumberNames → List NumberToken →
    Except NumberFault NumberReading
  | 0, _, _, _ => .error .missingOperand
  | fuel + 1, isIdle, names, tokens => do
      let (left, rest, known) ← readOperand fuel isIdle names tokens
      let (value, after, later) ← continueJoined fuel isIdle 1 left known rest
      match after with
      | .operator "?" :: choice => do
          let (first, colon, next) ← readAssigned fuel (isIdle || value == 0) later choice
          match colon with
          | .operator ":" :: others => do
              let (second, last, final) ← readChosen fuel (isIdle || value != 0) next others
              pure (if value = 0 then second else first, last, final)
          | _ => .error .missingColon
      | _ => pure (value, after, later)

/-- Stronger operators are applied before weaker ones. -/
def continueJoined : (fuel : Nat) → (isIdle : Bool) → (level : Nat) → Int → NumberNames →
    List NumberToken → Except NumberFault NumberReading
  | 0, _, _, left, names, tokens => .ok (left, tokens, names)
  | fuel + 1, isIdle, level, left, names, tokens =>
      match tokens with
      | .operator operator :: rest =>
          match (operatorLevel? operator).filter (level ≤ ·) with
          | none => .ok (left, tokens, names)
          | some strength => do
              let isSkipped := isIdle || isDecided operator left
              let (operand, afterOperand, known) ← readOperand fuel isSkipped names rest
              let (right, after, later) ←
                continueJoined fuel isSkipped (strength + 1) operand known afterOperand
              let joined ← applyWhereNeeded isIdle operator left right
              continueJoined fuel isIdle level joined later after
      | _ => .ok (left, tokens, names)

/-- An operand is a number, a name, something in parentheses, or has a sign. -/
def readOperand : (fuel : Nat) → (isIdle : Bool) → NumberNames → List NumberToken →
    Except NumberFault NumberReading
  | 0, _, _, _ => .error .missingOperand
  | fuel + 1, isIdle, names, tokens =>
      match tokens with
      | .number value :: rest => .ok (wrapNumber value, rest, names)
      | .name name :: rest => do
          pure (← nameNumberWhereNeeded isIdle names name, rest, names)
      | .operator "(" :: rest => do
          let (value, after, known) ← readAssigned fuel isIdle names rest
          match after with
          | .operator ")" :: others => pure (value, others, known)
          | _ => .error .missingParenthesis
      | .operator sign :: rest =>
          match applySign? sign with
          | none => .error .missingOperand
          | some apply => do
              let (value, after, known) ← readOperand fuel isIdle names rest
              pure (apply value, after, known)
      | [] => .error .missingOperand

end

/-- An expression has a value, and it may give values to names. -/
def evaluateNumber (names : NumberNames) (text : ScriptText) :
    Except NumberFault (Int × NumberNames) :=
  let tokens := numberTokens (text.length + 1) text
  match readAssigned (4 * tokens.length + 8) false names tokens with
  | .ok (value, [], known) => .ok (value, known)
  | .ok _ => .error .leftOver
  | .error fault => .error fault

end RoutineAtlas
