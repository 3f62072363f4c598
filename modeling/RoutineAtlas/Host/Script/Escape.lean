import RoutineAtlas.Host.Script.Arithmetic

/-
This file writes texts in which backslashes and percent signs have a meaning.
-/

namespace RoutineAtlas

/-- These letters stand for control characters after a backslash. -/
def escapedLetter? (letter : Char) : Option Char :=
  match letter with
  | 'a' => some (Char.ofNat 7)
  | 'b' => some (Char.ofNat 8)
  | 'e' => some (Char.ofNat 27)
  | 't' => some '\t'
  | 'n' => some '\n'
  | 'v' => some (Char.ofNat 11)
  | 'f' => some (Char.ofNat 12)
  | 'r' => some '\r'
  | '\\' => some '\\'
  | _ => none

/-- A digit in base eight. -/
def isOctal (character : Char) : Bool :=
  '0' ≤ character && character ≤ '7'

/-- These digits name a byte. -/
def octalByte (digits : List Char) : Char :=
  Char.ofNat ((digits.foldl (fun value digit => 8 * value + (digit.toNat - 48)) 0) % 256)

/-- What follows a backslash is a letter or up to three digits, or it keeps the backslash. -/
def readScriptEscape (text : ScriptText) : ScriptText × ScriptText :=
  match text with
  | [] => (['\\'], [])
  | letter :: rest =>
      match escapedLetter? letter with
      | some character => ([character], rest)
      | none =>
          let digits := (text.take 3).takeWhile isOctal
          if digits.isEmpty then (['\\', letter], rest)
          else ([octalByte digits], text.drop digits.length)

theorem readScriptEscape_length (text : ScriptText) :
    (readScriptEscape text).2.length ≤ text.length := by
  unfold readScriptEscape
  split
  · simp
  · split
    · simp
    · dsimp only
      split <;> simp

/-- A zero may stand before the digits of a byte. -/
def skipLeadingZero (text : ScriptText) : ScriptText :=
  match text with
  | '0' :: digit :: rest => if isOctal digit then digit :: rest else text
  | _ => text

theorem skipLeadingZero_length (text : ScriptText) :
    (skipLeadingZero text).length ≤ text.length := by
  unfold skipLeadingZero
  split
  · split <;> simp
  · simp

/-- A written text may ask that nothing comes after it. -/
structure WrittenText where
  text : ScriptText
  isCut : Bool
  deriving DecidableEq, Repr

/-- Escapes are replaced, and one of them cuts the text. -/
def unescape : ScriptText → WrittenText
  | [] => { text := [], isCut := false }
  | '\\' :: rest =>
      if rest.head? = some 'c' then { text := [], isCut := true }
      else
        let result := unescape (readScriptEscape (skipLeadingZero rest)).2
        { result with text := (readScriptEscape (skipLeadingZero rest)).1 ++ result.text }
  | character :: rest =>
      let result := unescape rest
      { result with text := character :: result.text }
  termination_by text => text.length
  decreasing_by
    · have shorter := readScriptEscape_length (skipLeadingZero rest)
      have short := skipLeadingZero_length rest
      simp only [List.length_cons]
      omega
    · simp

/-- A width or a precision is a number, or an argument gives it. -/
inductive FormatSize where
  | fixed (size : Nat)
  | given
  deriving DecidableEq, Repr

/-- A directive says how an argument is written: how wide, on which side, and in which form. -/
structure FormatDirective where
  flags : ScriptText
  width : FormatSize
  precision : Option FormatSize
  conversion : Char
  deriving DecidableEq, Repr

/-- A format is made of characters and directives, and the letter of a directive may be missing. -/
inductive FormatPiece where
  | character (value : Char)
  | directive (value : FormatDirective)
  | broken
  deriving DecidableEq, Repr

/-- These signs may stand before the width. -/
def isFormatFlag (character : Char) : Bool :=
  ['-', '0', '+', ' ', '#'].contains character

/-- A size is a star or digits, which may be left out. -/
def readFormatSize (text : ScriptText) : FormatSize × ScriptText :=
  match text with
  | '*' :: rest => (.given, rest)
  | _ => (.fixed (digitsNumber (text.takeWhile Char.isDigit)), text.dropWhile Char.isDigit)

theorem readFormatSize_length (text : ScriptText) :
    (readFormatSize text).2.length ≤ text.length := by
  unfold readFormatSize
  split
  · simp
  · exact (List.dropWhile_sublist (l := text) Char.isDigit).length_le

/-- A precision is a size after a point, and it may be left out. -/
def readPrecision (text : ScriptText) : Option FormatSize × ScriptText :=
  match text with
  | '.' :: rest => (some (readFormatSize rest).1, (readFormatSize rest).2)
  | _ => (none, text)

theorem readPrecision_length (text : ScriptText) :
    (readPrecision text).2.length ≤ text.length := by
  unfold readPrecision
  split
  · rename_i rest
    have shorter := readFormatSize_length rest
    simp only [List.length_cons]
    omega
  · simp

/-- After the percent sign come flags, a width, a precision and the letter of the form. -/
def readDirective (text : ScriptText) : FormatPiece × ScriptText :=
  let sized := readFormatSize (text.dropWhile isFormatFlag)
  let precise := readPrecision sized.2
  match precise.2 with
  | [] => (.broken, [])
  | conversion :: after => (
      .directive {
        flags := text.takeWhile isFormatFlag
        width := sized.1
        precision := precise.1
        conversion },
      after)

theorem readDirective_length (text : ScriptText) :
    (readDirective text).2.length ≤ text.length := by
  have flags := (List.dropWhile_sublist (l := text) isFormatFlag).length_le
  have width := readFormatSize_length (text.dropWhile isFormatFlag)
  have precision := readPrecision_length (readFormatSize (text.dropWhile isFormatFlag)).2
  simp only [readDirective]
  split
  · simp
  · rename_i conversion after rest
    have longer := congrArg List.length rest
    simp only [List.length_cons] at longer ⊢
    omega

/-- A percent sign starts a directive unless it is doubled, and a backslash starts an escape. -/
def readFormat : ScriptText → List FormatPiece
  | [] => []
  | '%' :: '%' :: rest => .character '%' :: readFormat rest
  | '%' :: rest => (readDirective rest).1 :: readFormat (readDirective rest).2
  | '\\' :: rest =>
      (readScriptEscape rest).1.map .character ++ readFormat (readScriptEscape rest).2
  | character :: rest => .character character :: readFormat rest
  termination_by text => text.length
  decreasing_by
    · simp only [List.length_cons]
      omega
    · have shorter := readDirective_length rest
      simp only [List.length_cons]
      omega
    · have shorter := readScriptEscape_length rest
      simp only [List.length_cons]
      omega
    · simp

/-- A number in an argument may be misspelled in part or in whole, or be too large. -/
inductive NumberSpelling where
  | complete
  | incomplete
  | missing
  | outOfRange
  deriving DecidableEq, Repr

/-- This is how a misspelled number is complained about. -/
def NumberSpelling.complaint? : NumberSpelling → Option String
  | .complete => none
  | .incomplete => some "not completely converted"
  | .missing => some "expected numeric value"
  | .outOfRange => some "Numerical result out of range"

/-- A number may have blanks and a sign before it, and a quotation mark gives the number of the
character behind it. -/
def readFormatNumber (isSigned : Bool) (text : ScriptText) : Int × NumberSpelling :=
  match text with
  | [] => (0, .complete)
  | first :: rest =>
      if first = '"' || first = singleQuotation then
        (((rest.head?.map Char.toNat).getD 0 : Nat), .complete)
      else
        let trimmed := text.dropWhile fun blank => [' ', '\t', '\n', '\r'].contains blank
        let isNegative := trimmed.head? = some '-'
        let unsigned := if isNegative || trimmed.head? = some '+' then trimmed.drop 1 else trimmed
        let (base, spelled) := splitBase unsigned
        let digits := spelled.takeWhile fun digit => (baseDigit base digit).isSome
        let size := (readBase base digits).getD 0
        let value : Int := if isNegative then -size else size
        let spelling : NumberSpelling :=
          if digits.isEmpty then .missing
          else if digits.length = spelled.length then .complete
          else .incomplete
        let greatest : Nat := if isSigned then 9223372036854775807 else 18446744073709551615
        if size ≤ greatest then (value, spelling)
        else if isSigned && isNegative then (-9223372036854775808, .outOfRange)
        else (greatest, .outOfRange)

/-- How wide a text is written, and with how many characters or digits. -/
structure FormatMeasure where
  flags : ScriptText
  width : Nat
  precision : Option Nat
  deriving DecidableEq, Repr

/-- A text is filled up to a width with blanks. -/
def FormatMeasure.fill (measure : FormatMeasure) (text : ScriptText) : ScriptText :=
  let blanks := List.replicate (measure.width - text.length) ' '
  if measure.flags.contains '-' then text ++ blanks else blanks ++ text

/-- A text is cut to its precision. -/
def FormatMeasure.cut (measure : FormatMeasure) (text : ScriptText) : ScriptText :=
  match measure.precision with
  | some count => text.take count
  | none => text

/-- Digits are filled up with zeros to their precision, or to the width behind the sign. -/
def FormatMeasure.fillNumber (measure : FormatMeasure) (sign digits : ScriptText) :
    ScriptText :=
  match measure.precision with
  | some count =>
      let shown := if count = 0 && digits = ['0'] then [] else digits
      measure.fill (sign ++ List.replicate (count - shown.length) '0' ++ shown)
  | none =>
      if measure.flags.contains '0' && !measure.flags.contains '-' then
        sign ++ List.replicate (measure.width - sign.length - digits.length) '0' ++ digits
      else measure.fill (sign ++ digits)

/-- A number with a sign is written in base ten. -/
def FormatMeasure.writeSigned (measure : FormatMeasure) (value : Int) : ScriptText :=
  let sign :=
    if value < 0 then ['-']
    else if measure.flags.contains '+' then ['+']
    else if measure.flags.contains ' ' then [' ']
    else []
  measure.fillNumber sign (Nat.toDigits 10 value.natAbs)

/-- A number without a sign is written in some base, behind the mark of the base if that is
wanted. -/
def FormatMeasure.writeUnsigned (measure : FormatMeasure) (conversion : Char) (value : Int) :
    ScriptText :=
  let number := (numberBits value).toNat
  let isMarked := measure.flags.contains '#' && number != 0
  match conversion with
  | 'o' => measure.fillNumber (if isMarked then ['0'] else []) (Nat.toDigits 8 number)
  | 'x' => measure.fillNumber (if isMarked then ['0', 'x'] else []) (Nat.toDigits 16 number)
  | 'X' =>
      measure.fillNumber (if isMarked then ['0', 'X'] else [])
        ((Nat.toDigits 16 number).map Char.toUpper)
  | _ => measure.fillNumber [] (Nat.toDigits 10 number)

/-- A decimal number is a number of units, of which so many decimals make up one. -/
structure DecimalNumber where
  isNegative : Bool
  units : Nat
  decimals : Nat
  deriving DecidableEq, Repr

/-- A number may have decimals behind a point. -/
def readDecimal? (text : ScriptText) : Option DecimalNumber :=
  let isNegative := text.head? = some '-'
  let unsigned := if isNegative then text.drop 1 else text
  let whole := unsigned.takeWhile Char.isDigit
  let decimals := (unsigned.drop whole.length).drop 1
  (readNatural? (whole ++ decimals)).map fun units =>
    { isNegative, units, decimals := decimals.length }

/-- A quotient is rounded to the nearest number, and a half to the even one. -/
def roundQuotient (dividend divisor : Nat) : Nat :=
  let quotient := dividend / divisor
  let twice := 2 * (dividend % divisor)
  if divisor < twice || (twice = divisor && quotient % 2 = 1) then quotient + 1 else quotient

/-- A decimal number is written with some decimals, six of them unless it is told otherwise. -/
def FormatMeasure.writeDecimal (measure : FormatMeasure) (number : DecimalNumber) : ScriptText :=
  let decimals := measure.precision.getD 6
  let rounded := roundQuotient (number.units * Nat.pow 10 decimals) (Nat.pow 10 number.decimals)
  let digits := Nat.toDigits 10 rounded
  let filled := List.replicate (decimals + 1 - digits.length) '0' ++ digits
  let whole := filled.take (filled.length - decimals)
  let point := if decimals = 0 then [] else '.' :: filled.drop whole.length
  { measure with precision := none }.fillNumber (if number.isNegative then ['-'] else [])
    (whole ++ point)

/-- A format is written with arguments, and it tells what is left of them, what was wrong with
them, and whether nothing is written after it. -/
structure FormattedText where
  text : ScriptText
  left : List ScriptText
  complaints : List ScriptText
  isCut : Bool
  isBroken : Bool
  deriving DecidableEq, Repr

/-- Nothing has been written at first. -/
def FormattedText.start (arguments : List ScriptText) : FormattedText where
  text := []
  left := arguments
  complaints := []
  isCut := false
  isBroken := false

/-- A format that cannot be used is complained about, and it ends the text. -/
def FormattedText.refuse (written : FormattedText) (complaint : String) : FormattedText :=
  { written with
    complaints := written.complaints ++ [plainText complaint]
    isCut := true
    isBroken := true }

/-- The next argument is a number, and a missing one is zero. -/
def FormattedText.takeNumber (written : FormattedText) (isSigned : Bool) :
    Int × FormattedText :=
  let text := written.left.headD []
  let (value, spelling) := readFormatNumber isSigned text
  let complaints := spelling.complaint?.toList.map fun reason => text ++ plainText (": " ++ reason)
  (value, { written with
    left := written.left.drop 1
    complaints := written.complaints ++ complaints })

/-- The next argument is a decimal number, and a missing one is zero. -/
def FormattedText.takeDecimal (written : FormattedText) : DecimalNumber × FormattedText :=
  let text := written.left.headD ['0']
  let taken := { written with left := written.left.drop 1 }
  match readDecimal? text with
  | some number => (number, taken)
  | none => (
      { isNegative := false, units := 0, decimals := 0 },
      { taken with
        complaints := taken.complaints ++ [text ++ plainText ": expected numeric value"] })

/-- A size that does not fit 32 bits begins again at their other end. -/
def wrapSize (size : Int) : Int :=
  let reduced := size % 4294967296
  if reduced < 2147483648 then reduced else reduced - 4294967296

/-- A size may take an argument. -/
def FormattedText.takeSize (written : FormattedText) : FormatSize → Int × FormattedText
  | .fixed size => (size, written)
  | .given => (wrapSize (written.takeNumber true).1, (written.takeNumber true).2)

/-- Nothing is written wider than this. -/
def sizeLimit : Nat := 1000000

/-- A directive may take arguments for its measure. A negative width puts the text to the left. -/
def FormattedText.takeMeasure (written : FormattedText) (directive : FormatDirective) :
    FormatMeasure × FormattedText :=
  let (width, sized) := written.takeSize directive.width
  let flags := if width < 0 then '-' :: directive.flags else directive.flags
  match directive.precision with
  | none => ({ flags, width := min width.natAbs sizeLimit, precision := none }, sized)
  | some size =>
      let (precision, precise) := sized.takeSize size
      ({ flags
         width := min width.natAbs sizeLimit
         precision := if precision < 0 then none else some (min precision.toNat sizeLimit) },
        precise)

/-- This is what a directive makes of an argument. A missing argument is written as nothing, as
zero, or as the character of that number. -/
def FormattedText.writeDirective (written : FormattedText) (directive : FormatDirective) :
    FormattedText :=
  let (measure, measured) := written.takeMeasure directive
  let argument := measured.left.headD []
  let put (text : ScriptText) : FormattedText :=
    { measured with text := measured.text ++ text, left := measured.left.drop 1 }
  let putNumber (isSigned : Bool) (write : Int → ScriptText) : FormattedText :=
    let (value, taken) := measured.takeNumber isSigned
    { taken with text := taken.text ++ write value }
  let conversion := directive.conversion
  if conversion = 's' then put (measure.fill (measure.cut argument))
  else if conversion = 'b' then
    let result := unescape argument
    { put (measure.fill (measure.cut result.text)) with isCut := result.isCut }
  else if conversion = 'c' then put (measure.fill [argument.headD (Char.ofNat 0)])
  else if ['d', 'i'].contains conversion then putNumber true measure.writeSigned
  else if ['o', 'u', 'x', 'X'].contains conversion then
    putNumber false (measure.writeUnsigned conversion)
  else if conversion = 'f' then
    let (number, taken) := measured.takeDecimal
    { taken with text := taken.text ++ measure.writeDecimal number }
  else measured.refuse ("%" ++ spelledText directive.flags ++ String.singleton conversion ++
    ": invalid directive")

/-- The pieces of a format are written in order. -/
def FormattedText.writePieces (written : FormattedText) : List FormatPiece → FormattedText
  | [] => written
  | piece :: rest =>
      if written.isCut then written
      else match piece with
        | .character value => { written with text := written.text ++ [value] }.writePieces rest
        | .directive directive => (written.writeDirective directive).writePieces rest
        | .broken => written.refuse "missing format character"

/-- The format is repeated until the arguments are used up. -/
def FormattedText.writeFormats : (fuel : Nat) → FormattedText → List FormatPiece → FormattedText
  | 0, written, _ => written
  | fuel + 1, written, format =>
      let next := written.writePieces format
      if next.isCut || next.left.isEmpty || next.left.length = written.left.length then next
      else next.writeFormats fuel format

/-- A format is written with all arguments. -/
def writeFormatted (format : ScriptText) (arguments : List ScriptText) : FormattedText :=
  (FormattedText.start arguments).writeFormats (arguments.length + 1) (readFormat format)

end RoutineAtlas
