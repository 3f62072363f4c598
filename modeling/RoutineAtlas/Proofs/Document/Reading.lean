import RoutineAtlas.Document.Basic
import Mathlib.Data.List.Forall2

/-
This file reads JSON. A document that was written in any layout is read back, so that nothing is
lost between an answer and its text.
-/

namespace RoutineAtlas

/-- Blanks may stand around every part of a text. -/
def isDocumentBlank (character : Char) : Bool :=
  character == ' ' || character == '\t' || character == '\n' || character == '\r'

/-- The blanks at the front are passed over. -/
def dropBlanks (text : List Char) : List Char :=
  text.dropWhile isDocumentBlank

/-- A letter behind a backslash stands for a character. -/
def escapedCharacter? (letter : Char) : Option Char :=
  [('"', '"'), ('\\', '\\'), ('/', '/'), ('b', Char.ofNat 0x08), ('f', Char.ofNat 0x0C),
    ('n', '\n'), ('r', '\r'), ('t', '\t')].lookup letter

/-- A hexadecimal digit may be written in both cases. -/
def hexadecimalValue? (digit : Char) : Option Nat :=
  if '0' ≤ digit ∧ digit ≤ '9' then some (digit.toNat - 48)
  else if 'a' ≤ digit ∧ digit ≤ 'f' then some (digit.toNat - 87)
  else if 'A' ≤ digit ∧ digit ≤ 'F' then some (digit.toNat - 55)
  else none

/-- Digits stand for the character of their code. A half of a pair stands for none. -/
def codedCharacter? (digits : List Char) : Option Char := do
  let values ← digits.mapM hexadecimalValue?
  let code := values.foldl (fun code value => 16 * code + value) 0
  if code.isValidChar then some (Char.ofNat code) else none

/-- A character is put before those that were read behind it. -/
def keepCharacter (character : Option Char) (behind : Option (List Char × List Char)) :
    Option (List Char × List Char) := do
  let first ← character
  let (others, rest) ← behind
  some (first :: others, rest)

/-- The characters of a text come before its closing quote. Control characters must be escaped. -/
def readQuotation : List Char → Option (List Char × List Char)
  | [] => none
  | '"' :: rest => some ([], rest)
  | '\\' :: 'u' :: first :: second :: third :: fourth :: rest =>
      keepCharacter (codedCharacter? [first, second, third, fourth]) (readQuotation rest)
  | '\\' :: letter :: rest => keepCharacter (escapedCharacter? letter) (readQuotation rest)
  | character :: rest =>
      if character = '\\' ∨ character.toNat < 0x20 then none
      else keepCharacter (some character) (readQuotation rest)

/-- A number is made of these characters. -/
def isNumeral (character : Char) : Bool :=
  character.isDigit || character == '-'

/-- Digits are read as far as they go. -/
def readNatural (source : List Char) : Option (Nat × List Char) :=
  let digits := source.takeWhile Char.isDigit
  if digits = [] then none
  else some (Nat.ofDigitChars 10 digits 0, source.dropWhile Char.isDigit)

/-- A whole number may have a sign. -/
def readNumber : List Char → Option (Document × List Char)
  | '-' :: digits => (readNatural digits).map fun (value, rest) => (.number (-value), rest)
  | digits => (readNatural digits).map fun (value, rest) => (.number value, rest)

/-- These words are documents. -/
def documentLiterals : List (String × Document) :=
  [("null", .null), ("true", .bool true), ("false", .bool false)]

/-- A word is read when the text starts with it. -/
def readLiteral (text : List Char) : Option (Document × List Char) :=
  documentLiterals.findSome? fun (word, document) =>
    if word.toList.isPrefixOf text then some (document, text.drop word.toList.length) else none

/-- Items are read up to the closing sign, with a comma between two of them. -/
def readItems {A : Type} (item : List Char → Option (A × List Char)) (closing : Char) :
    Nat → List Char → Option (List A × List Char)
  | 0, _ => none
  | room + 1, text => do
      let (first, behind) ← item text
      match dropBlanks behind with
      | [] => none
      | sign :: rest =>
          if sign = closing then some ([first], rest)
          else if sign = ',' then
            let (others, rest) ← readItems item closing room rest
            some (first :: others, rest)
          else none

/-- There may be no items before the closing sign. -/
def readEnclosed {A : Type} (item : List Char → Option (A × List Char)) (closing : Char)
    (text : List Char) : Option (List A × List Char) :=
  if (dropBlanks text).head? = some closing then some ([], (dropBlanks text).drop 1)
  else readItems item closing text.length text

/-- A value stands behind a colon. -/
def readNamed (value : List Char → Option (Document × List Char)) (name : String)
    (source : List Char) : Option ((String × Document) × List Char) :=
  match dropBlanks source with
  | ':' :: behind => (value behind).map fun (document, rest) => ((name, document), rest)
  | _ => none

/-- A member of a record is a name with its value. -/
def readMember (value : List Char → Option (Document × List Char)) (source : List Char) :
    Option ((String × Document) × List Char) :=
  match dropBlanks source with
  | '"' :: quoted =>
      (readQuotation quoted).bind fun (name, behind) =>
        readNamed value (String.ofList name) behind
  | _ => none

/-- The document at the front of a text is told by its first sign. -/
def Document.readFront : (depth : Nat) → List Char → Option (Document × List Char)
  | 0, _ => none
  | depth + 1, source =>
      match dropBlanks source with
      | '"' :: quoted =>
          (readQuotation quoted).map fun (characters, rest) =>
            (.text (String.ofList characters), rest)
      | '[' :: items =>
          (readEnclosed (Document.readFront depth) ']' items).map fun (read, rest) =>
            (.list read, rest)
      | '\x7b' :: fields =>
          (readEnclosed (readMember (Document.readFront depth)) '\x7d' fields).map
            fun (read, rest) => (.record read, rest)
      | front => if front.head?.any isNumeral then readNumber front else readLiteral front

/-- A text is read when there is one document in it and nothing else. -/
def Document.read (source : String) : Option Document :=
  match Document.readFront (source.length + 1) source.toList with
  | some (document, rest) => if dropBlanks rest = [] then some document else none
  | none => none

theorem codedCharacter?_of_control :
    ∀ code < 0x20, codedCharacter? ['0', '0', hexadecimalDigit (code / 16),
      hexadecimalDigit (code % 16)] = some (Char.ofNat code) := by decide

/-- A character that needs no backslash is read as it stands. -/
theorem readQuotation_of_plain {character : Char} (notQuote : character ≠ '"')
    (notBackslash : character ≠ '\\') (visible : ¬ character.toNat < 0x20) (rest : List Char) :
    readQuotation (character :: rest) = keepCharacter (some character) (readQuotation rest) := by
  rw [readQuotation, if_neg (not_or.mpr ⟨notBackslash, visible⟩)]
  · exact notQuote
  · intro _ _ _ _ _ backslash
    exact absurd backslash notBackslash
  · intro _ _ backslash
    exact absurd backslash notBackslash

/-- An escaped character is read back. -/
theorem readQuotation_escapeCharacter (character : Char) (rest : List Char) :
    readQuotation (escapeCharacter character ++ rest) =
      keepCharacter (some character) (readQuotation rest) := by
  rw [escapeCharacter.eq_def]
  split
  · rfl
  · rfl
  · rfl
  · rfl
  · rfl
  · rename_i notQuote notBackslash _ _ _
    have same := Char.ofNat_toNat character
    dsimp only
    split_ifs with backspace formFeed control
    · rw [← same, backspace]
      rfl
    · rw [← same, formFeed]
      rfl
    · have coded := codedCharacter?_of_control character.toNat control
      rw [same] at coded
      simp only [List.cons_append, List.nil_append]
      rw [readQuotation, coded]
    · exact readQuotation_of_plain notQuote notBackslash control rest

/-- The characters of a quoted text are read back. -/
theorem readQuotation_append_quote (characters rest : List Char) :
    readQuotation (characters.flatMap escapeCharacter ++ '"' :: rest) =
      some (characters, rest) := by
  induction characters with
  | nil => rfl
  | cons character characters inductionHypothesis =>
      rw [List.flatMap_cons, List.append_assoc, readQuotation_escapeCharacter, inductionHypothesis]
      rfl

theorem dropBlanks_append {blanks : List Char}
    (blank : ∀ sign ∈ blanks, isDocumentBlank sign = true) (source : List Char) :
    dropBlanks (blanks ++ source) = dropBlanks source :=
  List.dropWhile_append_of_pos blank

theorem dropBlanks_cons {sign : Char} (shown : isDocumentBlank sign = false) (rest : List Char) :
    dropBlanks (sign :: rest) = sign :: rest :=
  List.dropWhile_cons_of_neg (by simp [shown])

/-- No numeral is blank, and none opens a text, a list or a record. -/
theorem of_isNumeral {sign : Char} (numeral : isNumeral sign = true) :
    isDocumentBlank sign = false ∧ sign ≠ '"' ∧ sign ≠ '[' ∧ sign ≠ '\x7b' := by
  refine ⟨Bool.eq_false_iff.mpr ?_, ?_, ?_, ?_⟩
  · intro blank
    simp only [isDocumentBlank, Bool.or_eq_true, beq_iff_eq] at blank
    obtain ((rfl | rfl) | rfl) | rfl := blank <;> exact absurd numeral (by decide)
  all_goals
    rintro rfl
    exact absurd numeral (by decide)

theorem blank_lineStart (layout : DocumentLayout) :
    ∀ sign ∈ layout.lineStart.toList, isDocumentBlank sign = true := by
  intro sign listed
  rw [DocumentLayout.lineStart] at listed
  split at listed
  · simp only [String.toList_append, String.toList_ofList, List.mem_append] at listed
    obtain feed | space := listed
    · obtain rfl : sign = '\n' := by simpa using feed
      rfl
    · obtain rfl := List.eq_of_mem_replicate space
      rfl
  · exact absurd listed (by simp)

/-- The source is read as the value, whatever stands behind it but a numeral. -/
def IsReadAs {A : Type} (read : List Char → Option (A × List Char)) (source : List Char)
    (value : A) : Prop :=
  ∀ rest : List Char, (∀ sign ∈ rest.head?, isNumeral sign = false) →
    read (source ++ rest) = some (value, rest)

/-- A reader of items passes over blanks, and it refuses the sign that closes the items. -/
structure ClosesItems {A : Type} (closing : Char) (item : List Char → Option (A × List Char)) :
    Prop where
  shown : isDocumentBlank closing = false
  notNumeral : isNumeral closing = false
  notComma : closing ≠ ','
  passes : ∀ blanks source : List Char, (∀ sign ∈ blanks, isDocumentBlank sign = true) →
    item (blanks ++ source) = item source
  refuses : ∀ source : List Char, (dropBlanks source).head? = some closing → item source = none

/-- No numeral stands before the sign that closes the items. -/
theorem ClosesItems.notNumeral_head {A : Type} {closing : Char}
    {item : List Char → Option (A × List Char)} (closes : ClosesItems closing item)
    {blanks : List Char} (blank : ∀ sign ∈ blanks, isDocumentBlank sign = true)
    (rest : List Char) : ∀ sign ∈ (blanks ++ closing :: rest).head?, isNumeral sign = false := by
  intro sign first
  cases blanks with
  | nil =>
      obtain rfl := Option.some.inj first
      exact closes.notNumeral
  | cons start blanks =>
      obtain rfl := Option.some.inj first
      refine Bool.eq_false_iff.mpr fun numeral => ?_
      exact absurd (of_isNumeral numeral).1 (by simp [blank start List.mem_cons_self])

/-- Items are read one by one up to the closing sign. -/
theorem ClosesItems.readItems_eq {A : Type} {closing : Char}
    {item : List Char → Option (A × List Char)} (closes : ClosesItems closing item)
    {blanks : List Char} (blank : ∀ sign ∈ blanks, isDocumentBlank sign = true)
    {sources : List (List Char)} {values : List A}
    (read : List.Forall₂ (IsReadAs item) sources values) (there : values ≠ []) :
    ∀ (room : Nat) (rest : List Char),
      (List.intercalate [','] sources ++ (blanks ++ closing :: rest)).length ≤ room →
      readItems item closing room (List.intercalate [','] sources ++ (blanks ++ closing :: rest)) =
        some (values, rest) := by
  induction read with
  | nil => exact absurd rfl there
  | @cons source value sources values first others inductionHypothesis =>
      intro room rest fits
      cases room with
      | zero => simp at fits
      | succ room =>
          cases others with
          | nil =>
              have front := first (blanks ++ closing :: rest) (closes.notNumeral_head blank rest)
              simp only [List.intercalate_singleton]
              rw [readItems, front]
              simp [dropBlanks_append blank, dropBlanks_cons closes.shown]
          | @cons next following sources values second others =>
              have split : List.intercalate [','] (source :: next :: sources) ++
                    (blanks ++ closing :: rest) =
                  source ++ ',' :: (List.intercalate [','] (next :: sources) ++
                    (blanks ++ closing :: rest)) := by
                simp [List.intercalate_cons_cons]
              rw [split] at fits ⊢
              have front := first (',' :: (List.intercalate [','] (next :: sources) ++
                (blanks ++ closing :: rest))) (by simp [isNumeral])
              have behind := inductionHypothesis (by simp) room rest (by
                rw [List.length_append, List.length_cons] at fits
                omega)
              rw [readItems, front]
              simp only [Option.bind_eq_bind, Option.bind_some]
              rw [dropBlanks_cons (by decide)]
              simp only [closes.notComma.symm, if_false, if_true]
              rw [behind]
              rfl

/-- This stands behind the opening sign of written items. -/
def DocumentLayout.inside (layout : DocumentLayout) (items : List String) (closing : Char) :
    List Char :=
  if items.isEmpty then [closing]
  else
    List.intercalate [','] (items.map fun item => layout.deeper.lineStart.toList ++ item.toList) ++
      (layout.lineStart.toList ++ [closing])

theorem DocumentLayout.toList_enclose (layout : DocumentLayout) (opening closing : Char)
    (items : List String) :
    (layout.enclose (String.singleton opening) (String.singleton closing) items).toList =
      opening :: layout.inside items closing := by
  rw [DocumentLayout.enclose, DocumentLayout.inside]
  split
  · simp
  · simp [String.toList_intercalate, Function.comp_def]

theorem sublist_intercalate {source : List Char} {sources : List (List Char)}
    (listed : source ∈ sources) (between : List Char) :
    source.Sublist (List.intercalate between sources) := by
  induction sources with
  | nil => exact absurd listed (by simp)
  | cons first others inductionHypothesis =>
      cases others with
      | nil =>
          obtain rfl := List.mem_singleton.mp listed
          simp
      | cons second others =>
          rw [List.intercalate_cons_cons]
          obtain rfl | later := List.mem_cons.mp listed
          · exact (List.sublist_append_left source between).trans (List.sublist_append_left ..)
          · exact (inductionHypothesis later).trans (List.sublist_append_right ..)

/-- An item is shorter than the items in which it is enclosed. -/
theorem DocumentLayout.length_lt_enclose (layout : DocumentLayout) (opening closing : Char)
    {item : String} {items : List String} (listed : item ∈ items) :
    item.length <
      (layout.enclose (String.singleton opening) (String.singleton closing) items).length := by
  have inside : item.toList.length ≤ (List.intercalate [',']
      (items.map fun item => layout.deeper.lineStart.toList ++ item.toList)).length :=
    Nat.le_trans (by simp) (sublist_intercalate (List.mem_map.mpr ⟨item, listed, rfl⟩) _).length_le
  rw [← String.length_toList, ← String.length_toList, layout.toList_enclose, List.length_cons,
    DocumentLayout.inside, if_neg (by simp [List.ne_nil_of_mem listed]), List.length_append]
  omega

theorem readItems_of_refused {A : Type} {item : List Char → Option (A × List Char)}
    {source : List Char} (refused : item source = none) (closing : Char) (room : Nat) :
    readItems item closing room source = none := by
  cases room with
  | zero => rfl
  | succ room =>
      rw [readItems, refused]
      rfl

/-- Enclosed items are read back. -/
theorem ClosesItems.isReadAs_inside {A : Type} {closing : Char}
    {item : List Char → Option (A × List Char)} (closes : ClosesItems closing item)
    (layout : DocumentLayout) {written : List String} {values : List A}
    (read : List.Forall₂ (fun source value => IsReadAs item source.toList value) written values) :
    IsReadAs (readEnclosed item closing) (layout.inside written closing) values := by
  intro rest apart
  cases read with
  | nil => simp [readEnclosed, DocumentLayout.inside, dropBlanks_cons closes.shown]
  | @cons source value written values first others =>
      have moved : List.Forall₂ (IsReadAs item)
          ((source :: written).map fun source => layout.deeper.lineStart.toList ++ source.toList)
          (value :: values) := by
        refine List.forall₂_map_left_iff.mpr (List.Forall₂.imp ?_ (.cons first others))
        intro source value read rest apart
        rw [List.append_assoc, closes.passes _ _ (blank_lineStart layout.deeper), read rest apart]
      have through := closes.readItems_eq (blank_lineStart layout) moved (by simp) _ rest
        (Nat.le_refl _)
      rw [DocumentLayout.inside, if_neg (by simp), List.append_assoc, List.append_assoc]
      rw [readEnclosed, if_neg]
      · exact through
      · intro closed
        -- Items of which the first is refused are not read.
        have refused := readItems_of_refused (closes.refuses _ closed) closing
        exact absurd ((refused _).symm.trans through) (by simp)

/-- The items of a list are documents. -/
theorem Document.closesItems (depth : Nat) : ClosesItems ']' (Document.readFront depth) where
  shown := by decide
  notNumeral := by decide
  notComma := by decide
  passes blanks source blank := by
    cases depth with
    | zero => rfl
    | succ depth => rw [Document.readFront, Document.readFront, dropBlanks_append blank]
  refuses source closed := by
    obtain ⟨rest, own⟩ := List.head?_eq_some_iff.mp closed
    cases depth with
    | zero => rfl
    | succ depth =>
        rw [Document.readFront, own]
        rfl

/-- The items of a record are its members. -/
theorem readMember_closesItems (depth : Nat) :
    ClosesItems '\x7d' (readMember (Document.readFront depth)) where
  shown := by decide
  notNumeral := by decide
  notComma := by decide
  passes blanks source blank := by
    rw [readMember, readMember, dropBlanks_append blank]
  refuses source closed := by
    obtain ⟨rest, own⟩ := List.head?_eq_some_iff.mp closed
    rw [readMember, own]
    rfl

theorem readNatural_repr (value : Nat) : IsReadAs readNatural value.repr.toList value := by
  intro rest apart
  have digits : ∀ sign ∈ Nat.toDigits 10 value, sign.isDigit = true :=
    fun sign listed => Nat.isDigit_of_mem_toDigits (by decide) (by decide) listed
  have behind : rest.takeWhile Char.isDigit = [] ∧ rest.dropWhile Char.isDigit = rest := by
    cases rest with
    | nil => exact ⟨rfl, rfl⟩
    | cons sign rest =>
        have other : ¬ sign.isDigit = true := fun digit => by
          simpa [isNumeral, digit] using apart sign rfl
        exact ⟨List.takeWhile_cons_of_neg other, List.dropWhile_cons_of_neg other⟩
  rw [Nat.toList_repr, readNatural, List.takeWhile_append_of_pos digits,
    List.dropWhile_append_of_pos digits, behind.1, behind.2, List.append_nil]
  rw [if_neg Nat.toDigits_ne_nil, Nat.ofDigitChars_ten_toDigits]

/-- A number is read back. -/
theorem readNumber_toString (value : Int) :
    IsReadAs readNumber (toString value).toList (.number value) := by
  intro rest apart
  cases value with
  | ofNat value =>
      have read := readNatural_repr value rest apart
      have split : (toString (Int.ofNat value)).toList = value.repr.toList := rfl
      have unsigned : ∀ digits, value.repr.toList ++ rest ≠ '-' :: digits := by
        intro digits signed
        rw [signed] at read
        simp [readNatural, Char.isDigit] at read
      rw [split, readNumber.eq_2 _ unsigned, read]
      rfl
  | negSucc value =>
      have read := readNatural_repr (value + 1) rest apart
      have split : (toString (Int.negSucc value)).toList = '-' :: (value + 1).repr.toList := by
        rw [show toString (Int.negSucc value) = "-" ++ (value + 1).repr from rfl]
        simp
      rw [split, List.cons_append, readNumber, read]
      rfl

theorem toList_quotedText (value : String) (rest : List Char) :
    (quotedText value).toList ++ rest =
      '"' :: (value.toList.flatMap escapeCharacter ++ '"' :: rest) := by
  simp [quotedText]

theorem Document.readFront_quote (depth : Nat) (quoted : List Char) :
    Document.readFront (depth + 1) ('"' :: quoted) =
      (readQuotation quoted).map fun (characters, rest) =>
        (.text (String.ofList characters), rest) := rfl

theorem Document.readFront_bracket (depth : Nat) (items : List Char) :
    Document.readFront (depth + 1) ('[' :: items) =
      (readEnclosed (Document.readFront depth) ']' items).map fun (read, rest) =>
        (.list read, rest) := rfl

theorem Document.readFront_brace (depth : Nat) (fields : List Char) :
    Document.readFront (depth + 1) ('\x7b' :: fields) =
      (readEnclosed (readMember (Document.readFront depth)) '\x7d' fields).map
        fun (read, rest) => (.record read, rest) := rfl

theorem Document.readFront_literal (depth : Nat) {word : String} {document : Document}
    (listed : (word, document) ∈ documentLiterals) (rest : List Char) :
    Document.readFront (depth + 1) (word.toList ++ rest) = some (document, rest) := by
  simp only [documentLiterals, List.mem_cons, List.not_mem_nil, or_false, Prod.mk.injEq] at listed
  obtain ⟨rfl, rfl⟩ | ⟨rfl, rfl⟩ | ⟨rfl, rfl⟩ := listed <;> rfl

theorem readMember_quote (value : List Char → Option (Document × List Char))
    (quoted : List Char) :
    readMember value ('"' :: quoted) =
      (readQuotation quoted).bind fun (name, behind) =>
        readNamed value (String.ofList name) behind := rfl

theorem readNamed_colon (value : List Char → Option (Document × List Char)) (name : String)
    (behind : List Char) :
    readNamed value name (':' :: behind) =
      (value behind).map fun (document, rest) => ((name, document), rest) := rfl

/-- A written field is read back when its value is. -/
theorem readMember_of_value {depth : Nat} {layout : DocumentLayout} {value : Document}
    {written : String}
    (read : IsReadAs (Document.readFront depth) written.toList value) (name : String) :
    IsReadAs (readMember (Document.readFront depth))
      (quotedText name ++ layout.colon ++ written).toList (name, value) := by
  intro rest apart
  have colon : ∃ blanks : List Char, layout.colon.toList = ':' :: blanks ∧
      ∀ sign ∈ blanks, isDocumentBlank sign = true := by
    rw [DocumentLayout.colon]
    split
    · exact ⟨[' '], rfl, by simp [isDocumentBlank]⟩
    · exact ⟨[], rfl, by simp⟩
  obtain ⟨blanks, own, blank⟩ := colon
  rw [String.toList_append, String.toList_append, List.append_assoc, List.append_assoc,
    toList_quotedText, own, readMember_quote, readQuotation_append_quote, Option.bind_some]
  dsimp only
  rw [List.cons_append, readNamed_colon, (Document.closesItems depth).passes blanks _ blank,
    read rest apart, String.ofList_toList]
  rfl

/-- A number begins with a numeral. -/
theorem exists_numeral_toString (value : Int) :
    ∃ sign signs, (toString value).toList = sign :: signs ∧ isNumeral sign = true := by
  cases value with
  | ofNat value =>
      obtain ⟨digit, digits, own⟩ := List.exists_cons_of_ne_nil (@Nat.toDigits_ne_nil value 10)
      have isDigit : digit.isDigit = true := Nat.isDigit_of_mem_toDigits (by decide) (by decide)
        (own ▸ List.mem_cons_self)
      refine ⟨digit, digits, ?_, by simp [isNumeral, isDigit]⟩
      rw [← own]
      exact Nat.toList_repr
  | negSucc value =>
      refine ⟨'-', (value + 1).repr.toList, ?_, rfl⟩
      rw [show toString (Int.negSucc value) = "-" ++ (value + 1).repr from rfl]
      simp

theorem Document.readFront_numeral (depth : Nat) {sign : Char} (numeral : isNumeral sign = true)
    (signs : List Char) :
    Document.readFront (depth + 1) (sign :: signs) = readNumber (sign :: signs) := by
  obtain ⟨shown, quote, bracket, brace⟩ := of_isNumeral numeral
  rw [Document.readFront, dropBlanks_cons shown]
  split
  · rename_i same
    exact absurd (List.cons.inj same).1 quote
  · rename_i same
    exact absurd (List.cons.inj same).1 bracket
  · rename_i same
    exact absurd (List.cons.inj same).1 brace
  · rw [if_pos (by simp [numeral])]

/-- These are the signs around the items of a list. -/
theorem brackets : "[" = String.singleton '[' ∧ "]" = String.singleton ']' := by decide

/-- These are the signs around the fields of a record. -/
theorem braces : "\x7b" = String.singleton '\x7b' ∧ "\x7d" = String.singleton '\x7d' := by decide

mutual

/-- A document that was written is read back, whatever stands behind it but a numeral. -/
theorem Document.isReadAs_write (document : Document) (layout : DocumentLayout) (depth : Nat)
    (deep : (document.write layout).length < depth) :
    IsReadAs (Document.readFront depth) (document.write layout).toList document := by
  obtain ⟨depth, rfl⟩ := Nat.exists_eq_succ_of_ne_zero (Nat.ne_zero_of_lt deep)
  intro rest apart
  cases document with
  | null =>
      rw [Document.write]
      exact Document.readFront_literal depth (by simp [documentLiterals]) rest
  | bool value =>
      rw [Document.write]
      cases value with
      | true => exact Document.readFront_literal depth (by simp [documentLiterals]) rest
      | false => exact Document.readFront_literal depth (by simp [documentLiterals]) rest
  | number value =>
      rw [Document.write]
      have read := readNumber_toString value rest apart
      obtain ⟨sign, signs, own, numeral⟩ := exists_numeral_toString value
      rw [own] at read ⊢
      rw [List.cons_append, Document.readFront_numeral depth numeral, ← List.cons_append, read]
  | text value =>
      rw [Document.write, toList_quotedText, Document.readFront_quote, readQuotation_append_quote,
        Option.map_some]
      dsimp only
      rw [String.ofList_toList]
  | list items =>
      rw [Document.write, brackets.1, brackets.2] at deep ⊢
      have read := forall₂_writeItems items layout.deeper depth fun item listed =>
        Nat.lt_of_lt_of_le (layout.length_lt_enclose '[' ']' listed) (Nat.lt_succ_iff.mp deep)
      rw [layout.toList_enclose, List.cons_append, Document.readFront_bracket,
        (Document.closesItems depth).isReadAs_inside layout read rest apart]
      rfl
  | record fields =>
      rw [Document.write, braces.1, braces.2] at deep ⊢
      have read := forall₂_writeFields fields layout.deeper depth fun field listed =>
        Nat.lt_of_lt_of_le (layout.length_lt_enclose '\x7b' '\x7d' listed) (Nat.lt_succ_iff.mp deep)
      rw [layout.toList_enclose, List.cons_append, Document.readFront_brace,
        (readMember_closesItems depth).isReadAs_inside layout read rest apart]
      rfl

/-- The items of a list are read back. -/
theorem forall₂_writeItems (items : List Document) (layout : DocumentLayout) (depth : Nat)
    (deep : ∀ item ∈ writeItems layout items, item.length < depth) :
    List.Forall₂ (fun source item => IsReadAs (Document.readFront depth) source.toList item)
      (writeItems layout items) items := by
  cases items with
  | nil => exact .nil
  | cons item items =>
      rw [writeItems, List.forall_mem_cons] at deep
      rw [writeItems]
      exact .cons (item.isReadAs_write layout depth deep.1)
        (forall₂_writeItems items layout depth deep.2)

/-- The fields of a record are read back. -/
theorem forall₂_writeFields (fields : List (String × Document)) (layout : DocumentLayout)
    (depth : Nat) (deep : ∀ field ∈ writeFields layout fields, field.length < depth) :
    List.Forall₂
      (fun source field => IsReadAs (readMember (Document.readFront depth)) source.toList field)
      (writeFields layout fields) fields := by
  cases fields with
  | nil => exact .nil
  | cons field fields =>
      obtain ⟨name, value⟩ := field
      rw [writeFields, List.forall_mem_cons] at deep
      rw [writeFields]
      have short : (value.write layout).length < depth := by
        have := deep.1
        rw [String.length_append] at this
        omega
      exact .cons (readMember_of_value (value.isReadAs_write layout depth short) name)
        (forall₂_writeFields fields layout depth deep.2)

end

/-- A document is read back from a text that may end with blanks. -/
theorem Document.read_write_append (layout : DocumentLayout) (document : Document) {blanks : String}
    (blank : ∀ sign ∈ blanks.toList, isDocumentBlank sign = true) :
    Document.read (document.write layout ++ blanks) = some document := by
  have apart : ∀ sign ∈ blanks.toList.head?, isNumeral sign = false := by
    intro sign first
    refine Bool.eq_false_iff.mpr fun numeral => ?_
    exact absurd (blank sign (List.mem_of_mem_head? first)) (by simp [(of_isNumeral numeral).1])
  have front := document.isReadAs_write layout ((document.write layout ++ blanks).length + 1)
    (by rw [String.length_append]; omega) blanks.toList apart
  have nothing := dropBlanks_append blank []
  rw [List.append_nil] at nothing
  rw [Document.read, String.toList_append, front]
  exact if_pos nothing

/-- A document is read back from the text in which it is sent. -/
theorem Document.read_narrow (document : Document) :
    Document.read document.narrow = some document := by
  have nothing : ∀ sign ∈ "".toList, isDocumentBlank sign = true := by simp
  have read := Document.read_write_append { isWide := false, depth := 0 } document nothing
  rwa [String.append_empty] at read

end RoutineAtlas
