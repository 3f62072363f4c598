import RoutineAtlas.Outline.Basic
import RoutineAtlas.Proofs.Text.Recognizer

/-
This file settles which lines the outline and the table search take for the declaration of a user
function. Both want the same parts of a line, but they differ in blanks, keywords and names.
-/

namespace RoutineAtlas

/-- These are the parts of a line that begins with the keywords of a user function, where the
characters of the kind count as blanks. -/
structure UserFunctionParts (blank : Char → Bool) where
  leading : List Char
  user : List Char
  between : List Char
  function : List Char
  gap : List Char
  behind : List Char
  leadingBlank : ∀ character ∈ leading, blank character = true
  isUser : user.map foldLetter = "USER".toList
  betweenFilled : between ≠ []
  betweenBlank : ∀ character ∈ between, blank character = true
  isFunction : function.map foldLetter = "FUNCTION".toList
  gapFilled : gap ≠ []
  gapBlank : ∀ character ∈ gap, blank character = true
  stops : Stops blank behind

/-- The keywords are told apart by what stands between them. -/
def UserFunctionParts.keywords {blank : Char → Bool} (parts : UserFunctionParts blank) :
    List Char :=
  parts.user ++ (parts.between ++ parts.function)

/-- These are the characters of the line. -/
def UserFunctionParts.line {blank : Char → Bool} (parts : UserFunctionParts blank) : List Char :=
  parts.leading ++ (parts.keywords ++ (parts.gap ++ parts.behind))

/-- The parts are the same for a wider kind of blanks that the name does not begin with. -/
def UserFunctionParts.widen {blank wider : Char → Bool} (parts : UserFunctionParts blank)
    (wide : ∀ character, blank character = true → wider character = true)
    (stops : Stops wider parts.behind) : UserFunctionParts wider :=
  { parts with
    leadingBlank := fun character member => wide character (parts.leadingBlank character member)
    betweenBlank := fun character member => wide character (parts.betweenBlank character member)
    gapBlank := fun character member => wide character (parts.gapBlank character member)
    stops := stops }

/-- The two keywords are read with blanks of one kind behind each. -/
def afterUserFunction (blank : Char → Bool) : Recognizer := fun text => do
  let user ← afterFolded "USER" text
  let keyword ← afterRun blank user
  let function ← afterFolded "FUNCTION" keyword
  afterRun blank function

/-- A text that folds to a literal begins with a character that folds to its first letter. -/
theorem exists_cons_of_map_foldLetter {front : List Char} {letter : Char} {others : List Char}
    (folds : front.map foldLetter = letter :: others) :
    ∃ first further, front = first :: further ∧ foldLetter first = letter := by
  cases front with
  | nil => exact absurd folds (by simp)
  | cons first further => exact ⟨first, further, rfl, (List.cons.inj folds).1⟩

/-- The blanks of a kind are told apart from what folds to a capital. -/
def SparesCapitals (blank : Char → Bool) : Prop :=
  ∀ character, (foldLetter character).isUpper = true → blank character = false

theorem sparesCapitals_isBlank : SparesCapitals isBlank :=
  fun _ capital => isBlank_of_isUpper_foldLetter capital

theorem sparesCapitals_isLineBlank : SparesCapitals isLineBlank := by
  intro character capital
  by_contra blank
  rw [Bool.not_eq_false] at blank
  have other := isBlank_of_isUpper_foldLetter capital
  rw [isBlank_of_isLineBlank blank] at other
  exact Bool.noConfusion other

/-- A text that folds to a capital literal does not begin with a blank. -/
theorem SparesCapitals.stops {blank : Char → Bool} (spares : SparesCapitals blank)
    {front rest : List Char} {letter : Char} {others : List Char}
    (folds : front.map foldLetter = letter :: others) (capital : letter.isUpper = true) :
    Stops blank (front ++ rest) := by
  obtain ⟨first, further, rfl, own⟩ := exists_cons_of_map_foldLetter folds
  exact stops_cons.mpr (spares first (own ▸ capital))

/-- Without its blanks a line begins with the keywords. -/
theorem UserFunctionParts.dropWhile_line {blank : Char → Bool} (parts : UserFunctionParts blank)
    (spares : SparesCapitals blank) :
    parts.line.dropWhile blank = parts.keywords ++ (parts.gap ++ parts.behind) := by
  apply dropWhile_append_of_stops parts.leadingBlank
  rw [UserFunctionParts.keywords, List.append_assoc]
  exact spares.stops parts.isUser (by decide)

/-- The keywords of a user function are read exactly where a line has its parts. -/
theorem afterUserFunction_eq_some_iff {blank : Char → Bool} (spares : SparesCapitals blank)
    {line behind : List Char} :
    afterUserFunction blank (line.dropWhile blank) = some behind ↔
      ∃ parts : UserFunctionParts blank, parts.line = line ∧ parts.behind = behind := by
  simp only [afterUserFunction, Option.bind_eq_bind, Option.bind_eq_some_iff,
    afterFolded_eq_some_iff, afterRun_eq_some_iff]
  constructor
  · rintro ⟨_, ⟨user, split, isUser⟩, _, ⟨between, rfl, betweenFilled, betweenBlank, _⟩, _,
      ⟨function, rfl, isFunction⟩, gap, rfl, gapFilled, gapBlank, stops⟩
    refine ⟨{
      leading := line.takeWhile blank
      user, between, function, gap, behind
      leadingBlank := fun character member => List.mem_takeWhile_imp member
      isUser, betweenFilled, betweenBlank, isFunction, gapFilled, gapBlank, stops }, ?_, rfl⟩
    have whole := List.takeWhile_append_dropWhile (p := blank) (l := line)
    rw [split] at whole
    simpa only [UserFunctionParts.line, UserFunctionParts.keywords, List.append_assoc] using whole
  · rintro ⟨parts, rfl, rfl⟩
    refine ⟨parts.between ++ (parts.function ++ (parts.gap ++ parts.behind)),
      ⟨parts.user, ?_, parts.isUser⟩, parts.function ++ (parts.gap ++ parts.behind),
      ⟨parts.between, rfl, parts.betweenFilled, parts.betweenBlank, ?_⟩, parts.gap ++ parts.behind,
      ⟨parts.function, rfl, parts.isFunction⟩, parts.gap, rfl, parts.gapFilled, parts.gapBlank,
      parts.stops⟩
    · rw [parts.dropWhile_line spares]
      simp only [UserFunctionParts.keywords, List.append_assoc]
    · exact spares.stops parts.isFunction (by decide)

/-- The search reads the word behind the keywords, where spaces and tabs are blanks. -/
theorem userFunctionOf_eq (line : List Char) :
    userFunctionOf line =
      (afterUserFunction isLineBlank (line.dropWhile isLineBlank)).bind leadingWord := by
  simp only [userFunctionOf, afterUserFunction, afterLineBlanks_eq, Option.bind_eq_bind,
    Option.bind_assoc]

theorem leadingWord_eq_some_iff {text : List Char} {name : String} :
    leadingWord text = some name ↔ name ≠ "" ∧ text.takeWhile isWord = name.toList := by
  rw [leadingWord]
  split
  · rename_i empty
    rw [List.isEmpty_iff] at empty
    rw [empty]
    constructor
    · intro impossible
      exact absurd impossible (by simp)
    · rintro ⟨filled, same⟩
      exact absurd (String.toList_eq_nil_iff.mp same.symm) filled
  · rename_i filled
    rw [List.isEmpty_iff] at filled
    rw [Option.some.injEq]
    constructor
    · rintro rfl
      rw [String.toList_ofList]
      refine ⟨?_, rfl⟩
      intro empty
      exact filled (by simpa using congrArg String.toList empty)
    · rintro ⟨_, same⟩
      rw [same, String.ofList_toList]

/-- A name is an identifier when it starts and goes on as the names of an outline do. -/
def IsIdentifier (name : String) : Prop :=
  (∃ first ∈ name.toList.head?, startsName first = true) ∧
    ∀ character ∈ name.toList, continuesName character = true

/-- The outline reads an identifier as far as it goes. -/
theorem leadingName_eq_some_iff {text : List Char} {name : String} :
    leadingName text = some name ↔
      IsIdentifier name ∧ ∃ rest, text = name.toList ++ rest ∧ Stops continuesName rest := by
  constructor
  · intro read
    cases text with
    | nil => exact absurd read (by simp [leadingName])
    | cons first others =>
        rw [leadingName, Option.ite_none_right_eq_some] at read
        obtain ⟨starts, same⟩ := read
        obtain rfl := Option.some.inj same
        rw [IsIdentifier, String.toList_ofList]
        refine ⟨⟨⟨first, rfl, starts⟩, ?_⟩, others.dropWhile continuesName, ?_,
          stops_dropWhile continuesName others⟩
        · intro character member
          rcases List.mem_cons.mp member with rfl | member
          · simp [continuesName, starts]
          · exact List.mem_takeWhile_imp member
        · rw [List.cons_append, List.takeWhile_append_dropWhile]
  · rintro ⟨⟨⟨first, head, starts⟩, goesOn⟩, rest, rfl, stops⟩
    obtain ⟨further, characters⟩ := List.head?_eq_some_iff.mp head
    have inside : ∀ character ∈ further, continuesName character = true :=
      fun character member => goesOn character (by simp [characters, member])
    rw [characters, List.cons_append, leadingName, if_pos starts,
      takeWhile_append_of_stops inside stops, ← characters, String.ofList_toList]

/-- The kind is that of a user function when the keyword begins with the ASCII letters of its first
word. -/
theorem DeclarationKind.of_eq_userFunction_iff {keyword : List Char} :
    DeclarationKind.of keyword = .userFunction ↔ "USER".toList <+: asciiUpper keyword := by
  rw [DeclarationKind.of, ← List.isPrefixOf_iff_prefix, asciiUpper]
  split
  · rename_i begins
    exact iff_of_true rfl begins
  · rename_i other
    simp only [other, Bool.false_eq_true, iff_false]
    split
    · simp
    · split
      · simp
      · split <;> simp

/-- The keywords tell a user function when the first one has no foreign letter. -/
theorem UserFunctionParts.kind_eq_iff {blank : Char → Bool} (parts : UserFunctionParts blank) :
    DeclarationKind.of parts.keywords = .userFunction ↔
      asciiUpper parts.user = "USER".toList := by
  have length : (asciiUpper parts.user).length = "USER".toList.length := by
    rw [asciiUpper, List.length_map, ← parts.isUser, List.length_map]
  rw [DeclarationKind.of_eq_userFunction_iff, UserFunctionParts.keywords, asciiUpper,
    List.map_append, ← asciiUpper]
  constructor
  · intro begins
    have front := List.prefix_of_prefix_length_le begins (List.prefix_append _ _) length.ge
    exact (front.eq_of_length length.symm).symm
  · intro same
    rw [same]
    exact List.prefix_append _ _

/-- What the outline reads on a line with the parts of a user function. -/
theorem UserFunctionParts.declaredBy (parts : UserFunctionParts isBlank) :
    RoutineAtlas.declaredBy (afterTwoWords "USER" "FUNCTION") (skipBlanks parts.line) =
      (leadingName parts.behind).map fun name => (.of parts.keywords, name) := by
  have skipped : skipBlanks parts.line = parts.keywords ++ (parts.gap ++ parts.behind) :=
    parts.dropWhile_line sparesCapitals_isBlank
  have user : afterFolded "USER" (parts.keywords ++ (parts.gap ++ parts.behind)) =
      some (parts.between ++ (parts.function ++ (parts.gap ++ parts.behind))) :=
    afterFolded_eq_some_iff.mpr
      ⟨parts.user, by simp only [UserFunctionParts.keywords, List.append_assoc], parts.isUser⟩
  have between : afterBlanks (parts.between ++ (parts.function ++ (parts.gap ++ parts.behind))) =
      some (parts.function ++ (parts.gap ++ parts.behind)) := by
    rw [afterBlanks_eq]
    exact afterRun_eq_some_iff.mpr ⟨parts.between, rfl, parts.betweenFilled, parts.betweenBlank,
      sparesCapitals_isBlank.stops parts.isFunction (by decide)⟩
  have function : afterFolded "FUNCTION" (parts.function ++ (parts.gap ++ parts.behind)) =
      some (parts.gap ++ parts.behind) :=
    afterFolded_eq_some_iff.mpr ⟨parts.function, rfl, parts.isFunction⟩
  have gap : afterBlanks (parts.gap ++ parts.behind) = some parts.behind := by
    rw [afterBlanks_eq]
    exact afterRun_eq_some_iff.mpr
      ⟨parts.gap, rfl, parts.gapFilled, parts.gapBlank, parts.stops⟩
  have keywords : (parts.keywords ++ (parts.gap ++ parts.behind)).take
      ((parts.keywords ++ (parts.gap ++ parts.behind)).length -
        (parts.gap ++ parts.behind).length) = parts.keywords := by
    rw [List.length_append, Nat.add_sub_cancel, List.take_left]
  rw [skipped, RoutineAtlas.declaredBy, afterTwoWords]
  simp only [user, between, function, gap, keywords, Option.bind_eq_bind, Option.bind_some,
    Option.pure_def]
  cases leadingName parts.behind <;> rfl

/-- The outline reads a user function exactly where a line has its parts and a name behind them. -/
theorem declaredBy_eq_some_iff {line : List Char} {kind : DeclarationKind} {name : String} :
    declaredBy (afterTwoWords "USER" "FUNCTION") (skipBlanks line) = some (kind, name) ↔
      ∃ parts : UserFunctionParts isBlank, parts.line = line ∧
        DeclarationKind.of parts.keywords = kind ∧ leadingName parts.behind = some name := by
  have told (parts : UserFunctionParts isBlank) :
      declaredBy (afterTwoWords "USER" "FUNCTION") (skipBlanks parts.line) = some (kind, name) ↔
        DeclarationKind.of parts.keywords = kind ∧ leadingName parts.behind = some name := by
    rw [parts.declaredBy, Option.map_eq_some_iff]
    constructor
    · rintro ⟨own, read, same⟩
      obtain ⟨rfl, rfl⟩ := Prod.mk.inj same
      exact ⟨rfl, read⟩
    · rintro ⟨rfl, read⟩
      exact ⟨name, read, rfl⟩
  constructor
  · intro declared
    have read : ∃ behind,
        afterUserFunction isBlank (line.dropWhile isBlank) = some behind := by
      simp only [declaredBy, afterTwoWords, afterBlanks_eq, Option.bind_eq_bind,
        Option.bind_assoc, Option.bind_eq_some_iff] at declared
      obtain ⟨user, isUser, keyword, isKeyword, function, isFunction, behind, isBehind, _⟩ :=
        declared
      refine ⟨behind, ?_⟩
      simp only [afterUserFunction, Option.bind_eq_bind, Option.bind_eq_some_iff]
      exact ⟨user, isUser, keyword, isKeyword, function, isFunction, isBehind⟩
    obtain ⟨behind, found⟩ := read
    obtain ⟨parts, rfl, _⟩ := (afterUserFunction_eq_some_iff sparesCapitals_isBlank).mp found
    exact ⟨parts, rfl, (told parts).mp declared⟩
  · rintro ⟨parts, rfl, own⟩
    exact (told parts).mpr own

/-- The recogniser finds its phrase only where a text begins with this letter. -/
def BeginsWith (letter : Char) (keyword : Recognizer) : Prop :=
  ∀ text rest, keyword text = some rest → ∃ first ∈ text.head?, foldLetter first = letter

theorem beginsWith_afterFolded {literal : String} {letter : Char} {others : List Char}
    (characters : literal.toList = letter :: others) :
    BeginsWith letter (afterFolded literal) := by
  intro text rest read
  obtain ⟨front, rfl, folds⟩ := afterFolded_eq_some_iff.mp read
  obtain ⟨first, further, rfl, own⟩ := exists_cons_of_map_foldLetter (folds.trans characters)
  exact ⟨first, rfl, own⟩

theorem beginsWith_afterTwoWords {first second : String} {letter : Char} {others : List Char}
    (characters : first.toList = letter :: others) :
    BeginsWith letter (afterTwoWords first second) := by
  intro text rest read
  obtain ⟨between, found, _⟩ := Option.bind_eq_some_iff.mp read
  exact beginsWith_afterFolded characters text between found

theorem beginsWith_afterStaticFunction : BeginsWith 'S' afterStaticFunction := by
  intro text rest read
  obtain ⟨short, found, _⟩ := Option.bind_eq_some_iff.mp read
  exact beginsWith_afterTwoWords rfl text short found

/-- Only the keywords of a user function begin with its letter. -/
theorem exists_beginsWith_of_mem_tail :
    ∀ keyword ∈ declarationKeywords.tail, ∃ letter, letter ≠ 'U' ∧ BeginsWith letter keyword := by
  simp only [declarationKeywords, List.tail_cons, List.forall_mem_cons, List.not_mem_nil,
    IsEmpty.forall_iff, implies_true, and_true]
  exact ⟨⟨'S', by decide, beginsWith_afterStaticFunction⟩,
    ⟨'S', by decide, beginsWith_afterTwoWords rfl⟩, ⟨'M', by decide, beginsWith_afterTwoWords rfl⟩,
    ⟨'F', by decide, beginsWith_afterFolded rfl⟩, ⟨'C', by decide, beginsWith_afterFolded rfl⟩,
    ⟨'M', by decide, beginsWith_afterFolded rfl⟩, ⟨'W', by decide, beginsWith_afterFolded rfl⟩⟩

/-- Whatever another keyword declares, it is no user function. -/
theorem BeginsWith.kind_ne {letter : Char} {keyword : Recognizer}
    (begins : BeginsWith letter keyword) (other : letter ≠ 'U') {text : List Char}
    {kind : DeclarationKind} {name : String}
    (declared : declaredBy keyword text = some (kind, name)) : kind ≠ .userFunction := by
  rintro rfl
  simp only [declaredBy, Option.bind_eq_bind, Option.bind_eq_some_iff, Option.pure_def,
    Option.some.injEq, Prod.mk.injEq] at declared
  obtain ⟨rest, read, _, _, isUser, _⟩ := declared
  obtain ⟨first, head, own⟩ := begins text rest read
  obtain ⟨further, rfl⟩ := List.head?_eq_some_iff.mp head
  obtain ⟨behind, split⟩ := DeclarationKind.of_eq_userFunction_iff.mp isUser
  have upper : first.toUpper = 'U' := by
    cases count : (first :: further).length - rest.length with
    | zero => rw [count] at split; exact absurd split (by simp [asciiUpper])
    | succ more =>
        rw [count, List.take_succ_cons, asciiUpper, List.map_cons] at split
        exact (List.cons.inj split).1.symm
  have capital : first.toUpper.isUpper = true := by
    rw [upper]
    decide
  have folds : foldLetter first = first.toUpper := foldLetter_of_isUpper_toUpper capital
  exact other (own.symm.trans (folds.trans upper))

/-- A line declares a user function exactly when the first keywords do. -/
theorem declarationOf_eq_userFunction_iff {line : List Char} {name : String} :
    declarationOf line = some (.userFunction, name) ↔
      declaredBy (afterTwoWords "USER" "FUNCTION") (skipBlanks line) =
        some (.userFunction, name) := by
  have keywords : declarationKeywords =
      afterTwoWords "USER" "FUNCTION" :: declarationKeywords.tail := rfl
  rw [declarationOf, keywords, List.findSome?_cons]
  cases first : declaredBy (afterTwoWords "USER" "FUNCTION") (skipBlanks line) with
  | some declared => rfl
  | none =>
      simp only [reduceCtorEq, iff_false]
      intro found
      obtain ⟨keyword, member, declared⟩ := List.exists_of_findSome?_eq_some found
      obtain ⟨letter, other, begins⟩ := exists_beginsWith_of_mem_tail keyword member
      exact begins.kind_ne other declared rfl

/-- A line that begins with the keywords of a user function includes nothing. -/
theorem UserFunctionParts.includeOf (parts : UserFunctionParts isBlank) :
    RoutineAtlas.includeOf parts.line = none := by
  have skipped : skipBlanks parts.line = parts.keywords ++ (parts.gap ++ parts.behind) :=
    parts.dropWhile_line sparesCapitals_isBlank
  obtain ⟨first, further, user, own⟩ := exists_cons_of_map_foldLetter parts.isUser
  have noMark : afterLiteral "#" (skipBlanks parts.line) = none := by
    rw [Option.eq_none_iff_forall_ne_some]
    intro rest read
    have split := afterLiteral_eq_some.mp read
    rw [skipped, UserFunctionParts.keywords, user] at split
    obtain ⟨rfl, _⟩ := List.cons.inj split
    exact absurd own (by decide)
  rw [RoutineAtlas.includeOf, noMark]
  rfl

/-- The outline takes a line for a user function exactly when the line has no mark, its parts with
the first keyword in ASCII letters, and an identifier behind them. -/
theorem LineKind.of_eq_userFunction_iff {line : List Char} {name : String} :
    LineKind.of line = .declaration .userFunction name ↔
      isDocumentation line = false ∧ ∃ parts : UserFunctionParts isBlank, parts.line = line ∧
        asciiUpper parts.user = "USER".toList ∧ leadingName parts.behind = some name := by
  have declared : declarationOf line = some (.userFunction, name) ↔
      ∃ parts : UserFunctionParts isBlank, parts.line = line ∧
        asciiUpper parts.user = "USER".toList ∧ leadingName parts.behind = some name := by
    simp only [declarationOf_eq_userFunction_iff, declaredBy_eq_some_iff,
      UserFunctionParts.kind_eq_iff]
  rw [← declared, LineKind.of]
  cases marked : isDocumentation line with
  | true => simp
  | false =>
      simp only [Bool.false_eq_true, if_false, true_and]
      constructor
      · intro kind
        split at kind
        · exact absurd kind (by simp)
        · split at kind
          · rename_i found
            obtain ⟨rfl, rfl⟩ := LineKind.declaration.inj kind
            exact found
          · exact absurd kind (by simp)
      · intro found
        obtain ⟨parts, rfl, _⟩ := declared.mp found
        rw [parts.includeOf, found]

/-- The search takes a line for a user function exactly when the line has its parts and a word
behind them. -/
theorem userFunctionOf_eq_some_iff {line : List Char} {name : String} :
    userFunctionOf line = some name ↔
      ∃ parts : UserFunctionParts isLineBlank, parts.line = line ∧
        leadingWord parts.behind = some name := by
  rw [userFunctionOf_eq, Option.bind_eq_some_iff]
  constructor
  · rintro ⟨behind, found, read⟩
    obtain ⟨parts, rfl, rfl⟩ := (afterUserFunction_eq_some_iff sparesCapitals_isLineBlank).mp found
    exact ⟨parts, rfl, read⟩
  · rintro ⟨parts, rfl, read⟩
    exact ⟨parts.behind,
      (afterUserFunction_eq_some_iff sparesCapitals_isLineBlank).mpr ⟨parts, rfl, rfl⟩, read⟩

end RoutineAtlas
