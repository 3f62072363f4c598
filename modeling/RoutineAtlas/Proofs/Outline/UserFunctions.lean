import RoutineAtlas.Proofs.Outline.DeclarationParts
import Mathlib.Data.List.Basic

/-
This file compares the user functions of an outline with those of a table search. Both name the
same functions when the lines of a source declare them plainly.
-/

namespace RoutineAtlas

theorem leadingWord_append_return (text : List Char) :
    leadingWord (text ++ ['\r']) = leadingWord text := by
  rw [leadingWord, leadingWord, takeWhile_append_return (by decide)]

/-- The search does not care for a return mark at the end of a line. -/
theorem userFunctionOf_dropReturn (line : List Char) :
    userFunctionOf (dropReturn '\r' line) = userFunctionOf line := by
  rw [dropReturn]
  split
  · rename_i last
    obtain ⟨front, rfl⟩ := List.getLast?_eq_some_iff.mp last
    rw [List.dropLast_concat, userFunctionOf_eq, userFunctionOf_eq, afterUserFunction,
      afterUserFunction, dropWhile_append_return (by decide), afterFolded_append_return (by decide)]
    cases afterFolded "USER" (front.dropWhile isLineBlank) with
    | none => rfl
    | some user =>
        simp only [Option.bind_eq_bind, Option.map_some, Option.bind_some]
        rw [afterRun_append_return (by decide)]
        cases afterRun isLineBlank user with
        | none => rfl
        | some keyword =>
            simp only [Option.map_some, Option.bind_some]
            rw [afterFolded_append_return (by decide)]
            cases afterFolded "FUNCTION" keyword with
            | none => rfl
            | some function =>
                simp only [Option.map_some, Option.bind_some]
                rw [afterRun_append_return (by decide)]
                cases afterRun isLineBlank function with
                | none => rfl
                | some behind => exact (leadingWord_append_return behind).symm
  · rfl

/-- The search reads the same lines as the outline. -/
theorem FunctionNames.user_of (content : String) :
    (FunctionNames.of content).user =
      ((textLines content.toList).filterMap userFunctionOf).eraseDups := by
  rw [FunctionNames.of, textLines, List.filterMap_map]
  simp only [Function.comp_def, userFunctionOf_dropReturn]

/-- This is the name that a line declares, if it is of the kind. -/
def LineKind.declared? (kind : DeclarationKind) : LineKind → Option String
  | .declaration own name => if own = kind then some name else none
  | _ => none

theorem LineKind.declared_eq_some_iff {kind : DeclarationKind} {line : LineKind} {name : String} :
    line.declared? kind = some name ↔ line = .declaration kind name := by
  cases line with
  | declaration own other => simp [LineKind.declared?]
  | documentation | header | other => simp [LineKind.declared?]

/-- The names of a kind are those that the lines declare, wherever the lines stand. -/
theorem Outline.names_of (content : String) (kind : DeclarationKind) :
    (Outline.of content).names kind =
      (textLines content.toList).filterMap fun line => (LineKind.of line).declared? kind := by
  have numbered (lines : List LineKind) (number : Nat) (documented : Bool) :
      (((declarationsFrom number documented lines).filter fun declaration =>
        declaration.kind == kind).map Declaration.name) =
          lines.filterMap (LineKind.declared? kind) := by
    induction lines generalizing number documented with
    | nil => rfl
    | cons line rest inductionHypothesis =>
        cases line with
        | declaration own name =>
            rw [declarationsFrom, List.filter_cons, List.filterMap_cons, LineKind.declared?]
            by_cases same : own = kind
            · simp [same, inductionHypothesis]
            · simp [same, inductionHypothesis]
        | documentation | header | other =>
            rw [declarationsFrom, inductionHypothesis]
            rfl
  rw [Outline.names, Outline.of, numbered, List.filterMap_map]
  rfl

/-- A word behind the keywords does not begin with a blank. -/
theorem stops_isBlank_of_leadingWord {text : List Char} {name : String}
    (read : leadingWord text = some name) : Stops isBlank text := by
  obtain ⟨filled, word⟩ := leadingWord_eq_some_iff.mp read
  cases text with
  | nil => simp [Stops]
  | cons first others =>
      apply stops_cons.mpr
      by_contra blank
      rw [Bool.not_eq_false] at blank
      have noWord : isWord first = false := by
        by_contra inside
        rw [isBlank_of_isWord (Bool.not_eq_false _ ▸ inside)] at blank
        exact Bool.noConfusion blank
      rw [List.takeWhile_cons, noWord] at word
      exact filled (String.toList_eq_nil_iff.mp word.symm)

/-- A word stands at the start of the text and ends there. -/
theorem exists_rest_of_leadingWord {text : List Char} {name : String}
    (read : leadingWord text = some name) :
    ∃ rest, text = name.toList ++ rest ∧ Stops isWord rest := by
  obtain ⟨_, word⟩ := leadingWord_eq_some_iff.mp read
  refine ⟨text.dropWhile isWord, ?_, stops_dropWhile isWord text⟩
  rw [← word, List.takeWhile_append_dropWhile]

/-- An identifier that no word goes on behind is read by both readings. -/
theorem IsIdentifier.leading {name : String} (identifier : IsIdentifier name) {rest : List Char}
    (ends : Stops isWord rest) :
    leadingWord (name.toList ++ rest) = some name ∧
      leadingName (name.toList ++ rest) = some name := by
  have words : ∀ character ∈ name.toList, isWord character = true :=
    fun character member => isWord_of_continuesName (identifier.2 character member)
  refine ⟨leadingWord_eq_some_iff.mpr ⟨?_, takeWhile_append_of_stops words ends⟩,
    leadingName_eq_some_iff.mpr ⟨identifier, rest, rfl,
      ends.of_imp fun _ goesOn => isWord_of_continuesName goesOn⟩⟩
  rintro rfl
  obtain ⟨first, head, _⟩ := identifier.1
  exact absurd head (by simp)

/-- Without the foreign letter a text that folds to the first keyword is written in ASCII. -/
theorem asciiUpper_of_folds {user : List Char} (folds : user.map foldLetter = "USER".toList)
    (noForeign : Char.ofNat 0x17F ∉ user) : asciiUpper user = "USER".toList := by
  rw [← folds, asciiUpper]
  apply List.map_congr_left
  intro character member
  obtain ⟨rfl, _⟩ | ⟨_, kelvin⟩ | plain := foldLetter_cases character
  · exact absurd member noForeign
  · have inside : foldLetter character ∈ "USER".toList := folds ▸ List.mem_map_of_mem member
    rw [kelvin] at inside
    exact absurd inside (by decide)
  · exact plain.symm

/-- The first keyword of a user function takes up these characters of a line. -/
def firstKeyword (line : List Char) : List Char :=
  (skipBlanks line).take "USER".length

theorem UserFunctionParts.user_eq (parts : UserFunctionParts isBlank) :
    parts.user = firstKeyword parts.line := by
  have length : parts.user.length = "USER".length := by
    rw [← List.length_map foldLetter, parts.isUser]
    rfl
  have skipped : skipBlanks parts.line = parts.keywords ++ (parts.gap ++ parts.behind) :=
    parts.dropWhile_line sparesCapitals_isBlank
  rw [firstKeyword, skipped, UserFunctionParts.keywords, List.append_assoc, ← length,
    List.take_left]

/-- On a line without a mark, whose first keyword has no foreign letter, the outline names what the
search names exactly when that is an identifier. -/
theorem outline_names_iff_of_search {line : List Char} {name : String}
    (unmarked : isDocumentation line = false) (noForeign : Char.ofNat 0x17F ∉ firstKeyword line)
    (named : userFunctionOf line = some name) :
    LineKind.of line = .declaration .userFunction name ↔ IsIdentifier name := by
  obtain ⟨narrow, rfl, read⟩ := userFunctionOf_eq_some_iff.mp named
  constructor
  · intro declared
    obtain ⟨_, _, _, _, readToo⟩ := LineKind.of_eq_userFunction_iff.mp declared
    exact (leadingName_eq_some_iff.mp readToo).1
  · intro identifier
    obtain ⟨rest, behind, ends⟩ := exists_rest_of_leadingWord read
    refine LineKind.of_eq_userFunction_iff.mpr ⟨unmarked,
      narrow.widen (fun _ blank => isBlank_of_isLineBlank blank)
        (stops_isBlank_of_leadingWord read), rfl, ?_, ?_⟩
    · refine asciiUpper_of_folds narrow.isUser ?_
      rwa [UserFunctionParts.user_eq]
    · exact (congrArg leadingName behind).trans (identifier.leading ends).2

/-- The line has only spaces and tabs around its keywords, and no word goes on behind the name. -/
def IsSpacedPlainly (line : List Char) (name : String) : Prop :=
  ∃ (parts : UserFunctionParts isLineBlank) (rest : List Char),
    parts.line = line ∧ parts.behind = name.toList ++ rest ∧ Stops isWord rest

/-- The search names what the outline names exactly when the line is spaced plainly. -/
theorem search_names_iff_of_outline {line : List Char} {name : String}
    (declared : LineKind.of line = .declaration .userFunction name) :
    userFunctionOf line = some name ↔ IsSpacedPlainly line name := by
  obtain ⟨_, _, _, _, readToo⟩ := LineKind.of_eq_userFunction_iff.mp declared
  have identifier := (leadingName_eq_some_iff.mp readToo).1
  rw [userFunctionOf_eq_some_iff, IsSpacedPlainly]
  constructor
  · rintro ⟨parts, own, read⟩
    obtain ⟨rest, behind, ends⟩ := exists_rest_of_leadingWord read
    exact ⟨parts, rest, own, behind, ends⟩
  · rintro ⟨parts, rest, own, behind, ends⟩
    exact ⟨parts, own, (congrArg leadingWord behind).trans (identifier.leading ends).1⟩

/-- The line declares a user function plainly: it bears no documentation mark, its first keyword has
no foreign letter, it is spaced plainly, and the name is an identifier. -/
structure DeclaresPlainly (line : List Char) (name : String) : Prop where
  unmarked : isDocumentation line = false
  noForeign : Char.ofNat 0x17F ∉ firstKeyword line
  identifier : IsIdentifier name
  spaced : IsSpacedPlainly line name

/-- A plain declaration is named by both readings. -/
theorem DeclaresPlainly.named {line : List Char} {name : String}
    (plain : DeclaresPlainly line name) :
    userFunctionOf line = some name ∧ LineKind.of line = .declaration .userFunction name := by
  obtain ⟨parts, rest, own, behind, ends⟩ := plain.spaced
  have named : userFunctionOf line = some name := userFunctionOf_eq_some_iff.mpr
    ⟨parts, own, (congrArg leadingWord behind).trans (plain.identifier.leading ends).1⟩
  exact ⟨named, (outline_names_iff_of_search plain.unmarked plain.noForeign named).mpr
    plain.identifier⟩

/-- One of the two readings takes the line for the declaration of a user function. -/
def IsTakenForUserFunction (line : List Char) : Prop :=
  ∃ name, userFunctionOf line = some name ∨ LineKind.of line = .declaration .userFunction name

/-- The outline and the table search name the same user functions where lines declare plainly. -/
theorem Outline.userFunctions_agree :
    (∀ line name, isDocumentation line = false → Char.ofNat 0x17F ∉ firstKeyword line →
      userFunctionOf line = some name →
        (LineKind.of line = .declaration .userFunction name ↔ IsIdentifier name)) ∧
    (∀ line name, LineKind.of line = .declaration .userFunction name →
      (userFunctionOf line = some name ↔ IsSpacedPlainly line name)) ∧
    ∀ content : String,
      (∀ line ∈ textLines content.toList, IsTakenForUserFunction line →
        ∃ name, DeclaresPlainly line name) →
      ((Outline.of content).names .userFunction).eraseDups = (FunctionNames.of content).user := by
  refine ⟨?_, ?_, ?_⟩
  · intro line name unmarked noForeign named
    exact outline_names_iff_of_search unmarked noForeign named
  · intro line name declared
    exact search_names_iff_of_outline declared
  · intro content plain
    rw [Outline.names_of, FunctionNames.user_of]
    congr 1
    apply List.filterMap_congr
    intro line member
    by_cases taken : IsTakenForUserFunction line
    · obtain ⟨name, declares⟩ := plain line member taken
      obtain ⟨named, declared⟩ := declares.named
      rw [named, LineKind.declared_eq_some_iff.mpr declared]
    · have noName (name : String) : userFunctionOf line ≠ some name :=
        fun named => taken ⟨name, Or.inl named⟩
      have noDeclaration (name : String) :
          (LineKind.of line).declared? .userFunction ≠ some name :=
        fun declared => taken ⟨name, Or.inr (LineKind.declared_eq_some_iff.mp declared)⟩
      rw [Option.eq_none_iff_forall_ne_some.mpr noName,
        Option.eq_none_iff_forall_ne_some.mpr noDeclaration]

/-- These are the parts of a plain declaration with small letters and a tab. -/
def plainParts : UserFunctionParts isLineBlank where
  leading := [' ']
  user := "User".toList
  between := [' ']
  function := "function".toList
  gap := ['\t']
  behind := 'A' :: "lpha()".toList
  leadingBlank := List.all_eq_true.mp (by decide)
  isUser := by decide
  betweenFilled := by decide
  betweenBlank := List.all_eq_true.mp (by decide)
  isFunction := by decide
  gapFilled := by decide
  gapBlank := List.all_eq_true.mp (by decide)
  stops := stops_cons.mpr (by decide)

theorem declaresPlainly_plainParts : DeclaresPlainly " User function\tAlpha()".toList "Alpha" where
  unmarked := by decide
  noForeign := by decide
  identifier := ⟨⟨'A', rfl, by decide⟩, List.all_eq_true.mp (by decide)⟩
  spaced := ⟨plainParts, ['(', ')'], by decide, by decide, stops_cons.mpr (by decide)⟩

/-- Both readings name the one function of a line, and of a source with the line. -/
theorem Outline.userFunctions_agree_on_plain :
    userFunctionOf " User function\tAlpha()".toList = some "Alpha" ∧
      LineKind.of " User function\tAlpha()".toList = .declaration .userFunction "Alpha" ∧
      ((Outline.of " User function\tAlpha()\nReturn").names .userFunction).eraseDups =
        (FunctionNames.of " User function\tAlpha()\nReturn").user := by
  obtain ⟨ofSearch, ofOutline, agree⟩ := Outline.userFunctions_agree
  have plain := declaresPlainly_plainParts
  have named : userFunctionOf " User function\tAlpha()".toList = some "Alpha" := by decide
  have declared := (ofSearch _ _ plain.unmarked plain.noForeign named).mpr plain.identifier
  refine ⟨(ofOutline _ _ declared).mpr plain.spaced, declared, ?_⟩
  apply agree
  have lines : textLines " User function\tAlpha()\nReturn".toList =
      [" User function\tAlpha()".toList, "Return".toList] := by decide
  rw [lines]
  intro line member taken
  simp only [List.mem_cons, List.not_mem_nil, or_false] at member
  obtain rfl | rfl := member
  · exact ⟨"Alpha", plain⟩
  · have noName : userFunctionOf "Return".toList = none := by decide
    have noDeclaration : LineKind.of "Return".toList = .other := by decide
    obtain ⟨name, named | declared⟩ := taken
    · rw [noName] at named
      exact absurd named (by simp)
    · rw [noDeclaration] at declared
      exact absurd declared (by simp)

/-- The search takes a word that starts with a digit for a name, and the outline does not. -/
theorem Outline.userFunctions_differ :
    ¬ ∀ content : String,
      ((Outline.of content).names .userFunction).eraseDups = (FunctionNames.of content).user := by
  intro same
  have outlined : (Outline.of "User Function 1X()").names .userFunction = [] := by
    rw [Outline.names_of]
    decide
  have searched : (FunctionNames.of "User Function 1X()").user = ["1X"] := by decide
  have contents := same "User Function 1X()"
  rw [outlined, searched] at contents
  exact absurd contents (by simp)

end RoutineAtlas
