import RoutineAtlas.Proofs.Origin.TextVerdict
import RoutineAtlas.Proofs.Outline.UserFunctions
import RoutineAtlas.Proofs.Text.UpperCaseWord

/-
This file compares the user functions of a source with the verdict on its text. The functions are
read in any case from the source itself, and the verdict from its upper case. Whatever is read as a
user function speaks for a customer, but for names that begin with one of two letters.
-/

namespace RoutineAtlas

section Declaration

variable {leading between gap behind : List Char}
  (leadingBlank : ∀ character ∈ leading, isBlank character = true)
  (betweenFilled : between ≠ []) (betweenBlank : ∀ character ∈ between, isBlank character = true)
  (gapFilled : gap ≠ []) (gapBlank : ∀ character ∈ gap, isBlank character = true)
  (named : startsWithWord behind = true)

include gapFilled gapBlank named in
/-- The name of a declaration stands behind blanks. -/
theorem afterBlanksAndName_eq_some : afterBlanksAndName (gap ++ behind) = some behind := by
  have stops : Stops isBlank behind := by
    cases behind with
    | nil => exact absurd named (by simp [startsWithWord])
    | cons first others => exact stops_cons.mpr (isBlank_of_isWord named)
  have blanks : afterBlanks (gap ++ behind) = some behind := by
    rw [afterBlanks_eq]
    exact afterRun_eq_some_iff.mpr ⟨gap, rfl, gapFilled, gapBlank, stops⟩
  rw [afterBlanksAndName, blanks]
  exact if_pos named

include leadingBlank betweenFilled betweenBlank gapFilled gapBlank named in
/-- A customer's declaration is recognised by its parts. -/
theorem userDeclaration_eq_some :
    userDeclaration (leading ++ ("USER".toList ++
      (between ++ ("FUNCTION".toList ++ (gap ++ behind))))) = some behind := by
  have skipped : skipBlanks (leading ++ ("USER".toList ++
      (between ++ ("FUNCTION".toList ++ (gap ++ behind))))) =
        "USER".toList ++ (between ++ ("FUNCTION".toList ++ (gap ++ behind))) :=
    dropWhile_append_of_stops leadingBlank (stops_cons.mpr (by decide))
  have user : afterLiteral "USER" ("USER".toList ++
      (between ++ ("FUNCTION".toList ++ (gap ++ behind)))) =
        some (between ++ ("FUNCTION".toList ++ (gap ++ behind))) := afterLiteral_eq_some.mpr rfl
  have keyword : afterBlanks (between ++ ("FUNCTION".toList ++ (gap ++ behind))) =
      some ("FUNCTION".toList ++ (gap ++ behind)) := by
    rw [afterBlanks_eq]
    exact afterRun_eq_some_iff.mpr
      ⟨between, rfl, betweenFilled, betweenBlank, stops_cons.mpr (by decide)⟩
  have function : firstOf [afterLiteral "FUNCTION", afterLiteral "PROCEDURE"]
      ("FUNCTION".toList ++ (gap ++ behind)) = some (gap ++ behind) :=
    functionKeyword_eq_some.mpr (Or.inl rfl)
  have name := afterBlanksAndName_eq_some gapFilled gapBlank named
  simp only [userDeclaration, skipped, user, keyword, function, name, Option.bind_eq_bind,
    Option.bind_some]

end Declaration

/-- In upper case the parts of a user function make up a customer's declaration, if their name
begins a word there. -/
theorem UserFunctionParts.userDeclaration_upperCase (parts : UserFunctionParts isBlank)
    {below : List Char}
    (named : startsWithWord (upperCaseCharacters (parts.behind ++ below)) = true) :
    userDeclaration (upperCaseCharacters (parts.line ++ below)) =
      some (upperCaseCharacters (parts.behind ++ below)) := by
  have kept {blanks : List Char} (blank : ∀ character ∈ blanks, isBlank character = true) :
      upperCaseCharacters blanks = blanks :=
    upperCaseCharacters_of_written fun character member =>
      upperCaseOf_of_isBlank (blank character member)
  have user : upperCaseCharacters parts.user = "USER".toList :=
    upperCaseCharacters_of_folds parts.isUser (by decide)
  have function : upperCaseCharacters parts.function = "FUNCTION".toList :=
    upperCaseCharacters_of_folds parts.isFunction (by decide)
  have line : upperCaseCharacters (parts.line ++ below) =
      parts.leading ++ ("USER".toList ++ (parts.between ++ ("FUNCTION".toList ++
        (parts.gap ++ upperCaseCharacters (parts.behind ++ below))))) := by
    simp only [UserFunctionParts.line, UserFunctionParts.keywords, upperCaseCharacters_append,
      kept parts.leadingBlank, kept parts.betweenBlank, kept parts.gapBlank, user, function,
      List.append_assoc]
  rw [line]
  exact userDeclaration_eq_some parts.leadingBlank parts.betweenFilled parts.betweenBlank
    parts.gapFilled parts.gapBlank named

/-- A line of a text with the parts of a user function and the name of a word makes the text speak
for a customer. -/
theorem UserFunctionParts.custom_of_line (parts : UserFunctionParts isBlank) {content : String}
    (member : parts.line ∈ textLines content.toList) {first : Char} {others : List Char}
    (begins : parts.behind = first :: others) (word : isWord first = true)
    (early : first ∉ lateCapitalLetters) : TextVerdict.of (upperCase content) = .custom := by
  obtain ⟨before, below, split, isOpen⟩ := exists_place_of_mem_textLines member
  refine TextVerdict.of_eq_custom_iff.mpr (occursAtLineStart_iff.mpr
    ⟨upperCaseCharacters before, upperCaseCharacters (parts.line ++ below), ?_,
      isOpenBehind_upperCaseCharacters isOpen, ?_⟩)
  · rw [toList_upperCase, split, upperCaseCharacters_append]
  · have named : startsWithWord (upperCaseCharacters (parts.behind ++ below)) = true := by
      rw [begins, List.cons_append]
      exact startsWithWord_upperCaseCharacters word early (others ++ below)
    exact Option.isSome_of_eq_some (parts.userDeclaration_upperCase named)

/-- An identifier begins with a word character whose capital is one as well. -/
theorem early_of_startsName {first : Char} (starts : startsName first = true) :
    isWord first = true ∧ first ∉ lateCapitalLetters := by
  refine ⟨isWord_of_continuesName (by rw [continuesName, starts, Bool.true_or]), ?_⟩
  have others : (lateCapitalLetters.all fun letter => !startsName letter) = true := by decide
  intro late
  have foreign := List.all_eq_true.mp others first late
  rw [starts] at foreign
  exact Bool.noConfusion foreign

/-- A source that declares a user function speaks for a customer in upper case. -/
theorem TextVerdict.custom_of_userFunction (content : String)
    (declares : (Outline.of content).names .userFunction ≠ [] ∨
      ∃ name ∈ (FunctionNames.of content).user,
        ∀ first ∈ name.toList.head?, first ∉ lateCapitalLetters) :
    TextVerdict.of (upperCase content) = .custom := by
  obtain outlined | ⟨name, listed, early⟩ := declares
  · obtain ⟨name, listed⟩ := List.exists_mem_of_ne_nil _ outlined
    rw [Outline.names_of] at listed
    obtain ⟨line, member, declared⟩ := List.mem_filterMap.mp listed
    obtain ⟨_, parts, rfl, _, read⟩ :=
      LineKind.of_eq_userFunction_iff.mp (LineKind.declared_eq_some_iff.mp declared)
    obtain ⟨⟨⟨first, head, starts⟩, _⟩, rest, behind, _⟩ := leadingName_eq_some_iff.mp read
    obtain ⟨others, characters⟩ := List.head?_eq_some_iff.mp head
    rw [characters, List.cons_append] at behind
    obtain ⟨word, early⟩ := early_of_startsName starts
    exact parts.custom_of_line member behind word early
  · rw [FunctionNames.user_of, List.mem_eraseDups] at listed
    obtain ⟨line, member, named⟩ := List.mem_filterMap.mp listed
    obtain ⟨narrow, rfl, read⟩ := userFunctionOf_eq_some_iff.mp named
    obtain ⟨filled, longest⟩ := leadingWord_eq_some_iff.mp read
    obtain ⟨rest, behind, _⟩ := exists_rest_of_leadingWord read
    obtain ⟨first, others, characters⟩ :=
      List.exists_cons_of_ne_nil (String.toList_eq_nil_iff.not.mpr filled)
    have word : isWord first = true :=
      List.mem_takeWhile_imp (longest ▸ characters ▸ List.mem_cons_self)
    rw [characters, List.cons_append] at behind
    let parts : UserFunctionParts isBlank :=
      narrow.widen (fun _ blank => isBlank_of_isLineBlank blank)
        (stops_isBlank_of_leadingWord read)
    exact parts.custom_of_line member behind word (early first (by rw [characters]; rfl))

/-- The search reads a user function with a foreign letter in its keyword and in its name, and the
outline one with a foreign blank. Both sources speak for a customer. -/
theorem TextVerdict.custom_of_foreign_userFunctions :
    let searched := "u\u017Fer function\t\u00DFx()"
    let outlined := "Return\n  User\u00A0Function _b"
    (FunctionNames.of searched).user = ["\u00DFx"] ∧
      (Outline.of searched).names .userFunction = [] ∧
      TextVerdict.of (upperCase searched) = .custom ∧
      (FunctionNames.of outlined).user = [] ∧
      (Outline.of outlined).names .userFunction = ["_b"] ∧
      TextVerdict.of (upperCase outlined) = .custom := by
  intro searched outlined
  have named : (FunctionNames.of searched).user = ["\u00DFx"] := by decide +kernel
  have declared : (Outline.of outlined).names .userFunction = ["_b"] := by
    rw [Outline.names_of]
    decide +kernel
  have early : ∀ first ∈ "\u00DFx".toList.head?, first ∉ lateCapitalLetters := by
    intro first begins
    obtain rfl : '\u00DF' = first := Option.some.inj begins
    decide
  refine ⟨named, ?_, ?_, by decide +kernel, declared, ?_⟩
  · rw [Outline.names_of]
    decide +kernel
  · exact TextVerdict.custom_of_userFunction searched
      (Or.inr ⟨"\u00DFx", by rw [named]; exact List.mem_singleton_self _, early⟩)
  · exact TextVerdict.custom_of_userFunction outlined (Or.inl (by rw [declared]; simp))

/-- The search reads a name with a late capital, and the verdict does not see it in upper case. -/
theorem TextVerdict.late_capital_not_custom :
    ¬ ∀ content : String,
      ((FunctionNames.of content).user ≠ [] ∨ (Outline.of content).names .userFunction ≠ []) →
        TextVerdict.of (upperCase content) = .custom := by
  intro custom
  have named : (FunctionNames.of "User Function \uA7D3()").user = ["\uA7D3"] := by decide +kernel
  have unseen : TextVerdict.of (upperCase "User Function \uA7D3()") = .inconclusive := by
    decide +kernel
  have verdict := custom "User Function \uA7D3()" (Or.inl (by rw [named]; simp))
  rw [unseen] at verdict
  exact TextVerdict.noConfusion verdict

end RoutineAtlas
