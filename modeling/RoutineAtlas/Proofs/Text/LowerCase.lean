import RoutineAtlas.Proofs.Text.UpperCase
import RoutineAtlas.Text.LowerCase

/-
This file settles how lower-casing and the case of ASCII letters go together. Lower-casing does not
see the case of ASCII letters, and what it writes agrees with a text exactly when the text has no
capital beyond ASCII.
-/

namespace RoutineAtlas

/-- A capital beyond ASCII is a character there that has another lower case. -/
def IsCapitalBeyondAscii (character : Char) : Prop :=
  0x80 ≤ character.toNat ∧ lowerCaseOf character ≠ [character]

instance (character : Char) : Decidable (IsCapitalBeyondAscii character) :=
  inferInstanceAs (Decidable (_ ∧ _))

/-- A capital beyond ASCII stands in the text. -/
def HasCapitalBeyondAscii (text : String) : Prop :=
  ∃ character ∈ text.toList, IsCapitalBeyondAscii character

instance (text : String) : Decidable (HasCapitalBeyondAscii text) :=
  List.decidableBEx IsCapitalBeyondAscii text.toList

theorem not_isCapitalBeyondAscii_of_ascii {character : Char} (ascii : character.toNat < 0x80) :
    ¬ IsCapitalBeyondAscii character := by
  rintro ⟨foreign, _⟩
  omega

theorem not_isCapitalBeyondAscii_of_own {character : Char}
    (own : lowerCaseOf character = [character]) : ¬ IsCapitalBeyondAscii character := by
  rintro ⟨_, changed⟩
  exact changed own

/-- Lower-casing changes these codes outside ASCII. -/
def lowerCaseSources : List Nat :=
  0x130 :: lowerCaseRuns.places.map Prod.fst

/-- Lower-casing writes these codes in the place of others, the two small sigmas among them. -/
def lowerCaseTargets : List Nat :=
  [0x69, 0x307, 0x3C2, 0x3C3] ++ lowerCaseRuns.places.map Prod.snd

/-- No code that is written is changed by a second lower-casing. -/
theorem lowerCaseTargets_apart :
    codeBits lowerCaseTargets &&& codeBits lowerCaseSources = 0 := by
  set_option maxRecDepth 100000 in decide +kernel

/-- Every code that is written is a character. -/
theorem lowerCaseTargets_settled :
    ∀ code ∈ lowerCaseTargets, (Char.ofNat code).toNat = code := by
  set_option maxRecDepth 100000 in decide +kernel

theorem lowerCaseOf_ascii {character : Char} (ascii : character.toNat < 0x80) :
    lowerCaseOf character = [character.toLower] := by
  simp only [lowerCaseOf, if_pos ascii]

/-- Outside ASCII a character stays as it is or becomes what the tables say. -/
theorem lowerCaseOf_foreign {character : Char} (foreign : 0x80 ≤ character.toNat) :
    lowerCaseOf character = [character] ∨
      character.toNat ∈ lowerCaseSources ∧ ∀ written ∈ lowerCaseOf character,
        ∃ code ∈ lowerCaseTargets, written = Char.ofNat code := by
  have outside : ¬ character.toNat < 0x80 := Nat.not_lt.mpr foreign
  simp only [lowerCaseOf, if_neg outside]
  split
  · rename_i dotted
    right
    refine ⟨dotted ▸ List.mem_cons_self, ?_⟩
    intro written member
    obtain rfl | rfl : written = 'i' ∨ written = Char.ofNat 0x307 := by simpa using member
    · exact ⟨0x69, by simp [lowerCaseTargets], rfl⟩
    · exact ⟨0x307, by simp [lowerCaseTargets], rfl⟩
  · split
    · rename_i partner found
      have place := CaseRuns.mem_places found
      right
      refine ⟨List.mem_cons_of_mem _ (List.mem_map.mpr ⟨_, place, rfl⟩), ?_⟩
      intro written member
      exact ⟨partner, List.mem_append_right _ (List.mem_map.mpr ⟨_, place, rfl⟩),
        List.mem_singleton.mp member⟩
    · exact Or.inl rfl

/-- A code that lower-casing writes is no capital beyond ASCII. -/
theorem not_isCapitalBeyondAscii_of_target {code : Nat} (target : code ∈ lowerCaseTargets) :
    ¬ IsCapitalBeyondAscii (Char.ofNat code) := by
  have number := lowerCaseTargets_settled code target
  rintro ⟨foreign, changed⟩
  obtain own | ⟨source, _⟩ := lowerCaseOf_foreign foreign
  · exact changed own
  · rw [number] at source
    exact notMem_of_codeBits lowerCaseTargets_apart target source

/-- An ASCII letter in lower case stays an ASCII character and has the same upper case. -/
theorem toLower_ascii {character : Char} (ascii : character.toNat < 0x80) :
    character.toLower.toNat < 0x80 ∧ character.toLower.toUpper = character.toUpper :=
  of_ascii (fun letter => letter.toLower.toNat < 0x80 ∧
    letter.toLower.toUpper = letter.toUpper) (by decide) ascii

/-- The lower case of a character has no capital beyond ASCII. -/
theorem not_isCapitalBeyondAscii_of_mem_lowerCaseOf {character written : Char}
    (member : written ∈ lowerCaseOf character) : ¬ IsCapitalBeyondAscii written := by
  by_cases ascii : character.toNat < 0x80
  · rw [lowerCaseOf_ascii ascii, List.mem_singleton] at member
    exact not_isCapitalBeyondAscii_of_ascii (member ▸ (toLower_ascii ascii).1)
  · obtain own | ⟨_, listed⟩ := lowerCaseOf_foreign (Nat.not_lt.mp ascii)
    · rw [own, List.mem_singleton] at member
      exact member ▸ not_isCapitalBeyondAscii_of_own own
    · obtain ⟨code, target, rfl⟩ := listed written member
      exact not_isCapitalBeyondAscii_of_target target

/-- Lower-casing writes no capital beyond ASCII. -/
theorem not_isCapitalBeyondAscii_of_mem_lowerCaseAfter {before text : List Char} {written : Char}
    (member : written ∈ lowerCaseAfter before text) : ¬ IsCapitalBeyondAscii written := by
  induction text generalizing before with
  | nil => exact absurd member List.not_mem_nil
  | cons character rest inductionHypothesis =>
      rw [lowerCaseAfter, List.mem_append] at member
      obtain here | later := member
      · split at here
        · -- A small sigma is written, of either form.
          rw [List.mem_singleton] at here
          rw [here]
          refine not_isCapitalBeyondAscii_of_target ?_
          split
          · simp [lowerCaseTargets]
          · simp [lowerCaseTargets]
        · exact not_isCapitalBeyondAscii_of_mem_lowerCaseOf here
      · exact inductionHypothesis later

/-- Of a character that is no capital beyond ASCII at most the case of an ASCII letter changes. -/
theorem asciiUpper_lowerCaseOf {character : Char} (small : ¬ IsCapitalBeyondAscii character) :
    asciiUpper (lowerCaseOf character) = [character.toUpper] := by
  by_cases ascii : character.toNat < 0x80
  · rw [lowerCaseOf_ascii ascii, asciiUpper, List.map_singleton, (toLower_ascii ascii).2]
  · have foreign := Nat.not_lt.mp ascii
    by_cases own : lowerCaseOf character = [character]
    · rw [own]
      rfl
    · exact absurd ⟨foreign, own⟩ small

/-- Of a text without capitals beyond ASCII at most the case of ASCII letters changes. -/
theorem asciiUpper_lowerCaseAfter (before : List Char) {text : List Char}
    (small : ∀ character ∈ text, ¬ IsCapitalBeyondAscii character) :
    asciiUpper (lowerCaseAfter before text) = asciiUpper text := by
  induction text generalizing before with
  | nil => rfl
  | cons character rest inductionHypothesis =>
      have here := small character (by simp)
      have noSigma : ¬ character.toNat = 0x3A3 := by
        intro sigma
        have same : character = Char.ofNat 0x3A3 := by rw [← sigma, Char.ofNat_toNat]
        exact here (same ▸ by decide)
      have tail := inductionHypothesis (character :: before)
        fun other member => small other (List.mem_cons_of_mem _ member)
      have first := asciiUpper_lowerCaseOf here
      rw [lowerCaseAfter, if_neg noSigma, asciiUpper, List.map_append, ← asciiUpper, ← asciiUpper,
        first, tail]
      rfl

/-- A text that agrees with a lower case has no capital beyond ASCII. -/
theorem not_hasCapitalBeyondAscii_of_agrees {typed text : String}
    (agree : agreesIgnoringCase (lowerCase typed) text = true) : ¬ HasCapitalBeyondAscii text := by
  rintro ⟨character, member, capital⟩
  rw [agreesIgnoringCase_iff, lowerCase, String.toList_ofList] at agree
  have shown : character.toUpper ∈ asciiUpper text.toList := List.mem_map_of_mem member
  rw [← agree, toUpper_foreign capital.1] at shown
  obtain ⟨written, inside, same⟩ := List.mem_map.mp shown
  have small := not_isCapitalBeyondAscii_of_mem_lowerCaseAfter inside
  by_cases ascii : written.toNat < 0x80
  · have stays := (toUpper_ascii ascii).1
    rw [same] at stays
    exact absurd capital.1 (Nat.not_le.mpr stays)
  · rw [toUpper_foreign (Nat.not_lt.mp ascii)] at same
    exact small (same ▸ capital)

/-- A text agrees with its lower case exactly when it has no capital beyond ASCII. -/
theorem agreesIgnoringCase_lowerCase_iff {text : String} :
    agreesIgnoringCase (lowerCase text) text = true ↔ ¬ HasCapitalBeyondAscii text := by
  constructor
  · exact not_hasCapitalBeyondAscii_of_agrees
  · intro small
    rw [agreesIgnoringCase_iff, lowerCase, String.toList_ofList]
    apply asciiUpper_lowerCaseAfter
    intro character member capital
    exact small ⟨character, member, capital⟩

theorem lowerCaseOf_toUpper (character : Char) :
    lowerCaseOf character.toUpper = lowerCaseOf character :=
  eq_of_toUpper lowerCaseOf (by decide +kernel) character

theorem isSigma_toUpper (character : Char) :
    character.toUpper.toNat = 0x3A3 ↔ character.toNat = 0x3A3 := by
  by_cases ascii : character.toNat < 0x80
  · have stays := (toUpper_ascii ascii).1
    omega
  · rw [toUpper_foreign (Nat.not_lt.mp ascii)]

theorem caseIgnorable_toUpper (character : Char) :
    caseIgnorableRanges.holds character.toUpper.toNat =
      caseIgnorableRanges.holds character.toNat :=
  eq_of_toUpper (fun letter => caseIgnorableRanges.holds letter.toNat) (by decide +kernel) character

theorem cased_toUpper (character : Char) :
    casedRanges.holds character.toUpper.toNat = casedRanges.holds character.toNat :=
  eq_of_toUpper (fun letter => casedRanges.holds letter.toNat) (by decide +kernel) character

/-- Whether a cased character is met does not depend on the case of ASCII letters. -/
@[simp] theorem meetsCased_asciiUpper (text : List Char) :
    meetsCased (asciiUpper text) = meetsCased text := by
  induction text with
  | nil => rfl
  | cons character rest inductionHypothesis =>
      simp only [meetsCased] at inductionHypothesis ⊢
      rw [asciiUpper_cons, List.dropWhile_cons, List.dropWhile_cons, caseIgnorable_toUpper]
      by_cases passed : caseIgnorableRanges.holds character.toNat = true
      · rw [if_pos passed, if_pos passed]
        exact inductionHypothesis
      · rw [if_neg passed, if_neg passed]
        exact cased_toUpper character

/-- Lower-casing does not see the case of ASCII letters, neither in the text nor before it. -/
theorem lowerCaseAfter_asciiUpper (before text : List Char) :
    lowerCaseAfter (asciiUpper before) (asciiUpper text) = lowerCaseAfter before text := by
  induction text generalizing before with
  | nil => rfl
  | cons character rest inductionHypothesis =>
      have tail := inductionHypothesis (character :: before)
      rw [asciiUpper_cons] at tail
      rw [asciiUpper_cons, lowerCaseAfter, lowerCaseAfter, tail, lowerCaseOf_toUpper,
        meetsCased_asciiUpper, meetsCased_asciiUpper]
      simp only [isSigma_toUpper]

/-- Texts that agree have the same lower case. -/
theorem lowerCase_congr {first second : String}
    (agree : agreesIgnoringCase first second = true) : lowerCase first = lowerCase second := by
  rw [agreesIgnoringCase_iff] at agree
  rw [lowerCase, lowerCase, ← lowerCaseAfter_asciiUpper, agree, lowerCaseAfter_asciiUpper]

end RoutineAtlas
