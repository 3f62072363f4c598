import RoutineAtlas.Text.AsciiCase
import RoutineAtlas.Text.UpperCase

/-
This file settles what upper-casing can write. The tables are finite, so their properties are
checked on the codes that they hold and carried to all texts from there.
-/

namespace RoutineAtlas

/-- A list of codes is kept as the bits of one number, so that two lists are compared at once. -/
def codeBits (codes : List Nat) : Nat :=
  codes.foldr (fun code bits => 1 <<< code ||| bits) 0

theorem testBit_codeBits (codes : List Nat) (code : Nat) :
    (codeBits codes).testBit code = true ↔ code ∈ codes := by
  induction codes with
  | nil => simp [codeBits]
  | cons first rest inductionHypothesis =>
      have step : codeBits (first :: rest) = 1 <<< first ||| codeBits rest := rfl
      rw [step, Nat.testBit_or, Bool.or_eq_true, inductionHypothesis, Nat.one_shiftLeft,
        Nat.testBit_two_pow, List.mem_cons, decide_eq_true_eq, eq_comm]

/-- Lists without a common bit have no common code. -/
theorem notMem_of_codeBits {first second : List Nat}
    (apart : codeBits first &&& codeBits second = 0) {code : Nat} (member : code ∈ first) :
    code ∉ second := by
  intro other
  have both : (codeBits first &&& codeBits second).testBit code = true := by
    rw [Nat.testBit_and, (testBit_codeBits first code).mpr member,
      (testBit_codeBits second code).mpr other]
    rfl
  rw [apart, Nat.zero_testBit] at both
  exact absurd both (by decide)

/-- These are all codes of the runs with their partners. -/
def CaseRuns.places (runs : CaseRuns) : List (Nat × Nat) :=
  runs.flatMap fun (first, last, distance, target) =>
    (List.range ((last - first) / distance + 1)).map fun index =>
      (first + distance * index, target + distance * index)

/-- A partner is found at one of the places. -/
theorem CaseRuns.mem_places {runs : CaseRuns} {code partner : Nat}
    (found : runs.partner code = some partner) : (code, partner) ∈ runs.places := by
  induction runs with
  | nil => simp [CaseRuns.partner] at found
  | cons run rest inductionHypothesis =>
      obtain ⟨first, last, distance, target⟩ := run
      rw [CaseRuns.places, List.flatMap_cons, List.mem_append]
      by_cases below : code ≤ last
      · left
        rw [CaseRuns.partner, if_pos below] at found
        split at found
        · rename_i inside
          obtain ⟨lower, divides⟩ := inside
          rw [Option.some.injEq] at found
          have whole : distance * ((code - first) / distance) = code - first :=
            Nat.mul_div_cancel' (Nat.dvd_of_mod_eq_zero divides)
          have reach : (code - first) / distance < (last - first) / distance + 1 :=
            Nat.lt_succ_of_le (Nat.div_le_div_right (by omega))
          rw [List.mem_map]
          refine ⟨(code - first) / distance, List.mem_range.mpr reach, ?_⟩
          rw [whole, Prod.mk.injEq]
          omega
        · exact absurd found (by simp)
      · right
        rw [CaseRuns.partner, if_neg below] at found
        exact inductionHypothesis found

/-- Upper-casing changes these codes outside ASCII. -/
def upperCaseSources : List Nat :=
  upperCaseExpansions.map Prod.fst ++ upperCaseRuns.places.map Prod.fst

/-- Upper-casing writes these codes in the place of others. -/
def upperCaseTargets : List Nat :=
  upperCaseExpansions.flatMap Prod.snd ++ upperCaseRuns.places.map Prod.snd

/-- These ASCII letters stand in the upper case of characters outside ASCII. -/
def foreignCapitals : List Char :=
  ['A', 'F', 'H', 'I', 'J', 'L', 'N', 'S', 'T', 'W', 'Y']

/-- No code that is written is changed by a second upper-casing. -/
theorem upperCaseTargets_apart :
    codeBits upperCaseTargets &&& codeBits upperCaseSources = 0 := by
  set_option maxRecDepth 100000 in decide +kernel

/-- Every code that is written is a character, and within ASCII only some letters are written. -/
theorem upperCaseTargets_settled :
    ∀ code ∈ upperCaseTargets,
      (Char.ofNat code).toNat = code ∧ (code < 0x80 → Char.ofNat code ∈ foreignCapitals) := by
  set_option maxRecDepth 100000 in decide +kernel

/-- Outside ASCII a character stays as it is, or it has an expansion, or it has a partner. -/
theorem upperCaseOf_cases {character : Char} (foreign : 0x80 ≤ character.toNat) :
    upperCaseOf character = [character] ∨
      (∃ expansion, (character.toNat, expansion) ∈ upperCaseExpansions ∧
        upperCaseOf character = expansion.map Char.ofNat) ∨
      ∃ partner, (character.toNat, partner) ∈ upperCaseRuns.places ∧
        upperCaseOf character = [Char.ofNat partner] := by
  have outside : ¬ character.toNat < 0x80 := Nat.not_lt.mpr foreign
  simp only [upperCaseOf, if_neg outside]
  split
  · rename_i expansion found
    obtain ⟨before, after, entries, _⟩ := List.lookup_eq_some_iff.mp found
    refine Or.inr (Or.inl ⟨expansion, ?_, rfl⟩)
    rw [entries]
    simp
  · split
    · rename_i partner found
      exact Or.inr (Or.inr ⟨partner, CaseRuns.mem_places found, rfl⟩)
    · exact Or.inl rfl

/-- Outside ASCII a character stays as it is or becomes what the tables say. -/
theorem upperCaseOf_foreign {character : Char} (foreign : 0x80 ≤ character.toNat) :
    upperCaseOf character = [character] ∨
      upperCaseOf character ≠ [] ∧ ∀ written ∈ upperCaseOf character,
        ∃ code ∈ upperCaseTargets, written = Char.ofNat code := by
  obtain own | ⟨expansion, entry, expanded⟩ | ⟨partner, place, paired⟩ := upperCaseOf_cases foreign
  · exact Or.inl own
  · right
    rw [expanded]
    have filled : ∀ expanded ∈ upperCaseExpansions, expanded.2 ≠ [] := by decide
    refine ⟨by simpa using filled _ entry, ?_⟩
    intro written member
    obtain ⟨code, inside, same⟩ := List.mem_map.mp member
    exact ⟨code, List.mem_append_left _ (List.mem_flatMap.mpr ⟨_, entry, inside⟩), same.symm⟩
  · right
    rw [paired]
    refine ⟨by simp, ?_⟩
    intro written member
    exact ⟨partner, List.mem_append_right _ (List.mem_map.mpr ⟨_, place, rfl⟩),
      List.mem_singleton.mp member⟩

/-- A character outside ASCII that the tables do not change is its own upper case. -/
theorem upperCaseOf_of_notMem {character : Char} (foreign : 0x80 ≤ character.toNat)
    (kept : character.toNat ∉ upperCaseSources) : upperCaseOf character = [character] := by
  obtain own | ⟨_, entry, _⟩ | ⟨_, place, _⟩ := upperCaseOf_cases foreign
  · exact own
  · exact absurd (List.mem_append_left _ (List.mem_map.mpr ⟨_, entry, rfl⟩)) kept
  · exact absurd (List.mem_append_right _ (List.mem_map.mpr ⟨_, place, rfl⟩)) kept

/-- The upper case of a character is never empty. -/
theorem upperCaseOf_ne_nil (character : Char) : upperCaseOf character ≠ [] := by
  by_cases ascii : character.toNat < 0x80
  · rw [upperCaseOf_ascii ascii]
    simp
  · obtain own | ⟨filled, _⟩ := upperCaseOf_foreign (Nat.not_lt.mp ascii)
    · rw [own]
      simp
    · exact filled

/-- An ASCII letter in upper case stays an ASCII character and has no other upper case. -/
theorem toUpper_ascii {character : Char} (ascii : character.toNat < 0x80) :
    character.toUpper.toNat < 0x80 ∧ character.toUpper.toUpper = character.toUpper :=
  of_ascii (fun letter => letter.toUpper.toNat < 0x80 ∧
    letter.toUpper.toUpper = letter.toUpper) (by decide) ascii

/-- ASCII upper-casing leaves all other characters alone. -/
theorem toUpper_foreign {character : Char} (foreign : 0x80 ≤ character.toNat) :
    character.toUpper = character := by
  refine dif_neg ?_
  rintro ⟨_, upper⟩
  have bound := UInt32.le_iff_toNat_le.mp upper
  have last : 'z'.val.toNat = 122 := rfl
  change character.val.toNat ≤ _ at bound
  change 0x80 ≤ character.val.toNat at foreign
  omega

/-- What is asked of a character without regard to the case of ASCII letters is settled by asking
the ASCII characters. -/
theorem eq_of_toUpper {α : Type} (ask : Char → α)
    (all : ∀ code < 0x80, ask (Char.ofNat code).toUpper = ask (Char.ofNat code))
    (character : Char) : ask character.toUpper = ask character := by
  by_cases ascii : character.toNat < 0x80
  · exact of_ascii (fun letter => ask letter.toUpper = ask letter) all ascii
  · rw [toUpper_foreign (Nat.not_lt.mp ascii)]

/-- What upper-casing writes is its own upper case. -/
theorem upperCaseOf_written {character written : Char} (member : written ∈ upperCaseOf character) :
    upperCaseOf written = [written] := by
  by_cases ascii : character.toNat < 0x80
  · rw [upperCaseOf_ascii ascii, List.mem_singleton] at member
    obtain ⟨small, same⟩ := toUpper_ascii ascii
    rw [member, upperCaseOf_ascii small, same]
  · obtain own | ⟨_, listed⟩ := upperCaseOf_foreign (Nat.not_lt.mp ascii)
    · rw [own, List.mem_singleton] at member
      rw [member, own]
    · obtain ⟨code, target, rfl⟩ := listed written member
      obtain ⟨number, capital⟩ := upperCaseTargets_settled code target
      by_cases small : code < 0x80
      · have capitals : (foreignCapitals.all fun letter => upperCaseOf letter == [letter]) = true :=
          by decide
        exact beq_iff_eq.mp (List.all_eq_true.mp capitals _ (capital small))
      · have kept : code ∉ upperCaseSources := notMem_of_codeBits upperCaseTargets_apart target
        exact upperCaseOf_of_notMem (by omega) (number.symm ▸ kept)

theorem upperCaseCharacters_cons (character : Char) (rest : List Char) :
    upperCaseCharacters (character :: rest) =
      upperCaseOf character ++ upperCaseCharacters rest := rfl

/-- A text that upper-casing wrote is its own upper case. -/
theorem upperCaseCharacters_of_written {text : List Char}
    (written : ∀ character ∈ text, upperCaseOf character = [character]) :
    upperCaseCharacters text = text := by
  induction text with
  | nil => rfl
  | cons character rest inductionHypothesis =>
      have tail := inductionHypothesis fun other member => written other (by simp [member])
      rw [upperCaseCharacters_cons, tail, written character (by simp)]
      rfl

/-- Upper-casing a second time changes nothing. -/
@[simp] theorem upperCaseCharacters_upperCaseCharacters (text : List Char) :
    upperCaseCharacters (upperCaseCharacters text) = upperCaseCharacters text := by
  apply upperCaseCharacters_of_written
  intro written member
  obtain ⟨character, _, inside⟩ := List.mem_flatMap.mp member
  exact upperCaseOf_written inside

@[simp] theorem upperCase_upperCase (text : String) :
    upperCase (upperCase text) = upperCase text := by
  simp [upperCase]

@[simp] theorem upperCase_append (first second : String) :
    upperCase (first ++ second) = upperCase first ++ upperCase second := by
  simp [upperCase]

/-- An ASCII character in an upper case comes from an ASCII character or is one of some letters. -/
theorem ascii_of_mem_upperCaseOf {character written : Char}
    (member : written ∈ upperCaseOf character) (ascii : written.toNat < 0x80) :
    upperCaseOf character = [written] ∧ written = character.toUpper ∨
      written ∈ foreignCapitals := by
  by_cases small : character.toNat < 0x80
  · left
    rw [upperCaseOf_ascii small, List.mem_singleton] at member
    exact ⟨by rw [upperCaseOf_ascii small, member], member⟩
  · obtain own | ⟨_, listed⟩ := upperCaseOf_foreign (Nat.not_lt.mp small)
    · rw [own, List.mem_singleton] at member
      exact absurd (member ▸ ascii) small
    · obtain ⟨code, target, rfl⟩ := listed written member
      obtain ⟨number, capital⟩ := upperCaseTargets_settled code target
      right
      exact capital (number ▸ ascii)

/-- Only a capital is the ASCII upper case of another character. -/
theorem eq_toUpper_of_noCapital {character : Char}
    (noCapital : character.toUpper.isUpper = false) : character = character.toUpper := by
  by_cases ascii : character.toNat < 0x80
  · exact of_ascii (fun letter => letter.toUpper.isUpper = false → letter = letter.toUpper)
      (by decide) ascii noCapital
  · exact (toUpper_foreign (Nat.not_lt.mp ascii)).symm

/-- Upper-casing writes an ASCII character that is no capital only where it stood before. -/
theorem mem_of_mem_upperCaseCharacters {character : Char} (ascii : character.toNat < 0x80)
    (noCapital : character.isUpper = false) {text : List Char}
    (member : character ∈ upperCaseCharacters text) : character ∈ text := by
  obtain ⟨original, inside, written⟩ := List.mem_flatMap.mp member
  obtain ⟨_, same⟩ | foreign := ascii_of_mem_upperCaseOf written ascii
  · have own : original = original.toUpper := eq_toUpper_of_noCapital (same ▸ noCapital)
    rw [same, ← own]
    exact inside
  · have capitals : ∀ letter ∈ foreignCapitals, letter.isUpper = true := by simp [foreignCapitals]
    rw [capitals character foreign] at noCapital
    exact Bool.noConfusion noCapital

end RoutineAtlas
