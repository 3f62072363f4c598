import RoutineAtlas.Proofs.Text.Lines
import RoutineAtlas.Proofs.Text.Occurrence

/-
This file settles what upper-casing leaves of the blanks, the keywords and the words of a text. The
blanks stay as they are, a keyword in any case becomes the keyword, and a word still begins where it
began, but for two letters.
-/

namespace RoutineAtlas

/-- A blank is its own upper case. -/
theorem upperCaseOf_of_isBlank {character : Char} (blank : isBlank character = true) :
    upperCaseOf character = [character] := by
  have own : ∀ range ∈ blankRanges, ∀ more < range.2 - range.1 + 1,
      upperCaseOf (Char.ofNat (range.1 + more)) = [Char.ofNat (range.1 + more)] := by
    decide +kernel
  obtain ⟨range, member, lower, upper⟩ := CodeRanges.exists_of_holds blank
  have kept := own range member (character.toNat - range.1) (by omega)
  rwa [Nat.add_sub_cancel' lower, Char.ofNat_toNat] at kept

/-- The upper case of a letter is what it folds to. Only one letter that folds to K is a capital
itself. -/
theorem upperCaseOf_of_isUpper_foldLetter {character : Char}
    (capital : (foldLetter character).isUpper = true) (noKelvin : foldLetter character ≠ 'K') :
    upperCaseOf character = [foldLetter character] := by
  obtain ⟨rfl, _⟩ | ⟨_, kelvin⟩ | plain := foldLetter_cases character
  · decide
  · exact absurd kelvin noKelvin
  · rw [plain] at capital ⊢
    exact upperCaseOf_ascii (ascii_of_isUpper_toUpper capital)

/-- A text that folds to a keyword without K becomes the keyword. -/
theorem upperCaseCharacters_of_folds {front : List Char} {keyword : List Char}
    (folds : front.map foldLetter = keyword)
    (capitals : (keyword.all fun letter => letter.isUpper && letter != 'K') = true) :
    upperCaseCharacters front = keyword := by
  induction front generalizing keyword with
  | nil => exact folds
  | cons first others inductionHypothesis =>
      obtain rfl := folds
      simp only [List.map_cons, List.all_cons, Bool.and_eq_true, bne_iff_ne] at capitals
      obtain ⟨⟨capital, noKelvin⟩, further⟩ := capitals
      rw [upperCaseCharacters_cons, upperCaseOf_of_isUpper_foldLetter capital noKelvin,
        inductionHypothesis rfl further]
      rfl

/-- The capitals of these two letters came to the script later than the word class, which holds the
letters and not their capitals. -/
def lateCapitalLetters : List Char :=
  [Char.ofNat 0xA7D3, Char.ofNat 0xA7D5]

/-- One range holds all codes from the lower to the upper one. -/
def CodeRanges.holdsInterval : CodeRanges → Nat → Nat → Bool
  | [], _, _ => false
  | (first, last) :: rest, lower, upper =>
      if lower ≤ last then decide (first ≤ lower ∧ upper ≤ last)
      else CodeRanges.holdsInterval rest lower upper

/-- The search for a code of the interval ends at the same range. -/
theorem CodeRanges.holds_of_holdsInterval {ranges : CodeRanges} {lower upper code : Nat}
    (interval : ranges.holdsInterval lower upper = true) (above : lower ≤ code)
    (below : code ≤ upper) : ranges.holds code = true := by
  induction ranges with
  | nil => exact absurd interval (by simp [CodeRanges.holdsInterval])
  | cons range rest inductionHypothesis =>
      obtain ⟨first, last⟩ := range
      rw [CodeRanges.holdsInterval] at interval
      split at interval
      · obtain ⟨begins, ends⟩ := of_decide_eq_true interval
        rw [CodeRanges.holds, if_pos (below.trans ends), decide_eq_true_eq]
        exact begins.trans above
      · rename_i behind
        rw [CodeRanges.holds, if_neg (by omega)]
        exact inductionHypothesis interval

/-- All codes of the interval lie outside ASCII, in one plane, and belong to words. -/
def isWordInterval (lower upper : Nat) : Bool :=
  if lower < 0x80 then false
  else if upper < 0x1000 then wordRangesBelow1000.holdsInterval lower upper
  else if lower < 0x1000 then false
  else if upper < 0x10000 then wordRangesBelow10000.holdsInterval lower upper
  else if lower < 0x10000 then false
  else wordRangesAbove.holdsInterval lower upper

theorem isWord_of_isWordInterval {lower upper : Nat} (interval : isWordInterval lower upper = true)
    {character : Char} (above : lower ≤ character.toNat) (below : character.toNat ≤ upper) :
    isWord character = true := by
  rw [isWordInterval] at interval
  split at interval
  · exact Bool.noConfusion interval
  · rw [isWord, if_neg (by omega)]
    split at interval
    · rw [if_pos (by omega)]
      exact CodeRanges.holds_of_holdsInterval interval above below
    · split at interval
      · exact Bool.noConfusion interval
      · rw [if_neg (by omega)]
        split at interval
        · rw [if_pos (by omega)]
          exact CodeRanges.holds_of_holdsInterval interval above below
        · split at interval
          · exact Bool.noConfusion interval
          · rw [if_neg (by omega)]
            exact CodeRanges.holds_of_holdsInterval interval above below

/-- The partners of a run are words all together, or its places are looked at one by one. -/
theorem isWord_of_run :
    ∀ run ∈ upperCaseRuns,
      isWordInterval run.2.2.2 (run.2.2.2 + (run.2.1 - run.1)) = true ∨
        ∀ place ∈ CaseRuns.places [run],
          isWord (Char.ofNat place.2) = true ∨ Char.ofNat place.1 ∈ lateCapitalLetters ∨
            isWord (Char.ofNat place.1) = false := by
  set_option maxRecDepth 100000 in decide +kernel

/-- The partner of any other word character is a word character. -/
theorem isWord_of_place {place : Nat × Nat} (member : place ∈ upperCaseRuns.places)
    (word : isWord (Char.ofNat place.1) = true)
    (early : Char.ofNat place.1 ∉ lateCapitalLetters) : isWord (Char.ofNat place.2) = true := by
  obtain ⟨run, isRun, inside⟩ := List.mem_flatMap.mp member
  obtain together | single := isWord_of_run run isRun
  · have written : place.2 ∈ upperCaseTargets :=
      List.mem_append_right _ (List.mem_map.mpr ⟨place, member, rfl⟩)
    have number := (upperCaseTargets_settled place.2 written).1
    obtain ⟨first, last, distance, target⟩ := run
    obtain ⟨index, inRun, rfl⟩ := List.mem_map.mp inside
    have reach : distance * index ≤ last - first :=
      (Nat.mul_le_mul_left distance (Nat.lt_succ_iff.mp (List.mem_range.mp inRun))).trans
        (Nat.mul_div_le _ _)
    exact isWord_of_isWordInterval together (by rw [number]; exact Nat.le_add_right _ _)
      (by rw [number]; exact Nat.add_le_add_left reach _)
  · have alone : place ∈ CaseRuns.places [run] :=
      List.mem_flatMap.mpr ⟨run, List.mem_singleton_self run, inside⟩
    obtain known | late | noWord := single place alone
    · exact known
    · exact absurd late early
    · exact absurd noWord (by simp [word])

/-- An expansion begins with a word character. -/
theorem startsWithWord_of_expansion :
    ∀ entry ∈ upperCaseExpansions, startsWithWord (entry.2.map Char.ofNat) = true := by
  decide +kernel

/-- The upper case of any other word character begins a word. -/
theorem startsWithWord_upperCaseOf {character : Char} (word : isWord character = true)
    (early : character ∉ lateCapitalLetters) : startsWithWord (upperCaseOf character) = true := by
  by_cases ascii : character.toNat < 0x80
  · rw [upperCaseOf_ascii ascii]
    exact of_ascii (fun letter => isWord letter = true → isWord letter.toUpper = true)
      (by decide +kernel) ascii word
  · obtain own | ⟨expansion, entry, expanded⟩ | ⟨partner, place, paired⟩ :=
      upperCaseOf_cases (Nat.not_lt.mp ascii)
    · rw [own]
      exact word
    · rw [expanded]
      exact startsWithWord_of_expansion _ entry
    · rw [paired]
      have own : Char.ofNat character.toNat = character := Char.ofNat_toNat character
      exact isWord_of_place place (own.symm ▸ word) (own.symm ▸ early)

/-- A text that begins a word begins one in upper case too. -/
theorem startsWithWord_upperCaseCharacters {first : Char} (word : isWord first = true)
    (early : first ∉ lateCapitalLetters) (rest : List Char) :
    startsWithWord (upperCaseCharacters (first :: rest)) = true := by
  have begins := startsWithWord_upperCaseOf word early
  rw [upperCaseCharacters_cons]
  cases written : upperCaseOf first with
  | nil => exact absurd written (upperCaseOf_ne_nil first)
  | cons letter others =>
      rw [written] at begins
      exact begins

/-- A search at the starts of lines is open behind the same characters in upper case. -/
theorem isOpenBehind_upperCaseCharacters {before : List Char}
    (isOpen : isOpenBehind (· == '\n') true before = true) :
    isOpenBehind (· == '\n') true (upperCaseCharacters before) = true := by
  obtain rfl | ⟨front, last, rfl⟩ := List.eq_nil_or_concat before
  · rfl
  · rw [List.concat_eq_append] at isOpen ⊢
    rw [isOpenBehind_append_cons] at isOpen
    obtain rfl : last = '\n' := beq_iff_eq.mp isOpen
    rw [upperCaseCharacters_append]
    exact isOpenBehind_append_cons _ _ _ '\n' []

/-- A line of a text stands where a search at the starts of lines is open. -/
theorem exists_place_of_mem_textLines {text line : List Char} (member : line ∈ textLines text) :
    ∃ before behind, text = before ++ (line ++ behind) ∧
      isOpenBehind (· == '\n') true before = true := by
  obtain ⟨whole, cut, dropped⟩ := List.mem_map.mp member
  obtain ⟨mark, rfl⟩ : line <+: whole := dropped ▸ dropReturn_isPrefix '\r' whole
  cases lines : cutLines '\n' text with
  | nil => simp [lines] at cut
  | cons first others =>
      rw [lines, List.mem_cons] at cut
      obtain rfl | further := cut
      · obtain ⟨behind, rfl⟩ := isPrefix_of_cutLines lines
        exact ⟨[], mark ++ behind, List.append_assoc _ _ _, rfl⟩
      · obtain ⟨before, behind, rfl⟩ :=
          exists_mark_of_mem_tail_cutLines (by rw [lines]; exact further)
        exact ⟨before ++ ['\n'], mark ++ behind, by simp,
          isOpenBehind_append_cons _ _ _ '\n' []⟩

end RoutineAtlas
