import RoutineAtlas.Proofs.Lookup.SourceFile
import Mathlib.Data.Finset.Prod
import Mathlib.Data.List.Nodup

/-
This file counts the spellings of a name. No form with an ending is another form with another
ending, and so every form that differs from the others adds seven spellings.
-/

namespace RoutineAtlas

/-- A list tells the elements of another one in the order in which they occur first. -/
structure ListsFirstOccurrences {A : Type} [BEq A] (source listed : List A) : Prop where
  once : listed.Nodup
  same : ∀ element, element ∈ listed ↔ element ∈ source
  ordered : listed.Pairwise fun earlier later => source.idxOf earlier < source.idxOf later

/-- A further element is kept when it has not been there. -/
theorem eraseDups_concat {A : Type} [BEq A] [LawfulBEq A] (source : List A) (element : A) :
    (source ++ [element]).eraseDups =
      source.eraseDups ++ if element ∈ source then [] else [element] := by
  rw [List.eraseDups_append, List.removeAll]
  by_cases known : element ∈ source
  · simp [known]
  · simp [known, List.eraseDups_cons]

/-- What is left without the duplicates is in the order of the source. -/
theorem pairwise_idxOf_eraseDups {A : Type} [BEq A] [LawfulBEq A] (source : List A) :
    source.eraseDups.Pairwise fun earlier later => source.idxOf earlier < source.idxOf later := by
  -- The source grows at its end, where a new element is behind all that have been kept.
  induction source using List.reverseRecOn with
  | nil => exact List.Pairwise.nil
  | append_singleton source element inductionHypothesis =>
      have kept : source.eraseDups.Pairwise fun earlier later =>
          (source ++ [element]).idxOf earlier < (source ++ [element]).idxOf later := by
        apply inductionHypothesis.imp_of_mem
        intro earlier later earlierMember laterMember before
        rw [List.idxOf_append_of_mem (List.mem_eraseDups.mp earlierMember),
          List.idxOf_append_of_mem (List.mem_eraseDups.mp laterMember)]
        exact before
      rw [eraseDups_concat]
      split
      · rw [List.append_nil]
        exact kept
      · rename_i fresh
        refine List.pairwise_append.mpr ⟨kept, List.pairwise_singleton _ _, ?_⟩
        intro earlier member last isLast
        rw [List.mem_singleton.mp isLast, List.idxOf_append_of_mem (List.mem_eraseDups.mp member),
          List.idxOf_append_of_notMem fresh]
        exact (List.idxOf_lt_length_of_mem (List.mem_eraseDups.mp member)).trans_le
          (Nat.le_add_right _ _)

/-- Dropping later duplicates keeps the first occurrences. -/
theorem listsFirstOccurrences_eraseDups {A : Type} [BEq A] [LawfulBEq A] (source : List A) :
    ListsFirstOccurrences source source.eraseDups where
  once := by
    apply (pairwise_idxOf_eraseDups source).imp
    rintro earlier later before rfl
    exact Nat.lt_irrefl _ before
  same := fun _ => List.mem_eraseDups
  ordered := pairwise_idxOf_eraseDups source

/-- Upper-casing drops no character. -/
theorem length_upperCaseCharacters (text : List Char) :
    text.length ≤ (upperCaseCharacters text).length := by
  induction text with
  | nil => exact Nat.le_refl 0
  | cons character rest inductionHypothesis =>
      have written := List.length_pos_iff.mpr (upperCaseOf_ne_nil character)
      rw [upperCaseCharacters_cons, List.length_append, List.length_cons]
      omega

theorem length_le_upperCase (text : String) : text.length ≤ (upperCase text).length := by
  rw [← String.length_toList, ← String.length_toList, toList_upperCase]
  exact length_upperCaseCharacters text.toList

/-- In upper case a form is as long as the key or longer by the mark. -/
theorem RoutineName.length_upperCase_form {name : RoutineName} {form : String}
    (isForm : form ∈ name.forms) :
    name.key.length ≤ (upperCase form).length ∧ (upperCase form).length ≤ name.key.length + 2 := by
  have mark : customMark.length = 2 := by decide
  obtain plain | marked := (name.upperCase_forms _).mp ⟨form, isForm, rfl⟩
  · rw [plain]
    omega
  · rw [marked, String.length_append]
    omega

/-- No form is another form with an ending of four characters. -/
theorem RoutineName.form_ne_ended {name : RoutineName} {first second ending : String}
    (isForm : first ∈ name.forms) (isFormToo : second ∈ name.forms) (long : ending.length = 4) :
    first ≠ second ++ ending := by
  -- Upper-casing may lengthen either form, but in upper case only the mark can be between them.
  intro same
  have upper := congrArg (fun text => (upperCase text).length) same
  simp only [upperCase_append, String.length_append] at upper
  have above := (RoutineName.length_upperCase_form isForm).2
  have below := (RoutineName.length_upperCase_form isFormToo).1
  have ended := length_le_upperCase ending
  omega

/-- A spelling tells its form and its ending. -/
theorem RoutineName.spelling_injective {name : RoutineName} {first second ending other : String}
    (isForm : first ∈ name.forms) (isFormToo : second ∈ name.forms)
    (isEnding : ending ∈ spellingEndings) (isEndingToo : other ∈ spellingEndings)
    (same : first ++ ending = second ++ other) : first = second ∧ ending = other := by
  have lengths : ∀ text ∈ spellingEndings, text = "" ∨ text.length = 4 := by decide
  obtain rfl | long := lengths ending isEnding
  · obtain rfl | longToo := lengths other isEndingToo
    · simpa using same
    · rw [String.append_empty] at same
      exact absurd same (RoutineName.form_ne_ended isForm isFormToo longToo)
  · obtain rfl | longToo := lengths other isEndingToo
    · rw [String.append_empty] at same
      exact absurd same.symm (RoutineName.form_ne_ended isFormToo isForm long)
    · have characters := congrArg String.toList same
      rw [String.toList_append, String.toList_append] at characters
      have equal : ending.toList.length = other.toList.length := by
        rw [String.length_toList, String.length_toList, long, longToo]
      obtain ⟨front, back⟩ := List.append_inj' characters equal
      exact ⟨String.toList_inj.mp front, String.toList_inj.mp back⟩

/-- Each of the different forms has seven spellings. -/
theorem RoutineName.length_spellings (name : RoutineName) :
    name.spellings.length = 7 * name.forms.toFinset.card := by
  have once : name.spellings.Nodup := (listsFirstOccurrences_eraseDups _).once
  have all : name.spellings.toFinset =
      (name.forms.toFinset ×ˢ spellingEndings.toFinset).image fun parts => parts.1 ++ parts.2 := by
    ext spelling
    rw [List.mem_toFinset, RoutineName.mem_spellings]
    simp only [Finset.mem_image, Finset.mem_product, List.mem_toFinset, Prod.exists]
    constructor
    · rintro ⟨form, isForm, ending, isEnding, same⟩
      exact ⟨form, ending, ⟨isForm, isEnding⟩, same⟩
    · rintro ⟨form, ending, ⟨isForm, isEnding⟩, same⟩
      exact ⟨form, isForm, ending, isEnding, same⟩
  have apart : Set.InjOn (fun parts : String × String => parts.1 ++ parts.2)
      (name.forms.toFinset ×ˢ spellingEndings.toFinset : Finset (String × String)) := by
    intro first isSpelling second isSpellingToo same
    simp only [Finset.coe_product, Set.mem_prod, List.coe_toFinset, Set.mem_ofPred_eq]
      at isSpelling isSpellingToo
    obtain ⟨form, ending⟩ := RoutineName.spelling_injective isSpelling.1 isSpellingToo.1
      isSpelling.2 isSpellingToo.2 same
    exact Prod.ext form ending
  have seven : spellingEndings.toFinset.card = 7 := by decide
  rw [← List.toFinset_card_of_nodup once, all, Finset.card_image_of_injOn apart,
    Finset.card_product, seven, Nat.mul_comm]

/-- The form with the mark and the form without it differ, and there are four forms. -/
theorem RoutineName.card_forms (name : RoutineName) :
    2 ≤ name.forms.toFinset.card ∧ name.forms.toFinset.card ≤ 4 := by
  refine ⟨?_, name.forms.toFinset_card_le⟩
  have differ : name.marked ≠ name.plain := by
    intro same
    have lengths := congrArg String.length same
    rw [RoutineName.marked, String.length_append] at lengths
    have mark : customMark.length = 2 := by decide
    omega
  apply Finset.one_lt_card.mpr
  exact ⟨name.marked, by simp [RoutineName.forms], name.plain, by simp [RoutineName.forms], differ⟩

/-- There are seven spellings for each of the two, three or four different forms of a name. -/
theorem RoutineName.seven_spellings_each (name : RoutineName) :
    ListsFirstOccurrences
        (name.forms.flatMap fun form => spellingEndings.map fun ending => form ++ ending)
        name.spellings ∧
      name.spellings.length = 7 * name.forms.toFinset.card ∧
      name.forms.toFinset.card ∈ [2, 3, 4] ∧
      ∀ tree depth root searched listed scanned skipped,
        lookUpRoutine tree depth root name = .notFound searched listed scanned skipped →
          14 ≤ listed.length := by
  obtain ⟨two, four⟩ := name.card_forms
  refine ⟨listsFirstOccurrences_eraseDups _, name.length_spellings, ?_, ?_⟩
  · simp only [List.mem_cons, List.not_mem_nil, or_false]
    omega
  · intro tree depth root searched listed scanned skipped missed
    obtain ⟨⟨_, rfl, _⟩, _⟩ := lookUpRoutine_notFound_iff.mp missed
    rw [name.length_spellings]
    omega

/-- Names with two, three and four different forms. -/
example :
    ([("U_X", 14), ("mata010", 21), ("u_x", 28)].all fun (base, count) =>
      ({ typed := base, base } : RoutineName).spellings.length == count) = true := by
  decide

end RoutineAtlas
