import RoutineAtlas.Origin.Classifier
import Mathlib.Data.List.TakeWhile

/-
This file settles which leads can be learned. They are short, they are capital letters, and the
built-in leads are never learned again.
-/

namespace RoutineAtlas

/-- A text begins with one of the leads exactly when one of them is a prefix. -/
theorem beginsWithAny_iff {leads : List String} {text : List Char} :
    beginsWithAny leads text = true ↔ ∃ lead ∈ leads, lead.toList <+: text := by
  simp [beginsWithAny]

/-- A key begins with a known lead when a built-in or a discovered one is its prefix. -/
theorem beginsWithKnownLead_iff {key : String} {discovered : List String} :
    beginsWithKnownLead key discovered = true ↔
      ∃ lead ∈ builtinLeads ++ discovered, lead.toList <+: key.toList := by
  simp only [beginsWithKnownLead, Bool.or_eq_true, beginsWithAny_iff, List.mem_append]
  constructor
  · rintro (⟨lead, member, begins⟩ | ⟨lead, member, begins⟩)
    · exact ⟨lead, Or.inl member, begins⟩
    · exact ⟨lead, Or.inr member, begins⟩
  · rintro ⟨lead, member | member, begins⟩
    · exact Or.inl ⟨lead, member, begins⟩
    · exact Or.inr ⟨lead, member, begins⟩

/-- A lead that was learned is three or four capital letters, and no built-in lead begins it. -/
structure IsLearnedLead (lead : String) : Prop where
  long : 3 ≤ lead.toList.length
  short : lead.toList.length ≤ 4
  capital : ∀ character ∈ lead.toList, character.isUpper = true
  unknown : ∀ builtin ∈ builtinLeads, ¬ builtin.toList <+: lead.toList

/-- The letters of leads are ASCII characters. -/
theorem ascii_of_isLetter {character : Char} (letter : isLetter character = true) :
    character.toNat < 0x80 := by
  change (decide (character.val ≥ 'A'.val ∧ character.val ≤ 'Z'.val) ||
    decide (character.val ≥ 'a'.val) && decide (character.val ≤ 'z'.val)) = true at letter
  simp only [Bool.or_eq_true, Bool.and_eq_true, decide_eq_true_eq, ge_iff_le,
    UInt32.le_iff_toNat_le] at letter
  change (65 ≤ character.toNat ∧ character.toNat ≤ 90) ∨
    (97 ≤ character.toNat ∧ character.toNat ≤ 122) at letter
  omega

/-- The ASCII upper case of a letter is a capital. -/
theorem isUpper_toUpper {character : Char} (letter : isLetter character = true) :
    character.toUpper.isUpper = true :=
  of_ascii (fun other => isLetter other = true → other.toUpper.isUpper = true) (by decide)
    (ascii_of_isLetter letter) letter

/-- A lead is written in capital letters. -/
theorem isUpper_of_mem_leadOf {stem : List Char} {lead : String}
    (found : leadOf stem = some lead) : ∀ character ∈ lead.toList, character.isUpper = true := by
  simp only [leadOf] at found
  split at found
  · simp only [Option.some.injEq] at found
    subst found
    intro character member
    rw [String.toList_ofList, List.mem_map] at member
    obtain ⟨letter, taken, rfl⟩ := member
    exact isUpper_toUpper (List.mem_takeWhile_imp (List.mem_of_mem_take taken))
  · simp at found

/-- A source teaches a lead when its stem shows the lead and bears no mark, when no built-in lead
begins the lead, and when its head can be read and is not a customer's. -/
structure TeachesLead (tree : FileTree) (path : PathName) (lead : String) : Prop where
  shown : ∃ stem : String, pathStem? path = some (utf8Bytes stem) ∧ hasMark stem.toList = false ∧
    leadOf stem.toList = some lead
  unknown : ∀ builtin ∈ builtinLeads, ¬ builtin.toList <+: lead.toList
  legible : ∃ head, inspectedHead tree path = .ok head ∧ TextVerdict.of head ≠ .custom

/-- A source shows a lead by a stem without the mark. -/
theorem candidateLead_eq_some {path : PathName} {lead : String} :
    candidateLead path = some lead ↔ ∃ stem : String, pathStem? path = some (utf8Bytes stem) ∧
      hasMark stem.toList = false ∧ leadOf stem.toList = some lead := by
  simp [candidateLead, Option.bind_eq_some_iff, readUtf8_eq_some_iff]

theorem readsAsStandard_iff {tree : FileTree} {path : PathName} :
    readsAsStandard tree path = true ↔
      ∃ head, inspectedHead tree path = .ok head ∧ TextVerdict.of head ≠ .custom := by
  rw [readsAsStandard]
  cases inspectedHead tree path with
  | error fault => simp
  | ok head => simp [TextVerdict.isStandard]

theorem teachesLead_iff {tree : FileTree} {path : PathName} {lead : String} :
    TeachesLead tree path lead ↔ candidateLead path = some lead ∧
      beginsWithAny builtinLeads lead.toList = false ∧ readsAsStandard tree path = true := by
  rw [candidateLead_eq_some, readsAsStandard_iff, ← Bool.not_eq_true, beginsWithAny_iff]
  constructor
  · intro teaches
    refine ⟨teaches.shown, ?_, teaches.legible⟩
    rintro ⟨builtin, listed, begins⟩
    exact teaches.unknown builtin listed begins
  · rintro ⟨shown, unknown, legible⟩
    exact ⟨shown, fun builtin listed begins => unknown ⟨builtin, listed, begins⟩, legible⟩

/-- What a source teaches is a learned lead. -/
theorem TeachesLead.isLearnedLead {tree : FileTree} {path : PathName} {lead : String}
    (teaches : TeachesLead tree path lead) : IsLearnedLead lead := by
  obtain ⟨stem, _, _, shown⟩ := teaches.shown
  obtain ⟨long, short⟩ := leadOf_eq_some shown
  exact ⟨long, short, isUpper_of_mem_leadOf shown, teaches.unknown⟩

/-- The source that shows the lead is opened. -/
def LeadSearch.inspect (tree : FileTree) (search : LeadSearch) (path : PathName) (lead : String) :
    LeadSearch where
  found := if readsAsStandard tree path then insertName lead search.found else search.found
  inspections := search.inspections + 1

/-- When a source that shows a new lead is opened, exactly what it teaches is added. -/
theorem LeadSearch.mem_inspect_found {tree : FileTree} {search : LeadSearch}
    {path : PathName} {shown lead : String} (candidate : candidateLead path = some shown)
    (unknown : beginsWithAny builtinLeads shown.toList = false) :
    lead ∈ (search.inspect tree path shown).found ↔
      lead ∈ search.found ∨ TeachesLead tree path lead := by
  rw [teachesLead_iff, candidate, Option.some.injEq, LeadSearch.inspect]
  cases readsAsStandard tree path with
  | false => simp
  | true =>
      simp only [if_true, mem_insertName, and_true]
      constructor
      · rintro (rfl | before)
        · exact Or.inr ⟨rfl, unknown⟩
        · exact Or.inl before
      · rintro (before | ⟨rfl, _⟩)
        · exact Or.inr before
        · exact Or.inl rfl

/-- A visit opens the source when it shows a lead that is neither found nor built in. -/
def LeadSearch.opens (search : LeadSearch) (path : PathName) : Bool :=
  match candidateLead path with
  | none => false
  | some lead => !(search.found.contains lead || beginsWithAny builtinLeads lead.toList)

/-- A source that is not opened leaves the search as it is. -/
theorem LeadSearch.visit_of_closed {search : LeadSearch} {path : PathName}
    (closed : search.opens path = false) (tree : FileTree) : search.visit tree path = search := by
  rw [LeadSearch.visit]
  rw [LeadSearch.opens] at closed
  split
  · rfl
  · rename_i lead shown
    rw [shown, Bool.not_eq_false'] at closed
    rw [if_pos closed]

/-- A source is opened for the lead that it shows and that no built-in lead begins. -/
theorem LeadSearch.visit_of_opens {search : LeadSearch} {path : PathName}
    (opens : search.opens path = true) :
    ∃ lead, candidateLead path = some lead ∧ beginsWithAny builtinLeads lead.toList = false ∧
      ∀ tree, search.visit tree path = search.inspect tree path lead := by
  cases shown : candidateLead path with
  | none => simp [LeadSearch.opens, shown] at opens
  | some lead =>
      have new : (search.found.contains lead || beginsWithAny builtinLeads lead.toList) =
          false := by
        simpa only [LeadSearch.opens, shown, Bool.not_eq_true'] using opens
      refine ⟨lead, rfl, (Bool.or_eq_false_iff.mp new).2, ?_⟩
      intro tree
      simp only [LeadSearch.visit, shown, new, Bool.false_eq_true, if_false, LeadSearch.inspect]

/-- A visit adds what the source teaches. A source that is passed over teaches nothing new. -/
theorem LeadSearch.mem_visit_found {tree : FileTree} {search : LeadSearch} {path : PathName}
    {lead : String} :
    lead ∈ (search.visit tree path).found ↔
      lead ∈ search.found ∨ TeachesLead tree path lead := by
  cases opens : search.opens path with
  | false =>
      rw [LeadSearch.visit_of_closed opens]
      refine ⟨Or.inl, ?_⟩
      rintro (found | teaches)
      · exact found
      -- The lead that is taught is shown and not built in, so it has been found before.
      · obtain ⟨candidate, unknown, _⟩ := teachesLead_iff.mp teaches
        simpa [LeadSearch.opens, candidate, unknown] using opens
  | true =>
      obtain ⟨shown, candidate, unknown, visit⟩ := LeadSearch.visit_of_opens opens
      rw [visit]
      exact LeadSearch.mem_inspect_found candidate unknown

/-- A search whose steps add what their sources teach finds what any of the sources teaches. -/
theorem LeadSearch.mem_foldl_found {tree : FileTree} {lead : String}
    {step : LeadSearch → PathName → LeadSearch}
    (adds : ∀ search path,
      lead ∈ (step search path).found ↔ lead ∈ search.found ∨ TeachesLead tree path lead)
    (paths : List PathName) (search : LeadSearch) :
    lead ∈ (paths.foldl step search).found ↔
      lead ∈ search.found ∨ ∃ path ∈ paths, TeachesLead tree path lead := by
  induction paths generalizing search with
  | nil => simp
  | cons path rest inductionHypothesis =>
      rw [List.foldl_cons, inductionHypothesis, adds, or_assoc]
      simp only [List.mem_cons, exists_eq_or_imp]

/-- The leads that are found are those that some source teaches. -/
theorem LeadSearch.mem_over_found {tree : FileTree} {paths : List PathName} {lead : String} :
    lead ∈ (LeadSearch.over tree paths).found ↔ ∃ path ∈ paths, TeachesLead tree path lead := by
  rw [LeadSearch.over, LeadSearch.mem_foldl_found fun _ _ => LeadSearch.mem_visit_found]
  simp

/-- The leads that a classifier learns from any tree are learned leads. -/
theorem Classifier.isLearnedLead_of_mem_learnLeads {classifier : Classifier} {tree : FileTree}
    {lead : String} (member : lead ∈ (classifier.learnLeads tree).found) : IsLearnedLead lead := by
  rw [Classifier.learnLeads] at member
  split at member
  · simp at member
  · obtain ⟨_, _, teaches⟩ := LeadSearch.mem_over_found.mp member
    exact teaches.isLearnedLead

end RoutineAtlas
