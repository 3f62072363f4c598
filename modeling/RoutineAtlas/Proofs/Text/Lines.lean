import RoutineAtlas.Text.Lines
import Mathlib.Data.List.Basic

/-
This file settles how a sequence is cut into lines. The lines hold no marks, and each but the first
stands behind one. Lines that are written with a mark behind each come back, the lines of two parts
are those of the whole, and the first lines depend on nothing behind their marks.
-/

namespace RoutineAtlas

section

variable {A : Type}

/-- What stands in front of the lines goes into the first of them. -/
def intoFirstLine (front : List A) : List (List A) → List (List A)
  | [] => [front]
  | line :: others => (front ++ line) :: others

theorem intoFirstLine_intoFirstLine (outer inner : List A) (lines : List (List A)) :
    intoFirstLine outer (intoFirstLine inner lines) = intoFirstLine (outer ++ inner) lines := by
  cases lines with
  | nil => rfl
  | cons line others => rw [intoFirstLine, intoFirstLine, intoFirstLine, List.append_assoc]

theorem take_intoFirstLine (front : List A) (lines : List (List A)) (count : Nat) :
    (intoFirstLine front lines).take (count + 1) =
      intoFirstLine front (lines.take (count + 1)) := by
  cases lines <;> simp [intoFirstLine]

theorem length_intoFirstLine (front : List A) {lines : List (List A)} (filled : lines ≠ []) :
    (intoFirstLine front lines).length = lines.length := by
  obtain ⟨line, others, rfl⟩ := List.exists_cons_of_ne_nil filled
  rfl

/-- The lines may be written otherwise when they are written element by element. -/
theorem map_flatMap_intoFirstLine {B : Type} (write : A → List B) (front : List A)
    (lines : List (List A)) :
    (intoFirstLine front lines).map (List.flatMap write) =
      intoFirstLine (front.flatMap write) (lines.map (List.flatMap write)) := by
  cases lines with
  | nil => rfl
  | cons line others =>
      rw [intoFirstLine, List.map_cons, List.flatMap_append, List.map_cons, intoFirstLine]

end

section

variable {A : Type} [DecidableEq A] {mark : A}

/-- An element that is no mark goes into the first line of the rest. -/
theorem cutLines_of_ne {element : A} (ordinary : element ≠ mark) (rest : List A) :
    cutLines mark (element :: rest) = intoFirstLine [element] (cutLines mark rest) := by
  rw [cutLines_cons rest ordinary]
  cases cutLines mark rest <;> rfl

/-- A text without marks goes into the first line of the rest. -/
theorem cutLines_append_of_notMem {front : List A} (filled : front ≠ []) (noMark : mark ∉ front)
    (rest : List A) :
    cutLines mark (front ++ rest) = intoFirstLine front (cutLines mark rest) := by
  induction front with
  | nil => exact absurd rfl filled
  | cons element others inductionHypothesis =>
      rw [List.mem_cons, not_or] at noMark
      rw [List.cons_append, cutLines_of_ne (Ne.symm noMark.1)]
      by_cases ended : others = []
      · rw [ended, List.nil_append]
      · rw [inductionHypothesis ended noMark.2, intoFirstLine_intoFirstLine]
        rfl

/-- A text without marks is a line when a mark stands behind it. -/
theorem cutLines_append_mark {line : List A} (noMark : mark ∉ line) (rest : List A) :
    cutLines mark (line ++ mark :: rest) = line :: cutLines mark rest := by
  by_cases empty : line = []
  · rw [empty, List.nil_append, cutLines_mark]
  · rw [cutLines_append_of_notMem empty noMark, cutLines_mark, intoFirstLine, List.append_nil]

/-- Lines that are written with a mark behind each are read again. -/
theorem cutLines_flatMap {lines : List (List A)} (noMark : ∀ line ∈ lines, mark ∉ line) :
    cutLines mark (lines.flatMap fun line => line ++ [mark]) = lines := by
  induction lines with
  | nil => rfl
  | cons line others inductionHypothesis =>
      have tail := inductionHypothesis fun other member => noMark other (by simp [member])
      rw [List.flatMap_cons, List.append_assoc, List.singleton_append,
        cutLines_append_mark (noMark line (by simp)), tail]

theorem cutLines_ne_nil {sequence : List A} (filled : sequence ≠ []) :
    cutLines mark sequence ≠ [] := by
  obtain ⟨element, rest, rfl⟩ := List.exists_cons_of_ne_nil filled
  by_cases same : element = mark
  · rw [same, cutLines_mark]
    exact List.cons_ne_nil _ _
  · rw [cutLines_of_ne same]
    cases cutLines mark rest <;> exact List.cons_ne_nil _ _

/-- No line holds a mark. -/
theorem notMem_of_mem_cutLines {sequence line : List A}
    (member : line ∈ cutLines mark sequence) : mark ∉ line := by
  induction sequence generalizing line with
  | nil => exact absurd member (by simp)
  | cons element rest inductionHypothesis =>
      by_cases same : element = mark
      · rw [same, cutLines_mark, List.mem_cons] at member
        obtain rfl | further := member
        · exact List.not_mem_nil
        · exact inductionHypothesis further
      · rw [cutLines_cons rest same] at member
        split at member
        · rw [List.mem_singleton.mp member, List.mem_singleton]
          exact Ne.symm same
        · rename_i first others lines
          rw [lines] at inductionHypothesis
          rw [List.mem_cons] at member
          obtain rfl | further := member
          · rw [List.mem_cons, not_or]
            exact ⟨Ne.symm same, inductionHypothesis (by simp)⟩
          · exact inductionHypothesis (by simp [further])

/-- The first line begins the sequence. -/
theorem isPrefix_of_cutLines {sequence line : List A} {others : List (List A)}
    (cut : cutLines mark sequence = line :: others) : line <+: sequence := by
  induction sequence generalizing line others with
  | nil => exact absurd cut (by simp)
  | cons first rest inductionHypothesis =>
      by_cases same : first = mark
      · rw [same, cutLines_mark] at cut
        obtain ⟨rfl, _⟩ := List.cons.inj cut
        exact List.nil_prefix
      · rw [cutLines_cons _ same] at cut
        cases lines : cutLines mark rest with
        | nil =>
            rw [lines] at cut
            obtain ⟨rfl, _⟩ := List.cons.inj cut
            exact ⟨rest, rfl⟩
        | cons next more =>
            rw [lines] at cut
            obtain ⟨rfl, _⟩ := List.cons.inj cut
            exact List.cons_prefix_cons.mpr ⟨rfl, inductionHypothesis lines⟩

/-- Every further line stands behind a mark. -/
theorem exists_mark_of_mem_tail_cutLines {sequence line : List A}
    (member : line ∈ (cutLines mark sequence).tail) :
    ∃ before behind, sequence = before ++ mark :: (line ++ behind) := by
  induction sequence generalizing line with
  | nil => simp at member
  | cons first rest inductionHypothesis =>
      by_cases same : first = mark
      · rw [same, cutLines_mark, List.tail_cons] at member
        cases lines : cutLines mark rest with
        | nil => simp [lines] at member
        | cons next more =>
            rw [lines, List.mem_cons] at member
            obtain rfl | further := member
            · obtain ⟨behind, split⟩ := isPrefix_of_cutLines lines
              exact ⟨[], behind, by rw [same, split]; rfl⟩
            · obtain ⟨before, behind, split⟩ :=
                inductionHypothesis (by rw [lines]; exact further)
              exact ⟨first :: before, behind, by rw [split]; rfl⟩
      · have others : line ∈ (cutLines mark rest).tail := by
          rw [cutLines_cons _ same] at member
          cases lines : cutLines mark rest with
          | nil => simp [lines] at member
          | cons next more => simpa [lines] using member
        obtain ⟨before, behind, split⟩ := inductionHypothesis others
        exact ⟨first :: before, behind, by rw [split]; rfl⟩

/-- Two parts that are joined by a mark have their lines for themselves. There may be an empty line
between them, and there is one when the first part has no line. -/
theorem cutLines_joined (mark : A) (above below : List A) :
    (cutLines mark above ≠ [] ∧
      cutLines mark (above ++ mark :: below) = cutLines mark above ++ cutLines mark below) ∨
    cutLines mark (above ++ mark :: below) =
      cutLines mark above ++ [] :: cutLines mark below := by
  induction above with
  | nil => exact Or.inr (cutLines_mark mark below)
  | cons element rest inductionHypothesis =>
      rw [List.cons_append]
      by_cases same : element = mark
      · rw [same, cutLines_mark, cutLines_mark]
        obtain ⟨_, direct⟩ | empty := inductionHypothesis
        · exact Or.inl ⟨by simp, by rw [direct, List.cons_append]⟩
        · exact Or.inr (by rw [empty, List.cons_append])
      · -- The element goes into the first line, which is the empty one when the rest has none.
        rw [cutLines_cons _ same, cutLines_cons _ same]
        cases first : cutLines mark rest with
        | nil =>
            rw [first] at inductionHypothesis
            obtain ⟨filled, _⟩ | empty := inductionHypothesis
            · exact absurd rfl filled
            · exact Or.inl ⟨by simp, by rw [empty]; rfl⟩
        | cons line others =>
            rw [first] at inductionHypothesis
            obtain ⟨_, direct⟩ | empty := inductionHypothesis
            · exact Or.inl ⟨by simp, by rw [direct]; rfl⟩
            · exact Or.inr (by rw [empty]; rfl)

/-- What is read line by line is read in both parts, if an empty line tells nothing. -/
theorem filterMap_cutLines_joined {B : Type} (mark : A) (read : List A → Option B)
    (silent : read [] = none) (above below : List A) :
    (cutLines mark (above ++ mark :: below)).filterMap read =
      (cutLines mark above).filterMap read ++ (cutLines mark below).filterMap read := by
  obtain ⟨_, direct⟩ | empty := cutLines_joined mark above below
  · rw [direct, List.filterMap_append]
  · rw [empty, List.filterMap_append, List.filterMap_cons_none silent]

/-- Each mark ends a line, and what stands behind the last mark is a line when there is anything. -/
def lineCount (mark : A) (sequence : List A) : Nat :=
  sequence.count mark +
    if sequence.getLast? = none ∨ sequence.getLast? = some mark then 0 else 1

theorem length_cutLines (mark : A) (sequence : List A) :
    (cutLines mark sequence).length = lineCount mark sequence := by
  induction sequence with
  | nil => rfl
  | cons element rest inductionHypothesis =>
      by_cases ended : rest = []
      · by_cases same : element = mark <;> simp [ended, same, lineCount, cutLines]
      · have last : (element :: rest).getLast? = rest.getLast? := by
          rw [List.getLast?_cons, List.getLast?_eq_some_getLast ended, Option.getD_some]
        by_cases same : element = mark
        · rw [same] at last ⊢
          rw [cutLines_mark, List.length_cons, inductionHypothesis, lineCount, lineCount, last,
            List.count_cons_self, Nat.add_right_comm]
        · rw [cutLines_of_ne same, length_intoFirstLine _ (cutLines_ne_nil ended),
            inductionHypothesis, lineCount, lineCount, last, List.count_cons_of_ne same]

/-- As many first lines as there are marks depend on nothing that stands behind the marks. -/
theorem take_cutLines_append {count : Nat} {front : List A} (ended : count ≤ front.count mark)
    (rest : List A) :
    (cutLines mark (front ++ rest)).take count = (cutLines mark front).take count := by
  induction front generalizing count with
  | nil =>
      obtain rfl := Nat.le_zero.mp ended
      rfl
  | cons element others inductionHypothesis =>
      cases count with
      | zero => rfl
      | succ count =>
          rw [List.cons_append]
          by_cases same : element = mark
          · rw [same] at ended ⊢
            rw [List.count_cons_self] at ended
            rw [cutLines_mark, cutLines_mark, List.take_succ_cons, List.take_succ_cons,
              inductionHypothesis (Nat.le_of_succ_le_succ ended)]
          · rw [List.count_cons_of_ne same] at ended
            rw [cutLines_of_ne same, cutLines_of_ne same, take_intoFirstLine, take_intoFirstLine,
              inductionHypothesis ended]

theorem dropReturn_isPrefix (mark : A) (line : List A) :
    dropReturn mark line <+: line := by
  rw [dropReturn]
  split
  · exact List.dropLast_prefix line
  · exact List.prefix_rfl

end

end RoutineAtlas
