import RoutineAtlas.Outline.Basic
import RoutineAtlas.Proofs.Text.NameSet
import RoutineAtlas.Proofs.Text.Occurrence

/-
This file settles what an outline tells of the lines of a source. Each declaration is recorded
under the number of its line, and it is documented when a mark stands between it and the
declaration before.
-/

namespace RoutineAtlas

/-- The mark is a name in any case between braces, and blanks may stand on both sides of it. -/
def IsDocumentationMark (phrase : List Char) : Prop :=
  ∃ before name after, phrase = '\x7b' :: before ++ name ++ after ++ ['\x7d'] ∧
    (∀ character ∈ before, isBlank character = true) ∧
    name.map foldLetter = "PROTHEUS.DOC".toList ∧
    ∀ character ∈ after, isBlank character = true

theorem documentationMark_eq_some_iff {text rest : List Char} :
    documentationMark text = some rest ↔
      ∃ phrase, text = phrase ++ rest ∧ IsDocumentationMark phrase := by
  constructor
  · intro found
    obtain ⟨inside, opens, found⟩ := Option.bind_eq_some_iff.mp found
    obtain ⟨word, named, closes⟩ := Option.bind_eq_some_iff.mp found
    obtain rfl := afterLiteral_eq_some.mp opens
    obtain ⟨name, split, folds⟩ := afterFolded_eq_some_iff.mp named
    have closed : word.dropWhile isBlank = '\x7d' :: rest := afterLiteral_eq_some.mp closes
    refine ⟨'\x7b' :: inside.takeWhile isBlank ++ name ++ word.takeWhile isBlank ++ ['\x7d'], ?_,
      inside.takeWhile isBlank, name, word.takeWhile isBlank, rfl,
      fun character => List.mem_takeWhile_imp, folds, fun character => List.mem_takeWhile_imp⟩
    calc '\x7b' :: inside
        = '\x7b' :: (inside.takeWhile isBlank ++ (name ++ word)) := by
          rw [← split, skipBlanks, List.takeWhile_append_dropWhile]
      _ = '\x7b' :: (inside.takeWhile isBlank ++
            (name ++ (word.takeWhile isBlank ++ '\x7d' :: rest))) := by
          rw [← closed, List.takeWhile_append_dropWhile]
      _ = _ := by simp
  · rintro ⟨_, rfl, before, name, after, rfl, blankBefore, folds, blankAfter⟩
    have visible : Stops isBlank (name ++ (after ++ '\x7d' :: rest)) := by
      obtain ⟨letter, others, rfl⟩ := List.exists_cons_of_ne_nil (l := name) (by
        rintro rfl
        exact absurd folds (by decide))
      exact stops_cons.mpr (isBlank_of_isUpper_foldLetter (by
        rw [(List.cons.inj folds).1]
        decide))
    have closing : Stops isBlank ('\x7d' :: rest) := stops_cons.mpr (by decide)
    have opened : afterLiteral "\x7b" ('\x7b' :: before ++ name ++ after ++ ['\x7d'] ++ rest) =
        some (before ++ (name ++ (after ++ '\x7d' :: rest))) :=
      afterLiteral_eq_some.mpr (by simp)
    have named : afterFolded "PROTHEUS.DOC"
        (skipBlanks (before ++ (name ++ (after ++ '\x7d' :: rest)))) =
          some (after ++ '\x7d' :: rest) := by
      rw [skipBlanks, dropWhile_append_of_stops blankBefore visible]
      exact afterFolded_eq_some_iff.mpr ⟨name, rfl, folds⟩
    have closed : afterSpaced "\x7d" (after ++ '\x7d' :: rest) = some rest := by
      rw [afterSpaced, skipBlanks, dropWhile_append_of_stops blankAfter closing]
      exact afterLiteral_eq_some.mpr rfl
    simp only [documentationMark, opened, Option.bind_eq_bind, Option.bind_some, named, closed]

/-- A line bears a mark when the mark stands anywhere in it. -/
theorem isDocumentation_iff {line : List Char} :
    isDocumentation line = true ↔
      ∃ before phrase after, line = before ++ phrase ++ after ∧ IsDocumentationMark phrase := by
  rw [isDocumentation, occursAnywhere_iff]
  constructor
  · rintro ⟨before, behind, rfl, _, found⟩
    obtain ⟨after, found⟩ := Option.isSome_iff_exists.mp found
    obtain ⟨phrase, rfl, isMark⟩ := documentationMark_eq_some_iff.mp found
    exact ⟨before, phrase, after, (List.append_assoc ..).symm, isMark⟩
  · rintro ⟨before, phrase, after, rfl, isMark⟩
    refine ⟨before, phrase ++ after, List.append_assoc .., ?_, Option.isSome_iff_exists.mpr
      ⟨after, documentationMark_eq_some_iff.mpr ⟨phrase, rfl, isMark⟩⟩⟩
    rw [isOpenBehind]
    cases before.getLast? <;> rfl

/-- A line documents exactly when it bears a mark, whatever else it says. -/
theorem LineKind.of_eq_documentation_iff {line : List Char} :
    LineKind.of line = .documentation ↔ isDocumentation line = true := by
  rw [LineKind.of]
  split
  · rename_i marked
    exact iff_of_true rfl marked
  · rename_i plain
    refine iff_of_false ?_ plain
    split
    · exact LineKind.noConfusion
    · split
      · exact LineKind.noConfusion
      · exact LineKind.noConfusion

section

variable {number : Nat} {pending : Bool} {lines : List LineKind}

/-- A declaration is recorded under the number of the line that declares it. -/
theorem exists_mem_declarationsFrom_iff {line : Nat} {kind : DeclarationKind} {name : String} :
    (∃ declaration ∈ declarationsFrom number pending lines,
      declaration.line = line ∧ declaration.kind = kind ∧ declaration.name = name) ↔
        ∃ place, line = number + place ∧ lines[place]? = some (.declaration kind name) := by
  induction lines generalizing number pending with
  | nil => simp [declarationsFrom]
  | cons first rest inductionHypothesis =>
      -- Either the first line declares this, or a line behind it does.
      have split : (∃ place, line = number + place ∧
          (first :: rest)[place]? = some (.declaration kind name)) ↔
            line = number ∧ first = .declaration kind name ∨
              ∃ place, line = number + 1 + place ∧
                rest[place]? = some (.declaration kind name) := by
        constructor
        · rintro ⟨place, same, declares⟩
          cases place with
          | zero => exact Or.inl ⟨same, by simpa using declares⟩
          | succ place => exact Or.inr ⟨place, by omega, by simpa using declares⟩
        · rintro (⟨same, declares⟩ | ⟨place, same, declares⟩)
          · exact ⟨0, same, by simpa using declares⟩
          · exact ⟨place + 1, by omega, by simpa using declares⟩
      rw [split]
      cases first with
      | declaration own other =>
          rw [declarationsFrom, ← @inductionHypothesis (number + 1) false]
          simp only [List.exists_mem_cons_iff, LineKind.declaration.injEq, eq_comm]
      | documentation | header | other =>
          simp only [declarationsFrom, inductionHypothesis, reduceCtorEq, and_false, false_or]

/-- The declarations are recorded under numbers of lines. -/
theorem line_of_mem_declarationsFrom {declaration : Declaration}
    (member : declaration ∈ declarationsFrom number pending lines) :
    number ≤ declaration.line ∧ declaration.line < number + lines.length := by
  obtain ⟨place, same, declares⟩ :=
    exists_mem_declarationsFrom_iff.mp ⟨declaration, member, rfl, rfl, rfl⟩
  have inside := (List.getElem?_eq_some_iff.mp declares).1
  omega

/-- No two declarations are recorded under one number. -/
theorem pairwise_declarationsFrom (number : Nat) (pending : Bool) (lines : List LineKind) :
    (declarationsFrom number pending lines).Pairwise
      fun first second => first.line < second.line := by
  induction lines generalizing number pending with
  | nil => exact List.Pairwise.nil
  | cons line rest inductionHypothesis =>
      cases line with
      | declaration kind name =>
          rw [declarationsFrom]
          refine List.pairwise_cons.mpr ⟨?_, inductionHypothesis (number + 1) false⟩
          intro later member
          exact (line_of_mem_declarationsFrom member).1
      | documentation => exact inductionHypothesis (number + 1) true
      | header | other => exact inductionHypothesis (number + 1) pending

/-- Among the lines a mark stands behind the last of the declarations and before the next one. -/
def MarkStandsBetween (number : Nat) (lines : List LineKind) (before : List Declaration)
    (next : Nat) : Prop :=
  ∃ place, lines[place]? = some .documentation ∧
    (∀ previous ∈ before.getLast?, previous.line < number + place) ∧ number + place < next

/-- Such a mark is on the first line or stands among the lines behind it. -/
theorem markStandsBetween_cons {line : LineKind} {before : List Declaration} {next : Nat} :
    MarkStandsBetween number (line :: lines) before next ↔
      line = .documentation ∧ (∀ previous ∈ before.getLast?, previous.line < number) ∧
          number < next ∨
        MarkStandsBetween (number + 1) lines before next := by
  have shift (place : Nat) : number + (place + 1) = number + 1 + place := by omega
  constructor
  · rintro ⟨place, marked, behind, ahead⟩
    cases place with
    | zero => exact Or.inl ⟨by simpa using marked, behind, ahead⟩
    | succ place =>
        rw [shift] at behind ahead
        exact Or.inr ⟨place, by simpa using marked, behind, ahead⟩
  · rintro (⟨marked, behind, ahead⟩ | ⟨place, marked, behind, ahead⟩)
    · exact ⟨0, by simpa using marked, behind, ahead⟩
    · rw [← shift] at behind ahead
      exact ⟨place + 1, by simpa using marked, behind, ahead⟩

/-- A declaration above the lines does not count among those that a mark has to stand behind. -/
theorem markStandsBetween_above {first : Declaration} {before : List Declaration} {next : Nat}
    (above : first.line < number) :
    MarkStandsBetween number lines (first :: before) next ↔
      MarkStandsBetween number lines before next := by
  cases before with
  | nil =>
      have behind (place : Nat) : first.line < number + place := by omega
      simp [MarkStandsBetween, behind]
  | cons second others => rw [MarkStandsBetween, MarkStandsBetween, List.getLast?_cons_cons]

/-- Where all declarations stand below a line, the last one is above it only if there is none. -/
theorem getLast?_above_iff {declarations : List Declaration}
    (below : ∀ declaration ∈ declarations, number < declaration.line) :
    (∀ last ∈ declarations.getLast?, last.line < number) ↔ declarations = [] := by
  constructor
  · intro above
    rw [← List.getLast?_eq_none_iff, Option.eq_none_iff_forall_not_mem]
    intro last isLast
    have later := below last (List.mem_of_getLast? isLast)
    exact absurd (above last isLast) (Nat.not_lt_of_lt later)
  · rintro rfl
    simp

/-- The pending mark stays until it documents a declaration. So a declaration is documented when a
mark stands between it and the one before, or when none is before and a mark was pending. -/
theorem documented_iff_of_split {before after : List Declaration} {declaration : Declaration}
    (split : declarationsFrom number pending lines = before ++ declaration :: after) :
    declaration.documented = true ↔
      pending = true ∧ before = [] ∨ MarkStandsBetween number lines before declaration.line := by
  induction lines generalizing number pending before with
  | nil => simp [declarationsFrom] at split
  | cons line rest inductionHypothesis =>
      rw [markStandsBetween_cons]
      cases line with
      | declaration kind name =>
          rw [declarationsFrom] at split
          cases before with
          | nil =>
              obtain ⟨rfl, _⟩ := List.cons.inj split
              have noMark : ¬ MarkStandsBetween (number + 1) rest [] number := by
                rintro ⟨place, _, _, ahead⟩
                omega
              simp [noMark]
          | cons first others =>
              obtain ⟨rfl, tail⟩ := List.cons.inj split
              rw [inductionHypothesis tail, markStandsBetween_above (Nat.lt_succ_self number)]
              simp
      | documentation =>
          rw [declarationsFrom] at split
          have later {recorded : Declaration} (member : recorded ∈ before ++ declaration :: after) :
              number < recorded.line :=
            (line_of_mem_declarationsFrom (split ▸ member)).1
          have noneAbove := getLast?_above_iff fun previous inside =>
            later (List.mem_append_left _ inside)
          rw [inductionHypothesis split, noneAbove]
          have ahead : number < declaration.line := later (by simp)
          simp only [ahead, and_true, true_and]
          tauto
      | header | other =>
          rw [declarationsFrom] at split
          rw [inductionHypothesis split]
          simp

/-- Each mark documents one declaration at most, and so does a pending one. -/
theorem countP_documented_le (number : Nat) (pending : Bool) (lines : List LineKind) :
    (declarationsFrom number pending lines).countP Declaration.documented ≤
      lines.count .documentation + pending.toNat := by
  induction lines generalizing number pending with
  | nil => simp [declarationsFrom]
  | cons line rest inductionHypothesis =>
      cases line with
      | declaration kind name =>
          have tail := inductionHypothesis (number + 1) false
          rw [declarationsFrom, List.countP_cons, List.count_cons_of_ne (by simp)]
          cases pending <;> simp only [Bool.toNat_false, Bool.toNat_true, if_true, if_false,
            Bool.false_eq_true] at tail ⊢ <;> omega
      | documentation =>
          have tail := inductionHypothesis (number + 1) true
          rw [declarationsFrom, List.count_cons_self]
          rw [Bool.toNat_true] at tail
          omega
      | header | other =>
          rw [declarationsFrom, List.count_cons_of_ne (by simp)]
          exact inductionHypothesis (number + 1) pending

/-- No line counts for more than one thing. -/
theorem length_eq_sum_of_kinds (number : Nat) (pending : Bool) (lines : List LineKind) :
    lines.count .documentation + (lines.filterMap LineKind.header?).length +
      (declarationsFrom number pending lines).length + lines.count .other = lines.length := by
  induction lines generalizing number pending with
  | nil => rfl
  | cons line rest inductionHypothesis =>
      have tail (flag : Bool) := inductionHypothesis (number + 1) flag
      rw [List.length_cons]
      cases line with
      | declaration kind name =>
          have here := tail false
          rw [declarationsFrom, List.filterMap_cons_none rfl, List.length_cons,
            List.count_cons_of_ne (by simp), List.count_cons_of_ne (by simp)]
          omega
      | documentation =>
          have here := tail true
          rw [declarationsFrom, List.filterMap_cons_none rfl, List.count_cons_self,
            List.count_cons_of_ne (by simp)]
          omega
      | header name =>
          have here := tail pending
          have own : LineKind.header? (.header name) = some name := rfl
          rw [declarationsFrom, List.filterMap_cons_some own, List.length_cons,
            List.count_cons_of_ne (by simp), List.count_cons_of_ne (by simp)]
          omega
      | other =>
          have here := tail pending
          rw [declarationsFrom, List.filterMap_cons_none rfl, List.count_cons_of_ne (by simp),
            List.count_cons_self]
          omega

end

/-- The lines of a text are numbered from one on. -/
def IsLineAt (content : String) (number : Nat) (line : List Char) : Prop :=
  ∃ place, number = 1 + place ∧ (textLines content.toList)[place]? = some line

theorem isLineAt_map_iff {content : String} {number : Nat} {kind : LineKind} :
    (∃ place, number = 1 + place ∧
      ((textLines content.toList).map LineKind.of)[place]? = some kind) ↔
        ∃ line, IsLineAt content number line ∧ LineKind.of line = kind := by
  simp only [IsLineAt, List.getElem?_map, Option.map_eq_some_iff]
  constructor
  · rintro ⟨place, same, line, here, own⟩
    exact ⟨line, ⟨place, same, here⟩, own⟩
  · rintro ⟨line, ⟨place, same, here⟩, own⟩
    exact ⟨place, same, line, here, own⟩

/-- A declaration of a text is documented when a line with a mark stands between it and the one
before. -/
theorem Outline.documented_of_iff {content : String} {before after : List Declaration}
    {declaration : Declaration}
    (split : (Outline.of content).declarations = before ++ declaration :: after) :
    declaration.documented = true ↔
      ∃ number line, IsLineAt content number line ∧ isDocumentation line = true ∧
        (∀ previous ∈ before.getLast?, previous.line < number) ∧ number < declaration.line := by
  rw [documented_iff_of_split split]
  constructor
  · rintro (⟨impossible, _⟩ | ⟨place, marked, behind, ahead⟩)
    · exact Bool.noConfusion impossible
    · obtain ⟨line, here, own⟩ := isLineAt_map_iff.mp ⟨place, rfl, marked⟩
      exact ⟨1 + place, line, here, LineKind.of_eq_documentation_iff.mp own, behind, ahead⟩
  · rintro ⟨number, line, here, marked, behind, ahead⟩
    have own := LineKind.of_eq_documentation_iff.mpr marked
    obtain ⟨place, rfl, kind⟩ := isLineAt_map_iff.mpr ⟨line, here, own⟩
    exact Or.inr ⟨place, kind, behind, ahead⟩

/-- An outline accounts for a text when it records exactly its marked and declaring lines in order.
-/
structure Outline.AccountsFor (outline : Outline) (content : String) : Prop where
  counted : outline.lines = (textLines content.toList).length
  marks : outline.documentationBlocks = (textLines content.toList).countP isDocumentation
  recorded : ∀ number kind name,
    (∃ declaration ∈ outline.declarations,
      declaration.line = number ∧ declaration.kind = kind ∧ declaration.name = name) ↔
        ∃ line, IsLineAt content number line ∧ LineKind.of line = .declaration kind name
  ascending : outline.declarations.Pairwise fun first second => first.line < second.line
  within : ∀ declaration ∈ outline.declarations,
    1 ≤ declaration.line ∧ declaration.line ≤ outline.lines
  documented : ∀ before declaration after,
    outline.declarations = before ++ declaration :: after →
      (declaration.documented = true ↔
        ∃ number line, IsLineAt content number line ∧ isDocumentation line = true ∧
          (∀ previous ∈ before.getLast?, previous.line < number) ∧ number < declaration.line)
  enoughMarks : outline.declarations.countP Declaration.documented ≤ outline.documentationBlocks
  apart : outline.documentationBlocks + outline.includes.length + outline.declarations.length ≤
    outline.lines
  tables : outline.tables.Pairwise (· < ·)
  single : outline.tables.Nodup

/-- The outline of a text accounts for it. -/
theorem Outline.of_accountsFor (content : String) : (Outline.of content).AccountsFor content where
  counted := List.length_map ..
  marks := by
    rw [Outline.of, List.count_eq_countP, List.countP_map]
    apply List.countP_congr
    intro line _
    simp [LineKind.of_eq_documentation_iff]
  recorded number kind name := by
    rw [← isLineAt_map_iff]
    exact exists_mem_declarationsFrom_iff
  ascending := pairwise_declarationsFrom 1 false _
  within declaration member := by
    obtain ⟨least, most⟩ := line_of_mem_declarationsFrom member
    refine ⟨least, ?_⟩
    change declaration.line ≤ List.length _
    omega
  documented _ _ _ split := Outline.documented_of_iff split
  enoughMarks := countP_documented_le 1 false _
  apart := by
    have whole := length_eq_sum_of_kinds 1 false ((textLines content.toList).map LineKind.of)
    rw [Outline.of]
    dsimp only
    omega
  tables := pairwise_nameSet _
  single := (pairwise_nameSet _).imp fun before => ne_of_lt before

end RoutineAtlas
