import RoutineAtlas.Outline.Flowchart
import RoutineAtlas.Proofs.Outline.Account
import RoutineAtlas.Proofs.Outline.DeclarationParts

/-
This file settles which nodes of a flowchart share an identifier. The kinds are told apart by their
letters, and the names of one kind by their characters, except for two signs that the names of
functions may have and identifiers do not.
-/

namespace RoutineAtlas

/-- Two nodes share an identifier when they are of one kind and their names do not differ in
letters and digits of ASCII. -/
theorem nodeIdentifier_eq_iff {kind other : NodeKind} {name second : String} :
    nodeIdentifier kind name = nodeIdentifier other second ↔
      kind = other ∧ name.map identifierCharacter = second.map identifierCharacter := by
  simp only [nodeIdentifier, ← String.toList_inj, String.toList_append]
  cases kind <;> cases other <;> simp [NodeKind.letter]

/-- These two characters fold to letters of ASCII and are none themselves. -/
def isFoldedSign (character : Char) : Bool :=
  character == Char.ofNat 0x17F || character == Char.ofNat 0x212A

/-- An underscore takes the place of each of these signs. -/
def withoutSigns (name : String) : String :=
  name.map fun character => if isFoldedSign character then '_' else character

theorem withoutSigns_of_plain {name : String}
    (plain : ∀ character ∈ name.toList, isFoldedSign character = false) :
    withoutSigns name = name := by
  rw [withoutSigns, ← String.toList_inj, String.toList_map]
  conv_rhs => rw [← List.map_id name.toList]
  apply List.map_congr_left
  intro character member
  rw [plain character member]
  rfl

/-- In the name of a function an identifier misses the signs alone. -/
theorem identifierCharacter_of_continuesName {character : Char}
    (goesOn : continuesName character = true) :
    identifierCharacter character = if isFoldedSign character then '_' else character := by
  obtain rfl | rfl | ascii := continuesName_cases goesOn
  · decide
  · decide
  · exact of_ascii (fun letter => continuesName letter = true →
      identifierCharacter letter = if isFoldedSign letter then '_' else letter)
        (by decide +kernel) ascii goesOn

/-- The name of a table has these characters. -/
def belongsToTable (character : Char) : Bool :=
  isAliasCharacter character || character == '_'

theorem ascii_of_belongsToTable {character : Char} (inside : belongsToTable character = true) :
    character.toNat < 0x80 := by
  simp only [belongsToTable, isAliasCharacter, Bool.or_eq_true, beq_iff_eq] at inside
  obtain (capital | digit) | rfl := inside
  · exact ascii_of_isUpper capital
  · exact ascii_of_isDigit digit
  · decide

/-- An identifier keeps the whole name of a table. -/
theorem identifierCharacter_of_belongsToTable {character : Char}
    (inside : belongsToTable character = true) :
    identifierCharacter character = character ∧ isFoldedSign character = false :=
  of_ascii (fun letter => belongsToTable letter = true →
    identifierCharacter letter = letter ∧ isFoldedSign letter = false)
      (by decide +kernel) (ascii_of_belongsToTable inside) inside

theorem belongsToTable_of_aliasBeforeArrow {text : List Char} {name : String}
    (read : aliasBeforeArrow text = some name) :
    ∀ character ∈ name.toList, belongsToTable character = true := by
  unfold aliasBeforeArrow at read
  split at read
  · rename_i first second third rest
    split at read
    · rename_i isAlias
      simp only [Bool.and_eq_true] at isAlias
      obtain ⟨⟨⟨capital, secondInside⟩, thirdInside⟩, _⟩ := isAlias
      obtain rfl := Option.some.inj read
      have firstInside : isAliasCharacter first = true := by simp [isAliasCharacter, capital]
      simp [belongsToTable, firstInside, secondInside, thirdInside]
    · exact absurd read (by simp)
  · exact absurd read (by simp)

theorem belongsToTable_of_selectedArea {text : List Char} {name : String}
    (read : selectedArea text = some name) :
    ∀ character ∈ name.toList, belongsToTable character = true := by
  simp only [selectedArea, Option.bind_eq_bind, Option.bind_eq_some_iff,
    Option.ite_none_left_eq_some, Option.some.injEq] at read
  obtain ⟨_, _, _, _, quoted, _, _, _, _, rfl⟩ := read
  intro character member
  rw [String.toList_ofList] at member
  exact List.mem_takeWhile_imp member

theorem exists_of_mem_aliasesBeforeArrows {afterWord : Bool} {text : List Char} {name : String}
    (member : name ∈ aliasesBeforeArrows afterWord text) :
    ∃ rest, aliasBeforeArrow rest = some name := by
  induction text generalizing afterWord with
  | nil => exact absurd member List.not_mem_nil
  | cons character rest inductionHypothesis =>
      rw [aliasesBeforeArrows] at member
      split at member
      · rename_i first read
        obtain rfl | later := List.mem_cons.mp member
        · split at read
          · exact absurd read (by simp)
          · exact ⟨_, read⟩
        · exact inductionHypothesis later
      · exact inductionHypothesis member

theorem exists_of_mem_selectedAreas {text : List Char} {name : String}
    (member : name ∈ selectedAreas text) : ∃ rest, selectedArea rest = some name := by
  induction text with
  | nil => exact absurd member List.not_mem_nil
  | cons character rest inductionHypothesis =>
      rw [selectedAreas] at member
      split at member
      · rename_i first read
        obtain rfl | later := List.mem_cons.mp member
        · exact ⟨_, read⟩
        · exact inductionHypothesis later
      · exact inductionHypothesis member

/-- The tables of a source have names in capital letters, digits and underscores. -/
theorem belongsToTable_of_mem_tablesOf {content name : String} (member : name ∈ tablesOf content) :
    ∀ character ∈ name.toList, belongsToTable character = true := by
  rw [tablesOf, mem_nameSet] at member
  obtain before | selected := List.mem_append.mp (List.mem_filter.mp member).1
  · obtain ⟨_, read⟩ := exists_of_mem_aliasesBeforeArrows before
    exact belongsToTable_of_aliasBeforeArrow read
  · obtain ⟨_, read⟩ := exists_of_mem_selectedAreas selected
    exact belongsToTable_of_selectedArea read

/-- What a line declares has an identifier for its name. -/
theorem isIdentifier_of_declares {line : List Char} {kind : DeclarationKind} {name : String}
    (declares : LineKind.of line = .declaration kind name) : IsIdentifier name := by
  have declared : declarationOf line = some (kind, name) := by
    rw [LineKind.of] at declares
    split at declares
    · exact LineKind.noConfusion declares
    · split at declares
      · exact LineKind.noConfusion declares
      · split at declares
        · rename_i found
          obtain ⟨rfl, rfl⟩ := LineKind.declaration.inj declares
          exact found
        · exact LineKind.noConfusion declares
  obtain ⟨keyword, _, own⟩ := List.exists_of_findSome?_eq_some declared
  simp only [declaredBy, Option.bind_eq_bind, Option.bind_eq_some_iff, Option.pure_def,
    Option.some.injEq, Prod.mk.injEq] at own
  obtain ⟨_, _, _, ⟨_, _, read⟩, _, rfl⟩ := own
  exact (leadingName_eq_some_iff.mp read).1

/-- The declarations of an outline have identifiers for their names. -/
theorem Outline.isIdentifier_of_mem {content : String} {declaration : Declaration}
    (member : declaration ∈ (Outline.of content).declarations) :
    IsIdentifier declaration.name := by
  have recorded := exists_mem_declarationsFrom_iff.mp ⟨declaration, member, rfl, rfl, rfl⟩
  obtain ⟨_, _, declares⟩ := isLineAt_map_iff.mp recorded
  exact isIdentifier_of_declares declares

/-- A node is drawn with its identifier and its name, and every node but that of the routine hangs
on the routine. -/
def drawnNode (routine : String) : NodeKind × String → String
  | (.routine, name) => "    " ++ nodeIdentifier .routine name ++ "[\"" ++ name ++ "\"]\n"
  | (.function, name) =>
      "    " ++ nodeIdentifier .routine routine ++ " --> " ++
        nodeIdentifier .function name ++ "[\"" ++ name ++ "()\"]\n"
  | (.table, name) => tableEdge routine name

/-- A flowchart draws its nodes one after the other. -/
theorem Outline.flowchart_eq (outline : Outline) (routine : String) :
    outline.flowchart routine =
      "flowchart TD\n" ++ String.join ((outline.nodes routine).map (drawnNode routine)) := by
  simp only [Outline.flowchart, Outline.nodes, List.map_append, List.map_cons, List.map_map,
    List.cons_append, List.nil_append, String.join_cons]
  rfl

theorem Outline.mem_nodes_iff {outline : Outline} {routine : String} {node : NodeKind × String} :
    node ∈ outline.nodes routine ↔
      node = (.routine, routine) ∨
        (∃ declaration ∈ outline.declarations, declaration.kind.isDrawn = true ∧
          node = (.function, declaration.name)) ∨
        ∃ table ∈ outline.tables, node = (.table, table) := by
  simp only [Outline.nodes, List.cons_append, List.mem_cons, List.mem_append, List.mem_map,
    List.mem_filter, and_assoc, eq_comm]

theorem Outline.eq_routine_of_mem_nodes {outline : Outline} {routine : String}
    {node : NodeKind × String} (member : node ∈ outline.nodes routine) (own : node.1 = .routine) :
    node = (.routine, routine) := by
  obtain same | ⟨_, _, _, rfl⟩ | ⟨_, _, rfl⟩ := Outline.mem_nodes_iff.mp member
  · exact same
  · exact NodeKind.noConfusion own
  · exact NodeKind.noConfusion own

/-- The names of functions and tables have the characters that their recognisers take. -/
theorem Outline.character_of_mem_nodes {content routine : String} {node : NodeKind × String}
    (member : node ∈ (Outline.of content).nodes routine) (other : node.1 ≠ .routine)
    {character : Char} (inside : character ∈ node.2.toList) :
    node.1 = .function ∧ continuesName character = true ∨ belongsToTable character = true := by
  obtain rfl | ⟨declaration, declared, _, rfl⟩ | ⟨table, touched, rfl⟩ :=
    Outline.mem_nodes_iff.mp member
  · exact absurd rfl other
  · exact Or.inl ⟨rfl, (Outline.isIdentifier_of_mem declared).2 character inside⟩
  · exact Or.inr (belongsToTable_of_mem_tablesOf touched character inside)

/-- In the name of a function or a table an identifier misses the signs alone. -/
theorem Outline.identifier_of_mem_nodes {content routine : String} {node : NodeKind × String}
    (member : node ∈ (Outline.of content).nodes routine) (other : node.1 ≠ .routine) :
    node.2.map identifierCharacter = withoutSigns node.2 := by
  rw [withoutSigns, ← String.toList_inj, String.toList_map, String.toList_map]
  apply List.map_congr_left
  intro character inside
  obtain ⟨_, goesOn⟩ | table := Outline.character_of_mem_nodes member other inside
  · exact identifierCharacter_of_continuesName goesOn
  · obtain ⟨keeps, noSign⟩ := identifierCharacter_of_belongsToTable table
    rw [keeps, noSign, if_neg Bool.false_ne_true]

/-- Two nodes of the flowchart of a source share an identifier exactly when they are of one kind
and their names are the same but for the signs. -/
theorem Outline.nodeIdentifier_eq_iff_withoutSigns {content routine : String}
    {first second : NodeKind × String} (member : first ∈ (Outline.of content).nodes routine)
    (memberToo : second ∈ (Outline.of content).nodes routine) :
    nodeIdentifier first.1 first.2 = nodeIdentifier second.1 second.2 ↔
      first.1 = second.1 ∧ withoutSigns first.2 = withoutSigns second.2 := by
  rw [nodeIdentifier_eq_iff]
  apply and_congr_right
  intro kinds
  by_cases own : first.1 = .routine
  · rw [Outline.eq_routine_of_mem_nodes member own,
      Outline.eq_routine_of_mem_nodes memberToo (kinds.symm.trans own)]
    exact iff_of_true rfl rfl
  · rw [Outline.identifier_of_mem_nodes member own,
      Outline.identifier_of_mem_nodes memberToo (kinds ▸ own)]

/-- The node is not that of a function whose name has one of the signs. -/
def IsPlainNode (node : NodeKind × String) : Prop :=
  node.1 = .function → ∀ character ∈ node.2.toList, isFoldedSign character = false

/-- A plain node of a table or a function has no sign in its name. -/
theorem Outline.withoutSigns_of_mem_nodes {content routine : String} {node : NodeKind × String}
    (member : node ∈ (Outline.of content).nodes routine) (other : node.1 ≠ .routine)
    (plain : IsPlainNode node) : withoutSigns node.2 = node.2 := by
  apply withoutSigns_of_plain
  intro character inside
  obtain ⟨function, _⟩ | table := Outline.character_of_mem_nodes member other inside
  · exact plain function character inside
  · exact (identifierCharacter_of_belongsToTable table).2

/-- Two nodes share an identifier exactly when they are of one kind and differ at most in the signs.
-/
theorem Outline.flowchart_tells_nodes_apart (content routine : String) :
    (Outline.of content).flowchart routine = "flowchart TD\n" ++
      String.join (((Outline.of content).nodes routine).map (drawnNode routine)) ∧
    ∀ first ∈ (Outline.of content).nodes routine, ∀ second ∈ (Outline.of content).nodes routine,
      (nodeIdentifier first.1 first.2 = nodeIdentifier second.1 second.2 ↔
        first.1 = second.1 ∧ withoutSigns first.2 = withoutSigns second.2) ∧
      (IsPlainNode first → IsPlainNode second →
        nodeIdentifier first.1 first.2 = nodeIdentifier second.1 second.2 → first = second) := by
  refine ⟨(Outline.of content).flowchart_eq routine, ?_⟩
  intro first member second memberToo
  have shared := Outline.nodeIdentifier_eq_iff_withoutSigns member memberToo
  refine ⟨shared, ?_⟩
  intro plain plainToo same
  obtain ⟨kinds, names⟩ := shared.mp same
  by_cases own : first.1 = .routine
  · rw [Outline.eq_routine_of_mem_nodes member own,
      Outline.eq_routine_of_mem_nodes memberToo (kinds.symm.trans own)]
  · rw [Outline.withoutSigns_of_mem_nodes member own plain,
      Outline.withoutSigns_of_mem_nodes memberToo (kinds ▸ own) plainToo] at names
    exact Prod.ext kinds names

/-- A long s and an underscore at the same place of two names lead to one identifier. -/
theorem Outline.long_s_shares_identifier :
    ¬ ∀ content routine, ∀ first ∈ (Outline.of content).nodes routine,
      ∀ second ∈ (Outline.of content).nodes routine,
        nodeIdentifier first.1 first.2 = nodeIdentifier second.1 second.2 → first = second := by
  intro tellsApart
  have declared : (Outline.of "Function A_()\nFunction A\u017f()").declarations =
      [{ kind := .function, name := "A_", line := 1, documented := false },
        { kind := .function, name := "A\u017f", line := 2, documented := false }] := by
    decide
  have drawn (name : String) (member : name ∈ ["A_", "A\u017f"]) : (NodeKind.function, name) ∈
      (Outline.of "Function A_()\nFunction A\u017f()").nodes "R" := by
    refine Outline.mem_nodes_iff.mpr (Or.inr (Or.inl ?_))
    rw [declared]
    have isDrawn : DeclarationKind.function.isDrawn = true := rfl
    simpa [isDrawn] using member
  have shared : nodeIdentifier .function "A_" = nodeIdentifier .function "A\u017f" := by
    refine nodeIdentifier_eq_iff.mpr ⟨rfl, ?_⟩
    rw [← String.toList_inj, String.toList_map, String.toList_map]
    decide
  have same := tellsApart _ "R" _ (drawn "A_" (by simp)) _ (drawn "A\u017f" (by simp)) shared
  exact absurd same (by decide)

end RoutineAtlas
