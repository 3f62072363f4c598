import RoutineAtlas.Proofs.Files.SourceHead
import RoutineAtlas.Proofs.Origin.Restart

/-
This file settles what a classification sees of a source. It sees the head, and what stands behind
the inspected lines makes no difference.
-/

namespace RoutineAtlas

theorem Classifier.SeesAlike.refl (classifier : Classifier) (tree : FileTree) :
    classifier.SeesAlike tree tree :=
  ⟨fun _ _ => rfl, fun _ _ _ _ => rfl⟩

/-- From trees that look alike the same leads are discovered. -/
theorem Classifier.SeesAlike.discover {classifier : Classifier} {tree other : FileTree}
    (alike : classifier.SeesAlike tree other) :
    classifier.discover tree = classifier.discover other := by
  rw [Classifier.discover, Classifier.discover, alike.learnLeads]

/-- Sources with the same first lines have the same inspected head. -/
theorem inspectedHead_congr {tree other : FileTree} {path otherPath : PathName}
    {content otherContent : Bytes} (readable : tree.read path = .ok content)
    (readableToo : other.read otherPath = .ok otherContent)
    (same : (byteLines content).take inspectedLines =
      (byteLines otherContent).take inspectedLines) :
    inspectedHead tree path = inspectedHead other otherPath := by
  rw [inspectedHead_of_read readable, inspectedHead_of_read readableToo, sourceHead_congr same]

/-- A classification depends on its source through the inspected head only. -/
theorem Classifier.SeesAlike.classify {classifier : Classifier} {tree other : FileTree}
    (alike : classifier.SeesAlike tree other) {path otherPath : PathName}
    (same : inspectedHead tree path = inspectedHead other otherPath) (name : RoutineName) :
    classifier.classify tree name (some path) =
      classifier.classify other name (some otherPath) := by
  have decision (discovered : List String) :
      freshDecision tree discovered name.key (some path) =
        freshDecision other discovered name.key (some otherPath) := by
    simp only [freshDecision, same]
  obtain ⟨marked, answer⟩ | ⟨unmarked, origin, decided, answer⟩ |
      ⟨unmarked, undecided, answer⟩ := classifier.classify_cases tree name (some path)
  · rw [answer, Classifier.classify_of_isMarked marked]
  · rw [answer, Classifier.classify_of_decided unmarked decided]
  · rw [answer, Classifier.classify_of_undecided unmarked undecided, alike.discover]
    dsimp only
    rw [decision]
    rfl

/-- The head of a content shows its first lines and depends on nothing behind them. -/
theorem sourceHead_shows_first_lines (content : Bytes) (limit : Nat) :
    lineCount '\n' (sourceHead limit content).toList = min limit (lineCount 10 content) ∧
    (∀ front rest, content = front ++ rest → limit ≤ front.count 10 →
      ∀ other, sourceHead limit (front ++ other) = sourceHead limit content) ∧
    (∀ more, limit ≤ more →
      (sourceHead limit content).toList <+: (sourceHead more content).toList) ∧
    (IsWellFormed content →
      (sourceHead limit content).toList =
        ((textLines (decodeSource content).toList).take limit).flatMap
          fun line => line ++ ['\n']) ∧
    ∀ (tree : FileTree) (path : PathName), tree.read path = .ok content →
      ∀ (other : FileTree) (otherPath : PathName) (otherContent : Bytes),
        other.read otherPath = .ok otherContent →
        (byteLines content).take inspectedLines = (byteLines otherContent).take inspectedLines →
          ∀ (classifier : Classifier) (name : RoutineName),
            other = tree ∨ classifier.SeesAlike tree other →
              classifier.classify tree name (some path) =
                classifier.classify other name (some otherPath) := by
  refine ⟨lineCount_sourceHead limit content, ?_,
    fun more fewer => sourceHead_isPrefix fewer content,
    fun formed => toList_sourceHead_of_isWellFormed formed limit, ?_⟩
  · rintro front rest rfl ended other
    apply sourceHead_congr
    rw [take_byteLines_append ended, take_byteLines_append ended]
  · intro tree path readable other otherPath otherContent readableToo same classifier name trees
    have heads := inspectedHead_congr readable readableToo same
    have alike : classifier.SeesAlike tree other := by
      obtain rfl | alike := trees
      · exact Classifier.SeesAlike.refl classifier other
      · exact alike
    exact alike.classify heads name

/-- The text stands behind as many empty lines as are inspected. -/
def behindInspectedLines (text : String) : Bytes :=
  List.replicate inspectedLines 10 ++ utf8Bytes text

theorem isWellFormed_behindInspectedLines (text : String) :
    IsWellFormed (behindInspectedLines text) := by
  refine isWellFormed_iff.mpr ⟨String.ofList (List.replicate inspectedLines '\n') ++ text, ?_⟩
  have feed : String.utf8EncodeChar '\n' = [10] := by decide
  rw [behindInspectedLines, utf8Bytes_eq_flatMap, utf8Bytes_eq_flatMap, String.toList_append,
    String.toList_ofList, List.flatMap_append, List.flatMap_replicate, feed,
    List.flatten_replicate_singleton]

/-- One source of this tree declares a user function far below, and one has empty lines only. -/
def lateSources : FileTree where
  top := .directory { entries := [("A.prw", .file (behindInspectedLines "User Function A()")),
    ("B.prw", .file (behindInspectedLines ""))] }
  workingDirectory := "/"

theorem read_lateSources :
    lateSources.read "/A.prw" = .ok (behindInspectedLines "User Function A()") ∧
      lateSources.read "/B.prw" = .ok (behindInspectedLines "") :=
  ⟨FileTree.read_of_entry (FileTree.entry_of_steps rfl ["A.prw"] rfl
      (Entry.searchable_singleton rfl _) (by simp) (by decide) (by simp) (by decide) (by decide)),
    FileTree.read_of_entry (FileTree.entry_of_steps rfl ["B.prw"] rfl
      (Entry.searchable_singleton rfl _) (by simp) (by decide) (by simp) (by decide) (by decide))⟩

/-- A declaration behind the inspected lines is not seen. -/
theorem late_declaration_not_seen :
    let late := behindInspectedLines "User Function A()"
    let feeds : Bytes := List.replicate inspectedLines 10
    late = feeds ++ utf8Bytes "User Function A()" ∧ inspectedLines ≤ feeds.count 10 ∧
      sourceHead inspectedLines (behindInspectedLines "") = sourceHead inspectedLines late ∧
      inspectedLines ≤ 201 ∧
      (sourceHead inspectedLines late).toList <+: (sourceHead 201 late).toList ∧
      IsWellFormed late ∧
      (sourceHead inspectedLines late).toList =
        ((textLines (decodeSource late).toList).take inspectedLines).flatMap
          (fun line => line ++ ['\n']) ∧
      lateSources.read "/A.prw" = .ok late ∧
      lateSources.read "/B.prw" = .ok (behindInspectedLines "") ∧
      (byteLines late).take inspectedLines =
        (byteLines (behindInspectedLines "")).take inspectedLines ∧
      ∀ classifier name, Classifier.classify classifier lateSources name (some "/A.prw") =
        classifier.classify lateSources name (some "/B.prw") := by
  intro late feeds
  have ended : inspectedLines ≤ feeds.count 10 := by rw [List.count_replicate_self]
  have empty (text : String) : (byteLines (behindInspectedLines text)).take inspectedLines =
      (byteLines feeds).take inspectedLines :=
    take_byteLines_append ended (utf8Bytes text)
  have same := (empty "User Function A()").trans (empty "").symm
  obtain ⟨readable, readableToo⟩ := read_lateSources
  have formed := isWellFormed_behindInspectedLines "User Function A()"
  obtain ⟨_, before, longer, encoded, classified⟩ :=
    sourceHead_shows_first_lines late inspectedLines
  refine ⟨rfl, ended, before feeds _ rfl ended _, by decide, longer 201 (by decide), formed,
    encoded formed, readable, readableToo, same, ?_⟩
  intro classifier name
  exact classified _ _ readable _ _ _ readableToo same classifier name (Or.inl rfl)

end RoutineAtlas
