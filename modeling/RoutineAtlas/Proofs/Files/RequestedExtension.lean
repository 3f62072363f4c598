import RoutineAtlas.Proofs.Files.Parts
import RoutineAtlas.Proofs.Files.Reporting
import RoutineAtlas.Proofs.Files.SourcePath
import RoutineAtlas.Proofs.Routine.Stages
import RoutineAtlas.Proofs.Text.LowerCase

/-
This file settles which files with a requested extension a scan lists. The extensions are stored in
lower case and compared without regard to the case of ASCII letters, so that an extension with a
capital beyond ASCII is never found.
-/

namespace RoutineAtlas

/-- A requested extension may be typed with dots in front. -/
def withoutLeadingDots (typed : String) : String :=
  String.ofList (typed.toList.dropWhile (· == '.'))

/-- A plan keeps the lower case of each requested extension without its leading dots. -/
theorem ScanPlan.ofExtensions_eq (typed : List String) (depth : Nat) :
    ScanPlan.ofExtensions typed depth =
      { extensions := (typed.map withoutLeadingDots).map lowerCase, depth } := by
  rw [List.map_map]
  rfl

/-- Extensions agree without their leading dots as they do with them. -/
theorem agreesIgnoringCase_withoutLeadingDots {first second : String}
    (agree : agreesIgnoringCase first second = true) :
    agreesIgnoringCase (withoutLeadingDots first) (withoutLeadingDots second) = true := by
  have dots : (· == '.') ∘ Char.toUpper = (· == '.') := by
    funext character
    have dot : character.toUpper = '.' ↔ character = '.' := toUpper_eq_iff (by decide) (by decide)
    simp [dot]
  have dropped (text : List Char) :
      asciiUpper (text.dropWhile (· == '.')) = (asciiUpper text).dropWhile (· == '.') := by
    rw [asciiUpper, asciiUpper, List.dropWhile_map, dots]
  rw [agreesIgnoringCase_iff] at agree ⊢
  rw [withoutLeadingDots, withoutLeadingDots, String.toList_ofList, String.toList_ofList, dropped,
    dropped, agree]

/-- Requests that differ in the case of ASCII letters at most make the same plan. -/
theorem ScanPlan.ofExtensions_congr {typed other : List String}
    (agree : List.Forall₂ (fun first second => agreesIgnoringCase first second = true) typed other)
    (depth : Nat) : ScanPlan.ofExtensions typed depth = ScanPlan.ofExtensions other depth := by
  have same : (typed.map withoutLeadingDots).map lowerCase =
      (other.map withoutLeadingDots).map lowerCase := by
    induction agree with
    | nil => rfl
    | cons first _ inductionHypothesis =>
        have stored := lowerCase_congr (agreesIgnoringCase_withoutLeadingDots first)
        simp only [List.map_cons, stored, inductionHypothesis]
  rw [ScanPlan.ofExtensions_eq, ScanPlan.ofExtensions_eq, same]

/-- A name with a requested extension is wanted exactly when the extension has no capital beyond
ASCII. -/
theorem ScanPlan.wantsName_ofExtensions_iff {typed : List String} {depth : Nat}
    {name : PathName} {extension : String}
    (shown : nameExtension? name = some (utf8Bytes extension))
    (requested : extension ∈ typed.map withoutLeadingDots) :
    (ScanPlan.ofExtensions typed depth).WantsName name ↔ ¬ HasCapitalBeyondAscii extension := by
  rw [ScanPlan.WantsName, ScanPlan.ofExtensions_eq, shown]
  constructor
  · rintro ⟨text, same, known, member, agree⟩
    obtain rfl := utf8Bytes_injective (Option.some.inj same)
    obtain ⟨typedText, _, rfl⟩ := List.mem_map.mp member
    exact not_hasCapitalBeyondAscii_of_agrees agree
  · intro small
    exact ⟨extension, rfl, lowerCase extension, List.mem_map_of_mem requested,
      agreesIgnoringCase_lowerCase_iff.mpr small⟩

/-- These regular files are in the scope of a scan, with their paths and names: the root, when it is
a file, and the files below it that lie no deeper than the depth and in no ignored directory. -/
inductive FileTree.InScope (tree : FileTree) (root : PathName) (depth : Nat) :
    (path name : PathName) → Prop where
  | itself {content : Bytes} {name : PathName}
      (file : tree.entryItself root = .ok (.file content))
      (named : pathFileName? root = some name) : InScope tree root depth root name
  | below {folder : Folder Entry} {steps : List PathName} {content : Bytes}
      {name : PathName} (isRoot : tree.entry root = .ok (.directory folder))
      (file : (Entry.directory folder).at? steps = some (.file content))
      (named : steps.getLast? = some name) (within : steps.length ≤ depth)
      (noneIgnored : ∀ step ∈ steps.dropLast, isIgnoredDirectory step = false) :
      InScope tree root depth (joinSteps root steps) name

/-- The scan of a directory reports one above the path at which its way is barred. -/
def Scan.ReportsAbove (scan : Scan) (tree : FileTree) (root path : PathName) : Prop :=
  ∃ folder above rest fault, tree.entry root = .ok (.directory folder) ∧
    IsBarred root folder above fault ∧ .refused (joinSteps root above) fault ∈ scan.skipped ∧
      rest ≠ [] ∧ path = joinSteps root (above ++ rest)

/-- A scan lists a wanted file in its scope, or it reports a directory above it. -/
theorem ScanPlan.mem_files_or_reportsAbove {plan : ScanPlan} {tree : FileTree}
    {root path name : PathName} (inScope : tree.InScope root plan.depth path name)
    (wanted : plan.WantsName name) :
    path ∈ (plan.scan tree root).files ∨ (plan.scan tree root).ReportsAbove tree root path := by
  cases inScope with
  | itself file named =>
      left
      have extension : pathExtension? root = nameExtension? name := by
        rw [pathExtension?, named, Option.bind_some]
      rw [ScanPlan.scan, file, extension]
      exact List.mem_ite_nil_right.mpr
        ⟨ScanPlan.wantsName_iff.mp wanted, List.mem_singleton_self _⟩
  | @below folder steps content name isRoot file named within noneIgnored =>
      have sought : plan.Seeks plan.depth folder steps :=
        ⟨⟨content, file⟩, within, ⟨name, named, wanted⟩, noneIgnored⟩
      obtain lists | ⟨above, rest, fault, whole, more, barred, reported⟩ :=
        ScanPlan.lists_or_reports sought
      · left
        exact (ScanPlan.mem_scan_files_iff isRoot).mpr ⟨_, lists, rfl⟩
      · right
        rw [ScanPlan.scan_of_directory plan isRoot]
        exact ⟨folder, above, rest, fault, isRoot, barred, reported, more, by rw [whole]⟩

/-- In a well-named tree a scan lists of the files in its scope wanted ones only. -/
theorem ScanPlan.wantsName_of_mem_files {plan : ScanPlan} {tree : FileTree}
    (wellNamed : tree.top.WellNamed) {root path name : PathName}
    (inScope : tree.InScope root plan.depth path name)
    (listed : path ∈ (plan.scan tree root).files) : plan.WantsName name := by
  cases inScope with
  | itself file named =>
      rw [ScanPlan.scan, file] at listed
      have wanted := (List.mem_ite_nil_right.mp listed).1
      rw [pathExtension?, named, Option.bind_some] at wanted
      exact ScanPlan.wantsName_iff.mpr wanted
  | @below folder steps content name isRoot file named within noneIgnored =>
      have moves : steps ≠ [] := by
        rintro rfl
        simp at named
      have steps := (Entry.wellNamed_iff.mp (wellNamed.resolve isRoot)).of_at? file
      have lists := ScanPlan.lists_of_mem_scan wellNamed isRoot moves steps listed
      obtain ⟨last, ends, wanted⟩ := lists.wanted
      obtain rfl := Option.some.inj (named.symm.trans ends)
      exact wanted

/-- A literally requested extension is listed unless it has a capital beyond ASCII. -/
theorem ScanPlan.requested_listed_unless_capital (typed : List String) (depth : Nat)
    {tree : FileTree} (wellNamed : tree.top.WellNamed) (root : PathName) :
    (∀ path name extension, tree.InScope root depth path name →
      nameExtension? name = some (utf8Bytes extension) →
      extension ∈ typed.map withoutLeadingDots →
        (¬ HasCapitalBeyondAscii extension →
          path ∈ ((ScanPlan.ofExtensions typed depth).scan tree root).files ∨
            ((ScanPlan.ofExtensions typed depth).scan tree root).ReportsAbove tree root path) ∧
        (HasCapitalBeyondAscii extension →
          path ∉ ((ScanPlan.ofExtensions typed depth).scan tree root).files)) ∧
    ∀ other, List.Forall₂ (fun first second => agreesIgnoringCase first second = true) typed other →
      (ScanPlan.ofExtensions typed depth).scan tree root =
        (ScanPlan.ofExtensions other depth).scan tree root := by
  constructor
  · intro path name extension inScope shown requested
    have wanted := @ScanPlan.wantsName_ofExtensions_iff typed depth name extension shown requested
    constructor
    · intro small
      exact ScanPlan.mem_files_or_reportsAbove inScope (wanted.mpr small)
    · intro capital listed
      exact wanted.mp (ScanPlan.wantsName_of_mem_files wellNamed inScope listed) capital
  · intro other agree
    rw [ScanPlan.ofExtensions_congr agree depth]

/-- A tree with two files whose extensions are the same but for the case of one letter. -/
def extensionsInTwoCases : FileTree where
  top := .directory { entries := [("x.ção", .file []), ("x.Ção", .file [])] }
  workingDirectory := "/"

theorem wellNamed_extensionsInTwoCases : extensionsInTwoCases.top.WellNamed :=
  Entry.wellNamed_flat (by decide) (by decide)

/-- A file that lies directly below the top is in the scope of a scan from there. -/
theorem inScope_extensionsInTwoCases {path name : PathName} {content : Bytes}
    (file : extensionsInTwoCases.top.at? [name] = some (.file content))
    (same : joinPath "/" name = path) : extensionsInTwoCases.InScope "/" 1 path name := by
  subst same
  exact FileTree.InScope.below (FileTree.entry_slash rfl) file rfl (Nat.le_refl 1) (by simp)

/-- The file with the small letter is listed and the other one is not, however the request is typed.
-/
theorem ScanPlan.small_extension_listed :
    let typed := ["..ção", "Ção"]
    let other := ["..çãO", "ÇãO"]
    let scan := (ScanPlan.ofExtensions typed 1).scan extensionsInTwoCases "/"
    extensionsInTwoCases.top.WellNamed ∧
      extensionsInTwoCases.InScope "/" 1 "/x.ção" "x.ção" ∧
      extensionsInTwoCases.InScope "/" 1 "/x.Ção" "x.Ção" ∧
      nameExtension? "x.ção" = some (utf8Bytes "ção") ∧
      nameExtension? "x.Ção" = some (utf8Bytes "Ção") ∧
      typed.map withoutLeadingDots = ["ção", "Ção"] ∧
      ¬ HasCapitalBeyondAscii "ção" ∧ HasCapitalBeyondAscii "Ção" ∧
      utf8Bytes "/x.ção" ∈ scan.files ∧ utf8Bytes "/x.Ção" ∉ scan.files ∧
      List.Forall₂ (fun first second => agreesIgnoringCase first second = true) typed other ∧
      scan = (ScanPlan.ofExtensions other 1).scan extensionsInTwoCases "/" := by
  intro typed other scan
  obtain ⟨requested, alike⟩ :=
    ScanPlan.requested_listed_unless_capital typed 1 wellNamed_extensionsInTwoCases "/"
  have smallInScope : extensionsInTwoCases.InScope "/" 1 "/x.ção" "x.ção" :=
    inScope_extensionsInTwoCases rfl (by decide)
  have capitalInScope : extensionsInTwoCases.InScope "/" 1 "/x.Ção" "x.Ção" :=
    inScope_extensionsInTwoCases rfl (by decide)
  have bare : typed.map withoutLeadingDots = ["ção", "Ção"] := by decide
  have small : ¬ HasCapitalBeyondAscii "ção" := by decide
  have capital : HasCapitalBeyondAscii "Ção" := by decide
  have agree : List.Forall₂ (fun first second => agreesIgnoringCase first second = true)
      typed other := .cons (by decide) (.cons (by decide) .nil)
  have found := (requested _ _ "ção" smallInScope (by decide) (by simp [bare])).1 small
  have missed := (requested _ _ "Ção" capitalInScope (by decide) (by simp [bare])).2 capital
  refine ⟨wellNamed_extensionsInTwoCases, smallInScope, capitalInScope, by decide, by decide, bare,
    small, capital, ?_, missed, agree, alike other agree⟩
  obtain listed | ⟨folder, above, rest, fault, _, _, reported, _⟩ := found
  · exact listed
  · have isRoot : extensionsInTwoCases.entry "/" = .ok extensionsInTwoCases.top :=
      FileTree.entry_slash rfl
    rw [ScanPlan.scan_of_directory _ isRoot] at reported
    exact absurd reported List.not_mem_nil

/-- An extension that is requested as it is written is not found when it has a capital beyond ASCII.
-/
theorem ScanPlan.foreign_capital_not_listed :
    ¬ ∀ (typed : List String) (depth : Nat) (tree : FileTree) (root : PathName),
      tree.top.WellNamed →
        (∀ path name extension, tree.InScope root depth path name →
          nameExtension? name = some (utf8Bytes extension) →
          extension ∈ typed.map withoutLeadingDots →
            path ∈ ((ScanPlan.ofExtensions typed depth).scan tree root).files) ∧
        ∀ other,
          List.Forall₂ (fun first second => agreesIgnoringCase first second = true) typed other →
            (ScanPlan.ofExtensions typed depth).scan tree root =
              (ScanPlan.ofExtensions other depth).scan tree root := by
  intro claimed
  have requested : "Ção" ∈ ["Ção"].map withoutLeadingDots := by decide
  have shown : nameExtension? "x.Ção" = some (utf8Bytes "Ção") := by decide
  have inScope : extensionsInTwoCases.InScope "/" 1 "/x.Ção" "x.Ção" :=
    inScope_extensionsInTwoCases rfl (by decide)
  have listed := (claimed ["Ção"] 1 extensionsInTwoCases "/" wellNamed_extensionsInTwoCases).1 _ _ _
    inScope shown requested
  have wanted := ScanPlan.wantsName_of_mem_files wellNamed_extensionsInTwoCases inScope listed
  exact (ScanPlan.wantsName_ofExtensions_iff shown requested).mp wanted (by decide)

end RoutineAtlas
