import RoutineAtlas.Files.Tree
import Mathlib.Data.List.Basic

/-
This file relates the places of a tree to the paths that name them. Where names are proper steps,
different places below a root have different paths.
-/

namespace RoutineAtlas

/-- A name that comes before another differs from it. -/
theorem ne_of_nameLt {first second : PathName} (before : first < second) : second ≠ first := by
  rintro rfl
  exact List.lt_irrefl _ before

/-- Of two different names one comes before the other. -/
theorem nameLt_of_not_lt {first second : PathName} (notBefore : ¬ first < second)
    (apart : first ≠ second) : second < first :=
  Std.lt_of_le_of_ne (List.not_lt.mp notBefore) (Ne.symm apart)

/-- A name is inserted into an ascending listing, and takes the place of an entry of its name. -/
theorem mem_insertChild {child other : PathName × Entry} {children : List (PathName × Entry)}
    (ascending : children.Pairwise fun first second => first.1 < second.1) :
    other ∈ insertChild child children ↔
      other = child ∨ other ∈ children ∧ other.1 ≠ child.1 := by
  induction children with
  | nil => simp [insertChild]
  | cons first rest inductionHypothesis =>
      obtain ⟨least, later⟩ := List.pairwise_cons.mp ascending
      rw [insertChild]
      split
      · rename_i before
        have different : ∀ entry ∈ first :: rest, entry.1 ≠ child.1 := by
          intro entry member
          rcases List.mem_cons.mp member with rfl | member
          · exact ne_of_nameLt before
          · exact ne_of_nameLt (List.lt_trans before (least entry member))
        rw [List.mem_cons]
        exact or_congr_right ⟨fun member => ⟨member, different other member⟩, And.left⟩
      · split
        · rename_i same
          have different : ∀ entry ∈ rest, entry.1 ≠ child.1 := by
            intro entry member
            exact same ▸ ne_of_nameLt (least entry member)
          rw [List.mem_cons, List.mem_cons]
          constructor
          · rintro (equal | member)
            · exact Or.inl equal
            · exact Or.inr ⟨Or.inr member, different other member⟩
          · rintro (equal | ⟨rfl | member, apart⟩)
            · exact Or.inl equal
            · exact absurd same.symm apart
            · exact Or.inr member
        · rename_i apart
          rw [List.mem_cons, List.mem_cons, inductionHypothesis later]
          constructor
          · rintro (rfl | equal | ⟨member, different⟩)
            · exact Or.inr ⟨Or.inl rfl, fun same => apart same.symm⟩
            · exact Or.inl equal
            · exact Or.inr ⟨Or.inr member, different⟩
          · rintro (equal | ⟨rfl | member, different⟩)
            · exact Or.inr (Or.inl equal)
            · exact Or.inl rfl
            · exact Or.inr (Or.inr ⟨member, different⟩)

theorem insertChild_pairwise (child : PathName × Entry) {children : List (PathName × Entry)}
    (ascending : children.Pairwise fun first second => first.1 < second.1) :
    (insertChild child children).Pairwise fun first second => first.1 < second.1 := by
  induction children with
  | nil => simp [insertChild]
  | cons first rest inductionHypothesis =>
      obtain ⟨least, later⟩ := List.pairwise_cons.mp ascending
      rw [insertChild]
      split
      · rename_i before
        rw [List.pairwise_cons]
        refine ⟨?_, ascending⟩
        intro entry member
        rcases List.mem_cons.mp member with rfl | member
        · exact before
        · exact List.lt_trans before (least entry member)
      · rename_i notBefore
        split
        · rename_i same
          rw [List.pairwise_cons]
          exact ⟨fun entry member => same ▸ least entry member, later⟩
        · rename_i apart
          rw [List.pairwise_cons]
          refine ⟨?_, inductionHypothesis later⟩
          intro entry member
          rcases (mem_insertChild later).mp member with rfl | ⟨member, _⟩
          · exact nameLt_of_not_lt notBefore apart
          · exact least entry member

/-- A listing is in ascending order of names, so that each name stands in it once. -/
theorem listing_pairwise (folder : Folder Entry) :
    (listing folder).Pairwise fun first second => first.1 < second.1 := by
  rw [listing]
  split
  · induction folder.entries with
    | nil => exact .nil
    | cons child rest inductionHypothesis => exact insertChild_pairwise child inductionHypothesis
  · exact .nil

/-- A listing shows for each name the entry that the name stands for, if it may be made. -/
theorem mem_listing {name : PathName} {entry : Entry} {folder : Folder Entry} :
    (name, entry) ∈ listing folder ↔
      folder.mayList = true ∧ childNamed name folder = some entry := by
  obtain ⟨entries, mayList, maySearch⟩ := folder
  cases mayList with
  | false => simp [listing]
  | true =>
      simp only [true_and]
      induction entries with
      | nil => simp [listing, childNamed]
      | cons child rest inductionHypothesis =>
          have ascending := listing_pairwise { entries := rest, maySearch }
          simp only [listing, if_true, childNamed, List.foldr_cons]
            at ascending inductionHypothesis ⊢
          rw [mem_insertChild ascending, inductionHypothesis, List.lookup_cons]
          obtain ⟨first, shown⟩ := child
          by_cases same : name = first
          · simp [same, eq_comm]
          · have apart : (name == first) = false := by simp [same]
            simp [same, apart]

/-- The steps to a place are taken one after the other. -/
theorem Entry.at?_append (entry : Entry) (first second : List PathName) :
    entry.at? (first ++ second) = (entry.at? first).bind fun found => found.at? second := by
  induction first generalizing entry with
  | nil => simp [Entry.at?]
  | cons step rest inductionHypothesis =>
      cases entry with
      | directory folder =>
          rw [List.cons_append, Entry.at?, Entry.at?]
          cases childNamed step folder with
          | none => rfl
          | some child => exact inductionHypothesis child
      | file | device | link => rfl

/-- A child of a directory lies one step below it. -/
theorem Entry.at?_child {top child : Entry} {place : Place} {folder : Folder Entry}
    {step : PathName} (here : top.at? place = some (.directory folder))
    (named : childNamed step folder = some child) : top.at? (place ++ [step]) = some child := by
  rw [Entry.at?_append, here, Option.bind_some, Entry.at?, named]
  rfl

/-- Whatever a path leads to has its place in the tree. -/
theorem Entry.at?_of_follow {top : Entry} {followLast : Bool} {links : Nat} {place found : Place}
    {steps : List PathName} {entry : Entry}
    (reached : top.follow followLast links place steps = .ok (found, entry)) :
    top.at? found = some entry := by
  fun_induction Entry.follow top followLast links place steps with
  | case1 links place arrived here =>
      obtain ⟨rfl, rfl⟩ := Prod.mk.inj (Except.ok.inj reached)
      exact here
  | case3 links place rest folder here inductionHypothesis => exact inductionHypothesis reached
  | case5 links place rest folder here opened filled inductionHypothesis =>
      exact inductionHypothesis reached
  | case6 links place rest folder here opened filled moves inductionHypothesis =>
      exact inductionHypothesis reached
  | case9 links place step rest folder here filled opened stays rises short target named last =>
      obtain ⟨rfl, rfl⟩ := Prod.mk.inj (Except.ok.inj reached)
      exact Entry.at?_child here named
  | case11 place step rest folder here filled opened stays rises short target named last fewer
      inductionHypothesis => exact inductionHypothesis reached
  | case12 links place step rest folder here filled opened stays rises short child noLink named
      inductionHypothesis => exact inductionHypothesis reached
  | _ => exact absurd reached (by simp)

/-- Whatever is found under a path has its place in the tree. -/
theorem FileTree.exists_place_of_resolve {tree : FileTree} {followLast : Bool} {path : PathName}
    {entry : Entry} (found : (tree.resolve followLast path).map Prod.snd = .ok entry) :
    ∃ place, tree.top.at? place = some entry := by
  cases reached : tree.resolve followLast path with
  | error fault => simp [reached, Except.map] at found
  | ok result =>
      obtain ⟨place, shown⟩ := result
      have same : shown = entry := by simpa [reached, Except.map] using found
      subst same
      refine ⟨place, ?_⟩
      rw [FileTree.resolve] at reached
      split at reached
      · exact absurd reached (by simp)
      · split at reached
        · exact absurd reached (by simp)
        · split at reached
          · exact absurd reached (by simp)
          · exact Entry.at?_of_follow reached

/-- A name is a step when it is not empty and no slash is in it. -/
def IsStepName (name : PathName) : Prop :=
  name ≠ [] ∧ slashByte ∉ name

instance (name : PathName) : Decidable (IsStepName name) :=
  inferInstanceAs (Decidable (_ ∧ _))

/-- Only a directory has entries. -/
def Entry.isDirectory : Entry → Bool
  | .directory _ => true
  | _ => false

/-- The names of all entries below this one are of a kind. -/
def Entry.AllNamed (kind : PathName → Prop) (entry : Entry) : Prop :=
  ∀ place folder, entry.at? place = some (.directory folder) →
    ∀ child ∈ folder.entries, kind child.1

section

variable {kind : PathName → Prop}

/-- What is no directory has no names in it. -/
theorem Entry.allNamed_of_leaf {entry : Entry} (leaf : entry.isDirectory = false) :
    entry.AllNamed kind := by
  intro place children found
  cases entry with
  | directory inside => exact absurd leaf (by simp [Entry.isDirectory])
  | file | device | link => cases place <;> simp [Entry.at?] at found

/-- The names below a directory are its own and those below its entries. -/
theorem Entry.allNamed_directory {folder : Folder Entry}
    (names : ∀ child ∈ folder.entries, kind child.1)
    (below : ∀ child ∈ folder.entries, child.2.AllNamed kind) :
    (Entry.directory folder).AllNamed kind := by
  intro place inside found
  cases place with
  | nil =>
      rw [Entry.at?, Option.some.injEq, Entry.directory.injEq] at found
      exact found ▸ names
  | cons step rest =>
      rw [Entry.at?] at found
      obtain ⟨child, named, reached⟩ := Option.bind_eq_some_iff.mp found
      obtain ⟨before, after, split, _⟩ := List.lookup_eq_some_iff.mp named
      exact below (step, child) (by rw [split]; simp) rest inside reached

/-- The names below a directory are its own when no directory is in it. -/
theorem Entry.allNamed_flat {folder : Folder Entry}
    (names : ∀ child ∈ folder.entries, kind child.1)
    (leaves : ∀ child ∈ folder.entries, child.2.isDirectory = false) :
    (Entry.directory folder).AllNamed kind :=
  Entry.allNamed_directory names fun child member => Entry.allNamed_of_leaf (leaves child member)

/-- What lies below has its names below as well. -/
theorem Entry.AllNamed.at? {top entry : Entry} (named : top.AllNamed kind) {place : Place}
    (found : top.at? place = some entry) : entry.AllNamed kind := by
  intro rest folder inside
  apply named (place ++ rest)
  rw [Entry.at?_append, found]
  exact inside

/-- What a path leads to has its names in the tree. -/
theorem Entry.AllNamed.resolve {tree : FileTree} (named : tree.top.AllNamed kind)
    {followLast : Bool} {path : PathName} {entry : Entry}
    (found : (tree.resolve followLast path).map Prod.snd = .ok entry) : entry.AllNamed kind := by
  obtain ⟨place, shown⟩ := FileTree.exists_place_of_resolve found
  exact named.at? shown

/-- The steps to an entry are names. -/
theorem Entry.AllNamed.of_at? {entry found : Entry} (named : entry.AllNamed kind)
    {steps : List PathName} (shown : entry.at? steps = some found) : ∀ step ∈ steps, kind step := by
  induction steps generalizing entry with
  | nil => simp
  | cons step rest inductionHypothesis =>
      cases entry with
      | file | device | link => simp [Entry.at?] at shown
      | directory folder =>
          rw [Entry.at?] at shown
          obtain ⟨child, here, deeper⟩ := Option.bind_eq_some_iff.mp shown
          obtain ⟨before, after, split, _⟩ := List.lookup_eq_some_iff.mp here
          have place : (Entry.directory folder).at? [step] = some child := by
            rw [Entry.at?, here]
            rfl
          intro other member
          rcases List.mem_cons.mp member with rfl | member
          · exact named [] folder rfl (other, child) (by rw [split]; simp)
          · exact inductionHypothesis (named.at? place) deeper other member

end

/-- In a well-named tree the names of all entries are steps. -/
def Entry.WellNamed (entry : Entry) : Prop :=
  ∀ place folder, entry.at? place = some (.directory folder) →
    ∀ child ∈ folder.entries, IsStepName child.1

theorem Entry.wellNamed_iff {entry : Entry} : entry.WellNamed ↔ entry.AllNamed IsStepName :=
  Iff.rfl

/-- A directory is well named when its names are steps and its entries are well named. -/
theorem Entry.wellNamed_directory {folder : Folder Entry}
    (names : ∀ child ∈ folder.entries, IsStepName child.1)
    (below : ∀ child ∈ folder.entries, child.2.WellNamed) : (Entry.directory folder).WellNamed :=
  Entry.allNamed_directory names below

theorem Entry.wellNamed_flat {folder : Folder Entry}
    (names : ∀ child ∈ folder.entries, IsStepName child.1)
    (leaves : ∀ child ∈ folder.entries, child.2.isDirectory = false) :
    (Entry.directory folder).WellNamed :=
  Entry.allNamed_flat names leaves

/-- What a path of a well-named tree leads to is well named. -/
theorem Entry.WellNamed.resolve {tree : FileTree} (named : tree.top.WellNamed) {followLast : Bool}
    {path : PathName} {entry : Entry}
    (found : (tree.resolve followLast path).map Prod.snd = .ok entry) : entry.WellNamed :=
  Entry.AllNamed.resolve (Entry.wellNamed_iff.mp named) found

/-- This stands before a name that is put below a directory. -/
def pathStart (directory : PathName) : PathName :=
  if directory = [] then []
  else if endsWithSlash directory then directory
  else directory ++ [slashByte]

theorem IsStepName.isAbsolutePath {name : PathName} (step : IsStepName name) :
    isAbsolutePath name = false := by
  cases name with
  | nil => rfl
  | cons first rest =>
      have apart : first ≠ slashByte := by
        rintro rfl
        exact step.2 (by simp)
      simp [RoutineAtlas.isAbsolutePath, apart]

/-- A name that is a step stands at the end of the path to it. -/
theorem IsStepName.joinPath_eq {name : PathName} (step : IsStepName name) (directory : PathName) :
    joinPath directory name = pathStart directory ++ name := by
  rw [joinPath, step.isAbsolutePath, pathStart, if_neg Bool.false_ne_true]
  split
  · rfl
  · split
    · rfl
    · rw [List.append_assoc, List.singleton_append]

theorem IsStepName.joinPath_ne_nil {name : PathName} (step : IsStepName name)
    (directory : PathName) : joinPath directory name ≠ [] := by
  rw [step.joinPath_eq]
  exact fun empty => step.1 (List.append_eq_nil_iff.mp empty).2

theorem IsStepName.endsWithSlash_joinPath {name : PathName} (step : IsStepName name)
    (directory : PathName) : endsWithSlash (joinPath directory name) = false := by
  rw [endsWithSlash, step.joinPath_eq, List.getLast?_append_of_ne_nil _ step.1]
  cases last : name.getLast? with
  | none => rfl
  | some byte =>
      have apart : byte ≠ slashByte := fun same => step.2 (same ▸ List.mem_of_getLast? last)
      simpa using apart

/-- Below a path that ends with a step, the next name follows a slash. -/
theorem IsStepName.pathStart_joinPath {name : PathName} (step : IsStepName name)
    (directory : PathName) :
    pathStart (joinPath directory name) = pathStart directory ++ name ++ [slashByte] := by
  rw [pathStart, if_neg (step.joinPath_ne_nil directory), step.endsWithSlash_joinPath,
    step.joinPath_eq]
  rfl

/-- These are steps with slashes between them. -/
def slashedSteps : List PathName → PathName
  | [] => []
  | [step] => step
  | step :: next :: rest => step ++ slashByte :: slashedSteps (next :: rest)

/-- This path takes the steps from a directory. -/
def joinSteps (directory : PathName) (steps : List PathName) : PathName :=
  steps.foldl joinPath directory

theorem joinSteps_eq (directory : PathName) {steps : List PathName} (moves : steps ≠ [])
    (named : ∀ step ∈ steps, IsStepName step) :
    joinSteps directory steps = pathStart directory ++ slashedSteps steps := by
  induction steps generalizing directory with
  | nil => exact absurd rfl moves
  | cons step rest inductionHypothesis =>
      have here := named step (by simp)
      cases rest with
      | nil => exact here.joinPath_eq directory
      | cons next others =>
          have tail := inductionHypothesis (joinPath directory step) (by simp)
            fun other member => named other (List.mem_cons_of_mem _ member)
          rw [joinSteps, List.foldl_cons]
          rw [joinSteps] at tail
          rw [tail, here.pathStart_joinPath, slashedSteps]
          simp

section

variable {A : Type} [DecidableEq A]

theorem splitPieces_cons (separator first : A) (rest : List A) :
    splitPieces separator (first :: rest) =
      if first = separator then [] :: splitPieces separator rest
      else match splitPieces separator rest with
        | [] => [[first]]
        | piece :: others => (first :: piece) :: others := rfl

theorem splitPieces_ne_nil (separator : A) (row : List A) : splitPieces separator row ≠ [] := by
  cases row with
  | nil => exact List.cons_ne_nil _ _
  | cons first rest =>
      rw [splitPieces_cons]
      split
      · exact List.cons_ne_nil _ _
      · split <;> exact List.cons_ne_nil _ _

/-- A separator parts the pieces before it from those behind it. -/
theorem splitPieces_append (separator : A) (front behind : List A) :
    splitPieces separator (front ++ separator :: behind) =
      splitPieces separator front ++ splitPieces separator behind := by
  induction front with
  | nil =>
      rw [List.nil_append, splitPieces_cons, if_pos rfl]
      rfl
  | cons first rest inductionHypothesis =>
      rw [List.cons_append, splitPieces_cons, splitPieces_cons, inductionHypothesis]
      split
      · rfl
      · cases pieces : splitPieces separator rest with
        | nil => exact absurd pieces (splitPieces_ne_nil separator rest)
        | cons piece others => rfl

theorem splitPieces_of_notMem {separator : A} {row : List A} (absent : separator ∉ row) :
    splitPieces separator row = [row] := by
  induction row with
  | nil => rfl
  | cons first rest inductionHypothesis =>
      rw [List.mem_cons, not_or] at absent
      rw [splitPieces_cons, if_neg (Ne.symm absent.1), inductionHypothesis absent.2]

end

/-- The steps come back from between their slashes. -/
theorem pathPieces_slashedSteps {steps : List PathName} (moves : steps ≠ [])
    (named : ∀ step ∈ steps, IsStepName step) : pathPieces (slashedSteps steps) = steps := by
  induction steps with
  | nil => exact absurd rfl moves
  | cons step rest inductionHypothesis =>
      have here := named step (by simp)
      cases rest with
      | nil => exact splitPieces_of_notMem here.2
      | cons next others =>
          have tail := inductionHypothesis (by simp)
            fun other member => named other (List.mem_cons_of_mem _ member)
          rw [pathPieces] at tail
          rw [slashedSteps, pathPieces, splitPieces_append, splitPieces_of_notMem here.2, tail]
          rfl

/-- Different steps from one directory make different paths. -/
theorem joinSteps_injective {directory : PathName} {first second : List PathName}
    (moves : first ≠ []) (movesToo : second ≠ []) (named : ∀ step ∈ first, IsStepName step)
    (namedToo : ∀ step ∈ second, IsStepName step)
    (same : joinSteps directory first = joinSteps directory second) : first = second := by
  rw [joinSteps_eq directory moves named, joinSteps_eq directory movesToo namedToo,
    List.append_cancel_left_eq] at same
  have pieces := congrArg pathPieces same
  rwa [pathPieces_slashedSteps moves named, pathPieces_slashedSteps movesToo namedToo] at pieces

end RoutineAtlas
