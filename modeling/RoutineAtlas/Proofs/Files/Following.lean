import RoutineAtlas.Files.Editing
import RoutineAtlas.Proofs.Files.Naming

/-
This file follows paths step by step. Below a directory that a path leads to, the path goes on as
the directory's entries do.
-/

namespace RoutineAtlas

variable {top : Entry} {place found : Place} {folder : Folder Entry}

@[simp] theorem Entry.follow_nil {entry : Entry} (here : top.at? place = some entry)
    (followLast : Bool) (links : Nat) :
    top.follow followLast links place [] = .ok (place, entry) := by
  rw [Entry.follow, here]

/-- These steps are no names. They stay in a directory or leave it for the one above. -/
inductive Turn (folder : Folder Entry) (place : Place) : (step : PathName) → (next : Place) → Prop
  | empty : Turn folder place [] place
  | here (opened : folder.maySearch = true) : Turn folder place "." place
  | above (opened : folder.maySearch = true) : Turn folder place ".." place.dropLast

theorem Entry.follow_turn (here : top.at? place = some (.directory folder)) {step : PathName}
    {next : Place} (turn : Turn folder place step next) (followLast : Bool) (links : Nat)
    (rest : List PathName) :
    top.follow followLast links place (step :: rest) = top.follow followLast links next rest := by
  have dot : utf8Bytes "." ≠ [] := by decide
  have dots : utf8Bytes ".." ≠ [] ∧ utf8Bytes ".." ≠ utf8Bytes "." := by decide
  rw [Entry.follow, here]
  cases turn with
  | empty => simp
  | here opened => simp [dot, opened]
  | above opened => simp [dots, opened]

/-- Nothing is looked up in a directory that may not be searched. -/
theorem Entry.follow_denied (here : top.at? place = some (.directory folder))
    (closed : folder.maySearch = false) {step : PathName} (filled : step ≠ [])
    (followLast : Bool) (links : Nat) (rest : List PathName) :
    top.follow followLast links place (step :: rest) = .error .denied := by
  rw [Entry.follow, here]
  simp [filled, closed]

/-- These names can be looked up in a directory. -/
structure IsLookupName (name : PathName) : Prop where
  filled : name ≠ []
  stays : name ≠ "."
  rises : name ≠ ".."
  short : name.length ≤ nameLimit

theorem isLookupName_iff {name : PathName} :
    IsLookupName name ↔ name ≠ [] ∧ name ≠ "." ∧ name ≠ ".." ∧ name.length ≤ nameLimit :=
  ⟨fun plain => ⟨plain.filled, plain.stays, plain.rises, plain.short⟩,
    fun ⟨filled, stays, rises, short⟩ => ⟨filled, stays, rises, short⟩⟩

instance (name : PathName) : Decidable (IsLookupName name) :=
  decidable_of_iff _ isLookupName_iff.symm

section

variable {name : PathName} (here : top.at? place = some (.directory folder))
  (opened : folder.maySearch = true) (plain : IsLookupName name)

include here opened plain

/-- A name that can be looked up leads where its entry does. -/
theorem Entry.follow_lookup (followLast : Bool) (links : Nat) (rest : List PathName) :
    top.follow followLast links place (name :: rest) =
      match childNamed name folder with
      | none => .error .notFound
      | some (.link target) =>
          if rest.isEmpty && !followLast then .ok (place ++ [name], .link target)
          else match links with
            | 0 => .error .linkLoop
            | fewer + 1 =>
                top.follow followLast fewer (if isAbsolutePath target then [] else place)
                  (pathSteps target ++ rest)
      | some _ => top.follow followLast links (place ++ [name]) rest := by
  have fits : ¬ nameLimit < name.length := Nat.not_lt.mpr plain.short
  rw [Entry.follow, here]
  cases found : childNamed name folder with
  | none => simp [plain.filled, plain.stays, plain.rises, fits, opened, found]
  | some child =>
      cases child with
      | link target =>
          cases links <;> simp [plain.filled, plain.stays, plain.rises, fits, opened, found]
      | file | device | directory =>
          simp [plain.filled, plain.stays, plain.rises, fits, opened, found]

theorem Entry.follow_name {child : Entry} (named : childNamed name folder = some child)
    (noLink : ∀ target, child ≠ .link target) (followLast : Bool) (links : Nat)
    (rest : List PathName) :
    top.follow followLast links place (name :: rest) =
      top.follow followLast links (place ++ [name]) rest := by
  rw [Entry.follow_lookup here opened plain, named]
  cases child with
  | link target => exact absurd rfl (noLink target)
  | file | device | directory => rfl

theorem Entry.follow_missing (missing : childNamed name folder = none) (followLast : Bool)
    (links : Nat) (rest : List PathName) :
    top.follow followLast links place (name :: rest) = .error .notFound := by
  rw [Entry.follow_lookup here opened plain, missing]

/-- A link gives way to the steps of its target, unless it is the last step and is asked for
itself. -/
theorem Entry.follow_link {target : PathName} (named : childNamed name folder = some (.link target))
    {followLast : Bool} {rest : List PathName} (goesOn : (rest.isEmpty && !followLast) = false)
    (fewer : Nat) :
    top.follow followLast (fewer + 1) place (name :: rest) =
      top.follow followLast fewer (if isAbsolutePath target then [] else place)
        (pathSteps target ++ rest) := by
  rw [Entry.follow_lookup here opened plain, named]
  simp [goesOn]

/-- A link that is asked for itself is answered as it is. -/
theorem Entry.follow_linkItself {target : PathName}
    (named : childNamed name folder = some (.link target)) (links : Nat) :
    top.follow false links place [name] = .ok (place ++ [name], .link target) := by
  rw [Entry.follow_lookup here opened plain, named]
  simp

end

/-- The steps lead from a place to an entry, across no more links than these. -/
inductive Entry.Leads (top : Entry) (followLast : Bool) :
    (links : Nat) → Place → List PathName → Place → Entry → Prop
  | arrived {links : Nat} {place : Place} {entry : Entry} (here : top.at? place = some entry) :
      Leads top followLast links place [] place entry
  | turn {links : Nat} {place next found : Place} {folder : Folder Entry} {step : PathName}
      {rest : List PathName} {entry : Entry} (here : top.at? place = some (.directory folder))
      (turns : Turn folder place step next)
      (leads : Leads top followLast links next rest found entry) :
      Leads top followLast links place (step :: rest) found entry
  | name {links : Nat} {place found : Place} {folder : Folder Entry} {name : PathName}
      {rest : List PathName} {child entry : Entry} (here : top.at? place = some (.directory folder))
      (opened : folder.maySearch = true) (plain : IsLookupName name)
      (named : childNamed name folder = some child) (noLink : ∀ target, child ≠ .link target)
      (leads : Leads top followLast links (place ++ [name]) rest found entry) :
      Leads top followLast links place (name :: rest) found entry
  | link {fewer : Nat} {place found : Place} {folder : Folder Entry} {name target : PathName}
      {rest : List PathName} {entry : Entry} (here : top.at? place = some (.directory folder))
      (opened : folder.maySearch = true) (plain : IsLookupName name)
      (named : childNamed name folder = some (.link target))
      (goesOn : (rest.isEmpty && !followLast) = false)
      (leads : Leads top followLast fewer (if isAbsolutePath target then [] else place)
        (pathSteps target ++ rest) found entry) :
      Leads top followLast (fewer + 1) place (name :: rest) found entry
  | itself {links : Nat} {place : Place} {folder : Folder Entry} {name target : PathName}
      (here : top.at? place = some (.directory folder)) (opened : folder.maySearch = true)
      (plain : IsLookupName name) (named : childNamed name folder = some (.link target))
      (ends : followLast = false) :
      Leads top followLast links place [name] (place ++ [name]) (.link target)

theorem Entry.leads_of_follow {followLast : Bool} {links : Nat} {steps : List PathName}
    {entry : Entry} (reached : top.follow followLast links place steps = .ok (found, entry)) :
    top.Leads followLast links place steps found entry := by
  fun_induction Entry.follow top followLast links place steps with
  | case1 links place arrived here =>
      obtain ⟨rfl, rfl⟩ := Prod.mk.inj (Except.ok.inj reached)
      exact .arrived here
  | case3 links place rest folder here inductionHypothesis =>
      exact .turn here .empty (inductionHypothesis reached)
  | case5 links place rest folder here opened filled inductionHypothesis =>
      exact .turn here (.here (Bool.not_eq_false _ ▸ opened)) (inductionHypothesis reached)
  | case6 links place rest folder here opened filled moves inductionHypothesis =>
      exact .turn here (.above (Bool.not_eq_false _ ▸ opened)) (inductionHypothesis reached)
  | case9 links place step rest folder here filled opened stays rises short target named last =>
      obtain ⟨rfl, rfl⟩ := Prod.mk.inj (Except.ok.inj reached)
      obtain ⟨ended, ends⟩ : rest = [] ∧ followLast = false := by simpa using last
      subst ended
      exact .itself here (Bool.not_eq_false _ ▸ opened)
        ⟨filled, stays, rises, Nat.not_lt.mp short⟩ named ends
  | case11 place step rest folder here filled opened stays rises short target named last fewer
      inductionHypothesis =>
      exact .link here (Bool.not_eq_false _ ▸ opened)
        ⟨filled, stays, rises, Nat.not_lt.mp short⟩ named (Bool.not_eq_true _ ▸ last)
        (inductionHypothesis reached)
  | case12 links place step rest folder here filled opened stays rises short child noLink named
      inductionHypothesis =>
      exact .name here (Bool.not_eq_false _ ▸ opened)
        ⟨filled, stays, rises, Nat.not_lt.mp short⟩ named noLink (inductionHypothesis reached)
  | _ => simp at reached

theorem Entry.Leads.follow {followLast : Bool} {links : Nat} {steps : List PathName}
    {entry : Entry} (leads : top.Leads followLast links place steps found entry) :
    top.follow followLast links place steps = .ok (found, entry) := by
  induction leads with
  | arrived here => exact Entry.follow_nil here _ _
  | turn here turns _ inductionHypothesis =>
      rw [Entry.follow_turn here turns, inductionHypothesis]
  | name here opened plain named noLink _ inductionHypothesis =>
      rw [Entry.follow_name here opened plain named noLink, inductionHypothesis]
  | link here opened plain named goesOn _ inductionHypothesis =>
      rw [Entry.follow_link here opened plain named goesOn, inductionHypothesis]
  | itself here opened plain named ends =>
      subst ends
      exact Entry.follow_linkItself here opened plain named _

/-- Following steps ends well exactly where they lead. -/
theorem Entry.follow_eq_ok_iff {followLast : Bool} {links : Nat} {steps : List PathName}
    {entry : Entry} :
    top.follow followLast links place steps = .ok (found, entry) ↔
      top.Leads followLast links place steps found entry :=
  ⟨Entry.leads_of_follow, Entry.Leads.follow⟩

/-- Where steps lead when all links are followed, they lead also when the last is not, or they name
a link there. -/
theorem Entry.Leads.itself_or_link {links : Nat} {steps : List PathName} {entry : Entry}
    (leads : top.Leads true links place steps found entry) :
    top.Leads false links place steps found entry ∨
      ∃ linked target, top.Leads false links place steps linked (.link target) := by
  induction leads with
  | arrived here => exact Or.inl (.arrived here)
  | turn here turns _ inductionHypothesis =>
      exact inductionHypothesis.imp (.turn here turns)
        fun ⟨linked, target, own⟩ => ⟨linked, target, .turn here turns own⟩
  | name here opened plain named noLink _ inductionHypothesis =>
      exact inductionHypothesis.imp (.name here opened plain named noLink)
        fun ⟨linked, target, own⟩ => ⟨linked, target, .name here opened plain named noLink own⟩
  | @link _ _ _ _ _ _ rest _ here opened plain named _ _ inductionHypothesis =>
      cases rest with
      | nil => exact Or.inr ⟨_, _, .itself here opened plain named rfl⟩
      | cons next others =>
          exact inductionHypothesis.imp (.link here opened plain named rfl)
            fun ⟨linked, target, own⟩ => ⟨linked, target, .link here opened plain named rfl own⟩
  | itself _ _ _ _ ends => exact absurd ends (by simp)

/-- What steps name, when it is no link, is also what they lead to. -/
theorem Entry.Leads.of_itself {links : Nat} {steps : List PathName} {entry : Entry}
    (leads : top.Leads false links place steps found entry)
    (noLink : ∀ target, entry ≠ .link target) : top.Leads true links place steps found entry := by
  induction leads with
  | arrived here => exact .arrived here
  | turn here turns _ inductionHypothesis => exact .turn here turns (inductionHypothesis noLink)
  | name here opened plain named passes _ inductionHypothesis =>
      exact .name here opened plain named passes (inductionHypothesis noLink)
  | link here opened plain named _ _ inductionHypothesis =>
      exact .link here opened plain named (by simp) (inductionHypothesis noLink)
  | itself => exact absurd rfl (noLink _)

/-- Steps that end with one to where one is lead to a directory. -/
theorem Entry.Leads.isDirectory {links : Nat} {steps : List PathName} {entry : Entry}
    (leads : top.Leads true links place steps found entry)
    (last : steps.getLast? = some (utf8Bytes ".")) : ∃ folder, entry = .directory folder := by
  induction leads with
  | arrived => simp at last
  | @turn _ _ _ _ folder step rest _ here turns leads inductionHypothesis =>
      cases rest with
      | nil =>
          obtain rfl : step = utf8Bytes "." := by simpa using last
          cases turns with
          | here =>
              cases leads with
              | arrived arrived => exact ⟨folder, Option.some.inj (arrived.symm.trans here)⟩
      | cons next others => exact inductionHypothesis (by simpa using last)
  | @name _ _ _ _ _ rest _ _ _ _ plain _ _ _ inductionHypothesis =>
      cases rest with
      | nil => exact absurd (by simpa using last) plain.stays
      | cons next others => exact inductionHypothesis (by simpa using last)
  | @link _ _ _ _ _ _ rest _ _ _ plain _ _ _ inductionHypothesis =>
      cases rest with
      | nil => exact absurd (by simpa using last) plain.stays
      | cons next others =>
          refine inductionHypothesis ?_
          rw [List.getLast?_append_of_ne_nil _ (List.cons_ne_nil _ _)]
          simpa using last
  | itself _ _ plain _ _ => exact absurd (by simpa using last) plain.stays

/-- Steps that lead to a directory go on from there, and an empty step at their end does not count.
-/
theorem Entry.Leads.resume {links : Nat} {steps bare : List PathName} {entry : Entry}
    (leads : top.Leads true links place steps found entry)
    (ends : steps = bare ∨ steps = bare ++ [[]]) :
    ∃ left, ∀ followLast more, more ≠ [] →
      top.follow followLast links place (bare ++ more) = top.follow followLast left found more := by
  induction leads generalizing bare with
  | @arrived links place _ _ =>
      obtain rfl : bare = [] := by simpa using ends
      exact ⟨links, fun _ _ _ => rfl⟩
  | @turn links place _ _ _ step rest _ here turns leads inductionHypothesis =>
      cases bare with
      | nil =>
          obtain ⟨rfl, rfl⟩ : step = [] ∧ rest = [] := by simpa using ends
          cases turns with
          | empty =>
              cases leads with
              | arrived => exact ⟨links, fun _ _ _ => rfl⟩
      | cons first others =>
          simp only [List.cons_append, List.cons.injEq, ← and_or_left] at ends
          obtain ⟨left, goesOn⟩ := inductionHypothesis ends.2
          refine ⟨left, fun followLast more some => ?_⟩
          rw [List.cons_append, ← ends.1, Entry.follow_turn here turns, goesOn followLast more some]
  | name here opened plain named noLink _ inductionHypothesis =>
      cases bare with
      | nil => simp [plain.filled] at ends
      | cons first others =>
          simp only [List.cons_append, List.cons.injEq, ← and_or_left] at ends
          obtain ⟨left, goesOn⟩ := inductionHypothesis ends.2
          refine ⟨left, fun followLast more some => ?_⟩
          rw [List.cons_append, ← ends.1, Entry.follow_name here opened plain named noLink,
            goesOn followLast more some]
  | @link _ _ _ _ _ target _ _ here opened plain named _ _ inductionHypothesis =>
      cases bare with
      | nil => simp [plain.filled] at ends
      | cons first others =>
          simp only [List.cons_append, List.cons.injEq, ← and_or_left] at ends
          obtain ⟨left, goesOn⟩ := @inductionHypothesis (pathSteps target ++ others) (by
            simpa using ends.2)
          refine ⟨left, fun followLast more some => ?_⟩
          have on : ((others ++ more).isEmpty && !followLast) = false := by simp [some]
          rw [List.cons_append, ← ends.1, Entry.follow_link here opened plain named on,
            ← List.append_assoc]
          exact goesOn followLast more some
  | itself _ _ _ _ impossible => exact absurd impossible (by simp)

/-- Steps that take one more lead to a directory first. -/
theorem Entry.Leads.exists_directory {links : Nat} {steps bare : List PathName} {last : PathName}
    {followLast : Bool} {entry : Entry}
    (leads : top.Leads followLast links place steps found entry)
    (whole : steps = bare ++ [last]) :
    ∃ middle inside, top.Leads true links place bare middle (.directory inside) := by
  induction leads generalizing bare with
  | arrived => simp at whole
  | turn here turns _ inductionHypothesis =>
      cases bare with
      | nil => exact ⟨_, _, .arrived here⟩
      | cons first others =>
          obtain ⟨rfl, tail⟩ := List.cons.inj whole
          obtain ⟨middle, inside, above⟩ := inductionHypothesis tail
          exact ⟨middle, inside, .turn here turns above⟩
  | name here opened plain named noLink _ inductionHypothesis =>
      cases bare with
      | nil => exact ⟨_, _, .arrived here⟩
      | cons first others =>
          obtain ⟨rfl, tail⟩ := List.cons.inj whole
          obtain ⟨middle, inside, above⟩ := inductionHypothesis tail
          exact ⟨middle, inside, .name here opened plain named noLink above⟩
  | @link _ _ _ _ _ target _ _ here opened plain named _ _ inductionHypothesis =>
      cases bare with
      | nil => exact ⟨_, _, .arrived here⟩
      | cons first others =>
          obtain ⟨rfl, tail⟩ := List.cons.inj whole
          obtain ⟨middle, inside, above⟩ := @inductionHypothesis (pathSteps target ++ others) (by
            rw [tail]
            exact (List.append_assoc _ _ _).symm)
          exact ⟨middle, inside, .link here opened plain named (by simp) above⟩
  | itself here =>
      cases bare with
      | nil => exact ⟨_, _, .arrived here⟩
      | cons first others =>
          obtain ⟨_, tail⟩ := List.cons.inj whole
          simp at tail

/-- A name that leads somewhere can be looked up in a directory that may be searched. -/
theorem Entry.isLookupName_of_follow {links : Nat} {followLast : Bool} {name : PathName}
    {entry : Entry} (reached : top.follow followLast links place [name] = .ok (found, entry))
    (here : top.at? place = some (.directory folder)) (filled : name ≠ []) (stays : name ≠ ".")
    (rises : name ≠ "..") : folder.maySearch = true ∧ IsLookupName name := by
  have own {inside : Folder Entry} (there : top.at? place = some (.directory inside)) :
      inside = folder := Entry.directory.inj (Option.some.inj (there.symm.trans here))
  cases Entry.leads_of_follow reached with
  | turn _ turns _ =>
      cases turns with
      | empty => exact absurd rfl filled
      | here => exact absurd rfl stays
      | above => exact absurd rfl rises
  | name there opened plain _ _ _ => exact ⟨own there ▸ opened, plain⟩
  | link there opened plain _ _ _ => exact ⟨own there ▸ opened, plain⟩
  | itself there opened plain _ _ => exact ⟨own there ▸ opened, plain⟩

/-- Every directory above the end of the steps may be searched. -/
def Entry.Searchable (entry : Entry) (steps : List PathName) : Prop :=
  ∀ above folder, above <+: steps → above ≠ steps → entry.at? above = some (.directory folder) →
    folder.maySearch = true

theorem Entry.searchable_nil (entry : Entry) : entry.Searchable [] := by
  intro above folder first below
  exact absurd (List.prefix_nil.mp first) below

theorem Entry.searchable_singleton {folder : Folder Entry} (opened : folder.maySearch = true)
    (step : PathName) : (Entry.directory folder).Searchable [step] := by
  intro above inside first below shown
  cases above with
  | nil =>
      rw [Entry.at?] at shown
      exact Entry.directory.inj (Option.some.inj shown) ▸ opened
  | cons next others =>
      obtain ⟨rfl, tail⟩ := List.cons_prefix_cons.mp first
      exact absurd (by rw [List.prefix_nil.mp tail]) below

theorem Entry.searchable_cons {folder : Folder Entry} {step : PathName} {rest : List PathName}
    {child : Entry} (named : childNamed step folder = some child) :
    (Entry.directory folder).Searchable (step :: rest) ↔
      folder.maySearch = true ∧ child.Searchable rest := by
  have deeper (above : List PathName) :
      (Entry.directory folder).at? (step :: above) = child.at? above := by
    rw [Entry.at?, named, Option.bind_some]
  constructor
  · intro searchable
    refine ⟨searchable [] folder List.nil_prefix (by simp) (by rw [Entry.at?]), ?_⟩
    intro above inside first below shown
    exact searchable (step :: above) inside (List.cons_prefix_cons.mpr ⟨rfl, first⟩)
      (by simpa using below) ((deeper above).trans shown)
  · rintro ⟨opened, searchable⟩ above inside first below shown
    cases above with
    | nil =>
        rw [Entry.at?] at shown
        exact Entry.directory.inj (Option.some.inj shown) ▸ opened
    | cons next others =>
        obtain ⟨rfl, tail⟩ := List.cons_prefix_cons.mp first
        exact searchable others inside tail (by simpa using below)
          ((deeper others).symm.trans shown)

/-- From a directory the names of an entry below lead to it, since no links are on the way. -/
theorem Entry.follow_of_at? {entry target : Entry} {steps : List PathName}
    (here : top.at? place = some entry) (names : ∀ step ∈ steps, IsLookupName step)
    (shown : entry.at? steps = some target) (searchable : entry.Searchable steps)
    (noLink : ∀ linked, target ≠ .link linked) (followLast : Bool) (links : Nat) :
    top.follow followLast links place steps = .ok (place ++ steps, target) := by
  induction steps generalizing place entry with
  | nil =>
      obtain rfl : entry = target := by simpa [Entry.at?] using shown
      rw [Entry.follow_nil here, List.append_nil]
  | cons step rest inductionHypothesis =>
      cases entry with
      | file | device | link => simp [Entry.at?] at shown
      | directory folder =>
          rw [Entry.at?] at shown
          obtain ⟨child, named, deeper⟩ := Option.bind_eq_some_iff.mp shown
          obtain ⟨opened, below⟩ := (Entry.searchable_cons named).mp searchable
          have passes : ∀ linked, child ≠ .link linked := by
            rintro linked rfl
            cases rest with
            | nil => exact noLink linked (by simpa [Entry.at?, eq_comm] using deeper)
            | cons next others => simp [Entry.at?] at deeper
          have tail := inductionHypothesis (Entry.at?_child here named)
            (fun other member => names other (List.mem_cons_of_mem _ member)) deeper below
          rw [Entry.follow_name here opened (names step (by simp)) named passes, tail,
            List.append_assoc, List.singleton_append]

/-- A way below a directory is denied at the first directory that may not be searched. -/
theorem Entry.follow_of_barred {entry target : Entry} {steps : List PathName}
    (here : top.at? place = some entry) (names : ∀ step ∈ steps, IsLookupName step)
    (shown : entry.at? steps = some target) (barred : ¬ entry.Searchable steps)
    (followLast : Bool) (links : Nat) :
    top.follow followLast links place steps = .error .denied := by
  induction steps generalizing place entry with
  | nil => exact absurd (Entry.searchable_nil entry) barred
  | cons step rest inductionHypothesis =>
      have plain := names step (by simp)
      cases entry with
      | file | device | link => simp [Entry.at?] at shown
      | directory folder =>
          rw [Entry.at?] at shown
          obtain ⟨child, named, deeper⟩ := Option.bind_eq_some_iff.mp shown
          cases opened : folder.maySearch with
          | false => rw [Entry.follow_denied here opened plain.filled]
          | true =>
              have below : ¬ child.Searchable rest := fun searchable =>
                barred ((Entry.searchable_cons named).mpr ⟨opened, searchable⟩)
              have passes : ∀ linked, child ≠ .link linked := by
                rintro linked rfl
                cases rest with
                | nil => exact below (Entry.searchable_nil _)
                | cons next others => simp [Entry.at?] at deeper
              rw [Entry.follow_name here opened plain named passes]
              exact inductionHypothesis (Entry.at?_child here named)
                (fun other member => names other (List.mem_cons_of_mem _ member)) deeper below

/-- A path can be used when it has no null, is not empty and is not too long. -/
structure IsUsablePath (path : PathName) : Prop where
  noNull : 0 ∉ path
  filled : path ≠ []
  short : isOverlong path = false

/-- A path that can be used is followed from its start. -/
theorem FileTree.resolve_of_usable {path : PathName} (usable : IsUsablePath path) (tree : FileTree)
    (followLast : Bool) :
    tree.resolve followLast path =
      tree.top.follow followLast linkLimit (tree.startOf path) (pathSteps path) := by
  have noNull : path.contains 0 = false := by simpa using usable.noNull
  rw [FileTree.resolve, noNull, if_neg Bool.false_ne_true, if_neg usable.filled, usable.short,
    if_neg Bool.false_ne_true]

/-- A path that leads somewhere can be used. -/
theorem FileTree.usable_of_resolve {tree : FileTree} {followLast : Bool} {path : PathName}
    {result : Place × Entry} (reached : tree.resolve followLast path = .ok result) :
    IsUsablePath path := by
  rw [FileTree.resolve] at reached
  split at reached
  · exact absurd reached (by simp)
  · rename_i noNull
    split at reached
    · exact absurd reached (by simp)
    · rename_i filled
      split at reached
      · exact absurd reached (by simp)
      · rename_i short
        exact ⟨by simpa using noNull, filled, Bool.not_eq_true _ ▸ short⟩

/-- What is found under a path is where its steps lead. -/
theorem FileTree.exists_leads_of_resolve {tree : FileTree} {followLast : Bool} {path : PathName}
    {entry : Entry} (found : (tree.resolve followLast path).map Prod.snd = .ok entry) :
    IsUsablePath path ∧ ∃ place,
      tree.top.Leads followLast linkLimit (tree.startOf path) (pathSteps path) place entry := by
  cases reached : tree.resolve followLast path with
  | error fault => simp [reached, Except.map] at found
  | ok result =>
      obtain ⟨place, shown⟩ := result
      obtain rfl : shown = entry := by simpa [reached, Except.map] using found
      have usable := FileTree.usable_of_resolve reached
      rw [FileTree.resolve_of_usable usable] at reached
      exact ⟨usable, place, Entry.follow_eq_ok_iff.mp reached⟩

/-- Where the steps of a path lead is found under it. -/
theorem FileTree.resolve_of_leads {tree : FileTree} {followLast : Bool} {path : PathName}
    (usable : IsUsablePath path) {entry : Entry}
    (leads : tree.top.Leads followLast linkLimit (tree.startOf path) (pathSteps path) place entry) :
    (tree.resolve followLast path).map Prod.snd = .ok entry := by
  rw [FileTree.resolve_of_usable usable, Entry.follow_eq_ok_iff.mpr leads]
  rfl

/-- A path to a directory names the directory or a link. -/
theorem FileTree.entryItself_of_directory {tree : FileTree} {path : PathName}
    {folder : Folder Entry} (isDirectory : tree.entry path = .ok (.directory folder)) :
    tree.entryItself path = .ok (.directory folder) ∨
      ∃ target, tree.entryItself path = .ok (.link target) := by
  obtain ⟨usable, place, leads⟩ := FileTree.exists_leads_of_resolve isDirectory
  obtain same | ⟨linked, target, link⟩ := leads.itself_or_link
  · exact Or.inl (FileTree.resolve_of_leads usable same)
  · exact Or.inr ⟨target, FileTree.resolve_of_leads usable link⟩

/-- What a path names, when it is no link, is its entry. -/
theorem FileTree.entry_of_entryItself {tree : FileTree} {path : PathName} {entry : Entry}
    (names : tree.entryItself path = .ok entry) (noLink : ∀ target, entry ≠ .link target) :
    tree.entry path = .ok entry := by
  obtain ⟨usable, place, leads⟩ := FileTree.exists_leads_of_resolve names
  exact FileTree.resolve_of_leads usable (leads.of_itself noLink)

end RoutineAtlas
