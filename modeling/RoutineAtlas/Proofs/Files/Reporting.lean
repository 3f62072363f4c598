import RoutineAtlas.Proofs.Files.Listing

/-
This file settles what a scan reports. Where the walk cannot go on it reports the directory, so that
every wanted file within reach is listed or lies below a directory that is reported.
-/

namespace RoutineAtlas

/-- The way of a walk is barred at a directory. The path to it is too long, it may not be listed
itself, or the one around it may not be searched. -/
inductive IsBarred (root : PathName) (folder : Folder Entry) (steps : List PathName) :
    AccessFault → Prop
  | overlong (long : isOverlong (joinSteps root steps) = true) :
      IsBarred root folder steps .nameTooLong
  | unlistable {inside : Folder Entry}
      (here : (Entry.directory folder).at? steps = some (.directory inside))
      (closed : inside.mayList = false) : IsBarred root folder steps .denied
  | unsearchable {around : Folder Entry} (moves : steps ≠ [])
      (here : (Entry.directory folder).at? steps.dropLast = some (.directory around))
      (closed : around.maySearch = false) : IsBarred root folder steps .denied

/-- A fault on the way to a directory bars the way there. -/
theorem isBarred_of_wayFault {root name : PathName} {folder : Folder Entry} {fault : AccessFault}
    (found : wayFault? (joinPath root name) folder = some fault) :
    IsBarred root folder [name] fault := by
  rw [wayFault?] at found
  split at found
  · rename_i long
    obtain rfl := Option.some.inj found
    exact .overlong long
  · split at found
    · exact absurd found (by simp)
    · rename_i closed
      obtain rfl := Option.some.inj found
      exact .unsearchable (List.cons_ne_nil _ _) (by rw [List.dropLast_singleton, Entry.at?])
        (Bool.not_eq_true _ ▸ closed)

section

variable {root name : PathName} {folder below : Folder Entry}
  (named : childNamed name folder = some (.directory below))

include named

/-- What bars the way below a directory bars it from above as well. -/
theorem IsBarred.cons {steps : List PathName} {fault : AccessFault}
    (barred : IsBarred (joinPath root name) below steps fault) :
    IsBarred root folder (name :: steps) fault := by
  have deeper (others : List PathName) :
      (Entry.directory folder).at? (name :: others) = (Entry.directory below).at? others := by
    rw [Entry.at?, named, Option.bind_some]
  cases barred with
  | overlong long => exact .overlong long
  | unlistable here closed => exact .unlistable ((deeper steps).trans here) closed
  | unsearchable moves here closed =>
      refine .unsearchable (List.cons_ne_nil _ _) ?_ closed
      rw [List.dropLast_cons_of_ne_nil moves]
      exact (deeper _).trans here

variable (shown : folder.mayList = true) (known : isIgnoredDirectory name = false)

include shown known

/-- A directory to which the way is faulty is reported. -/
theorem mem_refusedDirectories_of_wayFault (depth : Nat) {fault : AccessFault}
    (found : wayFault? (joinPath root name) folder = some fault) :
    .refused (joinPath root name) fault ∈ refusedDirectories (depth + 2) root folder := by
  rw [refusedDirectories, if_pos shown]
  refine List.mem_flatMap.mpr ⟨_, mem_listing.mpr ⟨shown, named⟩, ?_⟩
  simp [known, found]

/-- What is reported below a directory that is entered is reported above it as well. -/
theorem mem_refusedDirectories_of_entered {depth : Nat} {skipped : SkippedEntry}
    (passes : wayFault? (joinPath root name) folder = none)
    (reported : skipped ∈ refusedDirectories (depth + 1) (joinPath root name) below) :
    skipped ∈ refusedDirectories (depth + 2) root folder := by
  rw [refusedDirectories, if_pos shown]
  refine List.mem_flatMap.mpr ⟨_, mem_listing.mpr ⟨shown, named⟩, ?_⟩
  simpa [known, passes] using reported

end

/-- A directory from which nothing may be listed is reported itself. -/
theorem mem_refusedDirectories_of_unlistable {folder : Folder Entry}
    (closed : folder.mayList = false) (depth : Nat) (root : PathName) :
    .refused root .denied ∈ refusedDirectories (depth + 1) root folder := by
  rw [refusedDirectories, if_neg (by simp [closed])]
  exact List.mem_singleton_self _

/-- Whatever a walk reports bars its way. -/
theorem exists_barred_of_mem_refusedDirectories {depth : Nat} {root : PathName}
    {folder : Folder Entry} {skipped : SkippedEntry}
    (reported : skipped ∈ refusedDirectories depth root folder) :
    ∃ above fault, skipped = .refused (joinSteps root above) fault ∧
      IsBarred root folder above fault := by
  induction depth generalizing root folder with
  | zero => exact absurd reported List.not_mem_nil
  | succ depth inductionHypothesis =>
      rw [refusedDirectories] at reported
      split at reported
      · obtain ⟨⟨name, entry⟩, listed, inside⟩ := List.mem_flatMap.mp reported
        have named := (mem_listing.mp listed).2
        cases entry with
        | file | device | link => exact absurd inside List.not_mem_nil
        | directory below =>
            dsimp only at inside
            split at inside
            · exact absurd inside List.not_mem_nil
            · split at inside
              · rename_i fault found
                obtain rfl := List.mem_singleton.mp inside
                exact ⟨[name], fault, rfl, isBarred_of_wayFault found⟩
              · obtain ⟨above, fault, rfl, barred⟩ := inductionHypothesis inside
                exact ⟨name :: above, fault, rfl, barred.cons named⟩
      · rename_i closed
        obtain rfl := List.mem_singleton.mp reported
        exact ⟨[], .denied, rfl, .unlistable (by rw [Entry.at?]) (Bool.not_eq_true _ ▸ closed)⟩

/-- The walk lists what is sought, or it reports a directory on the way that bars it. -/
theorem ScanPlan.lists_or_reports {plan : ScanPlan} {depth : Nat} {root : PathName}
    {folder : Folder Entry} {steps : List PathName} (sought : plan.Seeks depth folder steps) :
    plan.Lists depth root folder steps ∨
      ∃ above rest fault, steps = above ++ rest ∧ rest ≠ [] ∧ IsBarred root folder above fault ∧
        .refused (joinSteps root above) fault ∈ refusedDirectories depth root folder := by
  induction steps generalizing depth root folder with
  | nil =>
      obtain ⟨name, last, _⟩ := sought.wanted
      simp at last
  | cons name rest inductionHypothesis =>
      have within := sought.within
      rw [List.length_cons] at within
      obtain ⟨depth, rfl⟩ := Nat.exists_eq_succ_of_ne_zero (Nat.ne_zero_of_lt within)
      cases shown : folder.mayList with
      | false =>
          right
          exact ⟨[], name :: rest, .denied, rfl, List.cons_ne_nil _ _,
            .unlistable (by rw [Entry.at?]) shown,
            mem_refusedDirectories_of_unlistable shown depth root⟩
      | true =>
          by_cases ended : rest = []
          · subst ended
            exact Or.inl (ScanPlan.lists_singleton.mpr ⟨shown, ScanPlan.seeks_singleton.mp sought⟩)
          · obtain ⟨below, named, known, sought⟩ := (ScanPlan.seeks_cons ended).mp sought
            have filled := List.length_pos_of_ne_nil ended
            -- Only above the last level does the walk open what it finds.
            obtain ⟨depth, rfl⟩ := Nat.exists_eq_succ_of_ne_zero
              (Nat.ne_zero_of_lt (Nat.lt_of_lt_of_le filled (Nat.le_of_succ_le_succ within)))
            cases passes : wayFault? (joinPath root name) folder with
            | some fault =>
                right
                exact ⟨[name], rest, fault, rfl, ended, isBarred_of_wayFault passes,
                  mem_refusedDirectories_of_wayFault named shown known depth passes⟩
            | none =>
                obtain lists | ⟨above, others, fault, rfl, more, barred, reported⟩ :=
                  @inductionHypothesis (depth + 1) (joinPath root name) below sought
                · left
                  have entered : isEntered root folder name = true := by
                    simp [isEntered, known, passes]
                  exact (ScanPlan.lists_cons ended).mpr ⟨shown, below, named, entered, lists⟩
                · right
                  exact ⟨name :: above, others, fault, rfl, more, barred.cons named,
                    mem_refusedDirectories_of_entered named shown known passes reported⟩

end RoutineAtlas
