import RoutineAtlas.Outline.FunctionNames
import RoutineAtlas.Proofs.Text.Lines

/-
This file settles which function names a source of two parts has. The lines of the parts are the
lines of the whole, but for an empty line at the seam, and a name is listed where it is first seen.
-/

namespace RoutineAtlas

/-- Names may be left out before or after later duplicates are dropped. -/
theorem eraseDups_filter (wanted : String → Bool) (names : List String) :
    (names.filter wanted).eraseDups = names.eraseDups.filter wanted := by
  match names with
  | [] => rfl
  | name :: others =>
      have shorter : (others.filter fun other => !other == name).length < others.length + 1 :=
        Nat.lt_succ_of_le (List.length_filter_le _ _)
      rw [List.eraseDups_cons, List.filter_cons, List.filter_cons,
        ← eraseDups_filter wanted (others.filter fun other => !other == name)]
      split
      · simp only [List.eraseDups_cons, List.filter_filter, Bool.and_comm]
      · rename_i unwanted
        have kept : (others.filter fun other => !other == name).filter wanted =
            others.filter wanted := by
          rw [List.filter_filter]
          apply List.filter_congr
          intro other _
          by_cases same : other = name
          · rw [same]
            simpa using unwanted
          · simp [same]
        rw [kept]
termination_by names.length

/-- Later duplicates need to be dropped once. -/
theorem eraseDups_eraseDups (names : List String) :
    names.eraseDups.eraseDups = names.eraseDups := by
  match names with
  | [] => rfl
  | name :: others =>
      have shorter : (others.filter fun other => !other == name).length < others.length + 1 :=
        Nat.lt_succ_of_le (List.length_filter_le _ _)
      have once : (others.filter fun other => !other == name).filter (fun other => !other == name) =
          others.filter fun other => !other == name := by
        rw [List.filter_filter]
        simp only [Bool.and_self]
      rw [List.eraseDups_cons, List.eraseDups_cons, ← eraseDups_filter, once,
        eraseDups_eraseDups (others.filter fun other => !other == name)]
termination_by names.length

/-- Later duplicates may be dropped from two parts before they are dropped from the whole. -/
theorem eraseDups_append_eraseDups (first second : List String) :
    (first ++ second).eraseDups = (first.eraseDups ++ second.eraseDups).eraseDups := by
  have missing : second.removeAll first = second.filter fun name => !first.contains name := rfl
  have missingToo : second.eraseDups.removeAll first.eraseDups =
      second.eraseDups.filter fun name => !first.contains name := by
    apply List.filter_congr
    intro name _
    congr 1
    rw [Bool.eq_iff_iff, List.elem_iff, List.contains_iff_mem, List.mem_eraseDups]
  rw [List.eraseDups_append, List.eraseDups_append, eraseDups_eraseDups, missing, missingToo,
    eraseDups_filter, eraseDups_filter, eraseDups_eraseDups]

/-- A source of two parts declares what the parts declare, each name where it is first seen. -/
theorem FunctionNames.of_joined (above below : String) :
    (FunctionNames.of (above ++ "\n" ++ below)).user =
        ((FunctionNames.of above).user ++ (FunctionNames.of below).user).eraseDups ∧
      (FunctionNames.of (above ++ "\n" ++ below)).static =
        ((FunctionNames.of above).static ++ (FunctionNames.of below).static).eraseDups := by
  have joined : (above ++ "\n" ++ below).toList = above.toList ++ '\n' :: below.toList := by simp
  simp only [FunctionNames.of, joined]
  rw [filterMap_cutLines_joined '\n' userFunctionOf rfl,
    filterMap_cutLines_joined '\n' staticFunctionOf rfl]
  exact ⟨eraseDups_append_eraseDups _ _, eraseDups_append_eraseDups _ _⟩

end RoutineAtlas
