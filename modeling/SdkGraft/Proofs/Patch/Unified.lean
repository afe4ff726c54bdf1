import SdkGraft.Patch.Unified

/-!
# Unified diffs of texts that differ

* `hunksFrom_ne_nil` : an open hunk is not lost;
* `source_eq_target_of_hunks` : a script without hunks changes nothing;
* `foldCrlf_eq_of_unified` : texts with an empty diff are the same, their carriage-return pairs folded.
-/

namespace SdkGraft.Patch

variable {α : Type}

/-- Where a hunk is open, there will be one. -/
theorem hunksFrom_ne_nil {old new : Nat} {opened : Option (Hunk α)} {script : List (Step α)}
    (h : opened ≠ none) : hunksFrom old new opened script ≠ [] := by
  fun_induction hunksFrom old new opened script with
  | case1 old new opened => simpa using h
  | case2 old new opened rows => simpa using h
  | case3 old new rows rest hrest skipped fresh ih => exact absurd rfl h
  | case4 old new rows rest hrest skipped fresh hunk hlong ih => exact List.cons_ne_nil _ _
  | case5 old new rows rest hrest hunk hshort ih => exact ih (by simp)
  | case6 old new opened removed added rest hunk ih => exact ih (by simp)

/-- A script without hunks keeps all rows. -/
theorem source_eq_target_of_hunks {script : List (Step α)} (h : hunks script = []) :
    source script = target script := by
  cases script with
  | nil => rfl
  | cons step rest =>
    cases step with
    | change removed added =>
      rw [hunks, hunksFrom] at h
      exact absurd h (hunksFrom_ne_nil (by simp))
    | keep rows =>
      cases rest with
      | nil => rfl
      | cons next more =>
        rw [hunks, hunksFrom] at h
        · exact absurd h (hunksFrom_ne_nil (by simp))
        · exact List.cons_ne_nil next more

theorem sourceRows_eq_of_hunksBetween {old new : Text} (h : hunksBetween old new = []) :
    sourceRows old = sourceRows new := by
  have hsame := source_eq_target_of_hunks h
  rwa [source_steps, target_steps] at hsame

/-- Only texts that are the same, their carriage-return pairs folded, have an empty diff. -/
theorem foldCrlf_eq_of_unified {path old new : Text} (h : unified path old new = []) :
    Text.foldCrlf old = Text.foldCrlf new := by
  have hnone : hunksBetween old new = [] := by
    rw [unified, unifiedRows] at h
    split at h
    · assumption
    · rw [fileRows, List.cons_append, List.flatten_cons, List.append_assoc] at h
      cases h
  have hrows := congrArg List.flatten (sourceRows_eq_of_hunksBetween hnone)
  rwa [sourceRows, sourceRows, Text.flatten_rows, Text.flatten_rows] at hrows

end SdkGraft.Patch
