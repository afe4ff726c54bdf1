import SdkGraft.Proofs.Patch.Covers
import SdkGraft.Proofs.Patch.Reading
import SdkGraft.Proofs.Patch.SameRows

/-!
# A unified diff is a patch

* `IsPatch` : what the hunks of a diff state is true of the rows of two texts, and turns those of the one into those
  of the other;
* `isPatch_stated` : hunks that cover two lists are a patch between them;
* `unifiedRows_isPatch` : so is the diff of any two texts, as it reads; it is empty for the same rows only.
-/

namespace SdkGraft.Patch

def rowsIn (start count : Nat) (as : List Text) : List Text := (as.drop start).take count

def StatedHunk.replace (h : StatedHunk) (as : List Text) : List Text :=
  replaceRange h.oldStart h.oldCount h.new as

/-- The hunks are a patch that makes the rows `bs` of the rows `as`. -/
structure IsPatch (hs : List StatedHunk) (as bs : List Text) : Prop where
  /-- The counts are the numbers of rows that follow: those that stay or go, and those that stay or come. -/
  counts : ∀ h ∈ hs, h.oldCount = h.old.length ∧ h.newCount = h.new.length
  /-- The old ranges increase, and a row at least stands between two of them. -/
  apart : hs.Pairwise fun h later => h.oldStart + h.oldCount < later.oldStart
  /-- The rows that stay or go are those of the old range. -/
  old_eq : ∀ h ∈ hs, h.oldStart + h.oldCount ≤ as.length ∧ rowsIn h.oldStart h.oldCount as = h.old
  /-- The rows that stay or come are those of the new range. -/
  new_eq : ∀ h ∈ hs, h.newStart + h.newCount ≤ bs.length ∧ rowsIn h.newStart h.newCount bs = h.new
  /-- With all ranges replaced, the last first, the one list is the other. -/
  replaced : hs.foldr StatedHunk.replace as = bs

theorem isPatch_stated {hs : List (Hunk Text)} {as bs : List Text} (h : Covers 0 0 0 hs as bs) :
    IsPatch (hs.map Hunk.stated) as bs where
  counts := List.forall_mem_map.2 fun _ _ => ⟨rfl, rfl⟩
  apart := List.pairwise_map.2 h.apart
  old_eq := List.forall_mem_map.2 fun hunk hmem =>
    (h.standsAt List.length_nil List.length_nil hunk hmem).1.take_drop
  new_eq := List.forall_mem_map.2 fun hunk hmem =>
    (h.standsAt List.length_nil List.length_nil hunk hmem).2.take_drop
  replaced := by
    rw [List.foldr_map]
    exact h.replaced List.length_nil

theorem covers_hunksBetween (old new : Text) :
    Covers 0 0 0 (hunksBetween old new) (sourceRows old) (sourceRows new) := by
  have h := covers_hunks (steps (sourceRows old) (sourceRows new))
  rwa [source_steps, target_steps] at h

theorem hunksBetween_eq_nil_iff {old new : Text} : hunksBetween old new = [] ↔ sourceRows old = sourceRows new := by
  refine ⟨sourceRows_eq_of_hunksBetween, fun h => ?_⟩
  rw [hunksBetween, h, hunks_steps_self]

theorem unifiedRows_of_ne_nil {path old new : Text} (h : hunksBetween old new ≠ []) :
    unifiedRows path old new =
      fileRows path ++ (hunksBetween old new).flatMap fun h => headerRow h :: h.rows.map Row.written := by
  rw [unifiedRows]
  split
  · exact absurd ‹_› h
  · rfl

/-- Two texts with the same rows have an empty diff, and no others. Any other diff names the file twice, and the rows
behind that read as hunks that are a patch from the rows of the one text to those of the other. -/
theorem unifiedRows_isPatch (path old new : Text) :
    (unifiedRows path old new = [] ↔ sourceRows old = sourceRows new) ∧
      (sourceRows old ≠ sourceRows new → ∃ body hs, unifiedRows path old new = fileRows path ++ body ∧
        readHunks? body = some hs ∧ IsPatch hs (sourceRows old) (sourceRows new)) := by
  by_cases hnone : hunksBetween old new = []
  · have hempty : unifiedRows path old new = [] := by rw [unifiedRows, hnone]
    have hsame := hunksBetween_eq_nil_iff.1 hnone
    exact ⟨⟨fun _ => hsame, fun _ => hempty⟩, fun hdiffer => absurd hsame hdiffer⟩
  · have hrows := @unifiedRows_of_ne_nil path old new hnone
    refine ⟨⟨fun hempty => ?_, fun hsame => absurd (hunksBetween_eq_nil_iff.2 hsame) hnone⟩, fun _ =>
      ⟨_, _, hrows, readHunks?_written _, isPatch_stated (covers_hunksBetween old new)⟩⟩
    rw [hrows] at hempty
    cases hempty

theorem unifiedRows_isPatch_of_added_row :
    sourceRows "import UIKit\r\nclass A {}".toList ≠ sourceRows "import UIKit\nimport Plengi\nclass A {}".toList ∧
      ∃ body hs, unifiedRows "App.swift".toList "import UIKit\r\nclass A {}".toList
          "import UIKit\nimport Plengi\nclass A {}".toList = fileRows "App.swift".toList ++ body ∧
        readHunks? body = some hs ∧
        IsPatch hs ["import UIKit\n".toList, "class A {}".toList]
          ["import UIKit\n".toList, "import Plengi\n".toList, "class A {}".toList] :=
  ⟨by decide, (unifiedRows_isPatch _ _ _).2 (by decide)⟩

end SdkGraft.Patch
