import SdkGraft.Source.Anchor

/-!
# Targets lie inside their document

* `findCallback?_lt`, `findDeclaration?_lt`, `findBody?_lt` : a line that is found is one of the lines;
* `anchor_of_classify` : so is the line after which the initialization goes.
-/

namespace SdkGraft.Source

variable {p : EntryPatterns} {codes : List Text} {i j : Nat}

theorem findCallback?_lt (h : findCallback? p codes = some i) : i < codes.length :=
  (List.findIdx?_eq_some_iff_findIdx_eq.1 h).1

theorem findDeclaration?_lt (h : findDeclaration? p codes = some i) : i < codes.length := by
  rw [findDeclaration?, Option.map_eq_some_iff] at h
  obtain ⟨k, hk, rfl⟩ := h
  have hlt := (List.findIdx?_eq_some_iff_findIdx_eq.1 hk).1
  rw [List.length_drop] at hlt
  omega

theorem findBodyFrom?_lt (h : findBodyFrom? codes = some i) : i < codes.length := by
  induction codes generalizing i with
  | nil => cases h
  | cons code rest ih =>
    rw [findBodyFrom?] at h
    split at h
    · split at h
      · cases h
        exact Nat.succ_pos _
      · cases h
    split at h
    · obtain ⟨k, hk, rfl⟩ := Option.map_eq_some_iff.1 h
      exact Nat.succ_lt_succ (ih hk)
    · cases h

/-- The body of a constructor is opened in the line where it stands or in a later one. -/
theorem findBody?_lt (h : findBody? codes i = some j) : j < codes.length := by
  rw [findBody?] at h
  split at h
  · cases h
  rename_i code rest hdrop
  have hlength := congrArg List.length hdrop
  rw [List.length_drop, List.length_cons] at hlength
  split at h
  · split at h
    · cases h
      omega
    · cases h
  · obtain ⟨k, hk, rfl⟩ := Option.map_eq_some_iff.1 h
    have hlt := findBodyFrom?_lt hk
    omega

theorem anchor_of_rootTarget? {declaration : Nat} (hdeclaration : declaration < codes.length) {target : Target}
    (h : rootTarget? codes declaration = some target) : 0 ≤ target.anchor ∧ target.anchor < codes.length := by
  rw [rootTarget?] at h
  split at h
  · cases h
    exact ⟨Int.natCast_nonneg _, Int.ofNat_lt.2 hdeclaration⟩
  · obtain ⟨anchor, hanchor, rfl⟩ := Option.map_eq_some_iff.1 h
    obtain ⟨body, hbody, hcast⟩ := Option.bind_eq_some_iff.1 hanchor
    cases hcast
    exact ⟨Int.natCast_nonneg _, Int.ofNat_lt.2 (findBody?_lt hbody)⟩

/-- Whatever a document is taken for, the line after which the initialization goes is one of its lines. -/
theorem anchor_of_classify {kind : Option EntryKind} {lines : List Text} {target : Target}
    (h : classify p kind lines = some target) : 0 ≤ target.anchor ∧ target.anchor < lines.length := by
  rw [← codeParts_length lines]
  rw [classify] at h
  split at h
  · rename_i line hline
    cases h
    exact ⟨Int.natCast_nonneg _, Int.ofNat_lt.2 (findCallback?_lt hline)⟩
  split at h
  · cases h
  obtain ⟨declaration, hdeclaration, htarget⟩ := Option.bind_eq_some_iff.1 h
  exact anchor_of_rootTarget? (findDeclaration?_lt hdeclaration) htarget

end SdkGraft.Source
