import SdkGraft.Proofs.Source.AnchorRange

/-!
# What the search for a target finds

* `IsBody codes c b` : the braces of line `c` are first opened in line `b`, and left open there
  (`findBody?_eq_some_iff`);
* `IsTarget codes c a t` : the target `t` is in the construct of line `c` and anchors at line `a`, in one of
  three ways (`classify_eq_some_iff`).
-/

namespace SdkGraft.Source

variable {p : EntryPatterns} {kind : Option EntryKind} {codes : List Text}

/-! ## Bodies -/

theorem mem_of_leavesOpen {code : Text} (h : leavesOpen code = true) : '\x7b' ∈ code := by
  unfold leavesOpen at h
  rw [decide_eq_true_eq] at h
  exact List.count_pos_iff.1 (by omega)

theorem findBodyFrom?_eq_some_iff {k : Nat} :
    findBodyFrom? codes = some k ↔
      (∀ j < k, codes[j]? = some []) ∧ ∃ code, codes[k]? = some code ∧ leavesOpen code = true := by
  induction codes generalizing k with
  | nil => simp [findBodyFrom?]
  | cons code rest ih =>
    unfold findBodyFrom?
    by_cases hbrace : '\x7b' ∈ code
    · have hne : code ≠ [] := List.ne_nil_of_mem hbrace
      rw [if_pos (by simpa using hbrace)]
      cases k with
      | zero => cases hopen : leavesOpen code <;> simp [hopen]
      | succ k =>
        constructor
        · intro h
          split at h <;> cases h
        · rintro ⟨hempty, -⟩
          exact absurd (Option.some.inj (hempty 0 (Nat.succ_pos k))) hne
    · have hopen : leavesOpen code ≠ true := fun hopen => hbrace (mem_of_leavesOpen hopen)
      rw [if_neg (by simpa using hbrace)]
      cases code with
      | nil =>
        cases k with
        | zero => simp [hopen]
        | succ k =>
          rw [if_pos (show ([] : Text).isEmpty = true from rfl), Option.map_eq_some_iff]
          constructor
          · rintro ⟨k', hk', hsucc⟩
            cases hsucc
            obtain ⟨hempty, hcode⟩ := ih.1 hk'
            refine ⟨fun j hj => ?_, hcode⟩
            cases j with
            | zero => rfl
            | succ j => exact hempty j (by omega)
          · rintro ⟨hempty, hcode⟩
            exact ⟨k, ih.2 ⟨fun j hj => hempty (j + 1) (by omega), hcode⟩, rfl⟩
      | cons ch r =>
        rw [if_neg (by simp)]
        constructor
        · intro h
          cases h
        · rintro ⟨hempty, hcode⟩
          cases k with
          | zero =>
            obtain ⟨code', hcode', hopen'⟩ := hcode
            cases hcode'
            exact absurd hopen' hopen
          | succ k => cases hempty 0 (Nat.succ_pos k)

/-- From line `c` on, line `b` is the first with an opening brace, and it leaves braces open; no code
stands between the two. -/
structure IsBody (codes : List Text) (c b : Nat) : Prop where
  le : c ≤ b
  first : c < b → ∃ code, codes[c]? = some code ∧ '\x7b' ∉ code
  quiet : ∀ j, c < j → j < b → codes[j]? = some []
  opens : ∃ code, codes[b]? = some code ∧ leavesOpen code = true

theorem findBody?_of_getElem? {c : Nat} {code : Text} (hcode : codes[c]? = some code) :
    findBody? codes c =
      if '\x7b' ∈ code then (if leavesOpen code then some c else none)
      else (findBodyFrom? (codes.drop (c + 1))).map (c + 1 + ·) := by
  obtain ⟨hlt, hget⟩ := List.getElem?_eq_some_iff.1 hcode
  have hdrop : codes.drop c = code :: codes.drop (c + 1) := by
    rw [List.drop_eq_getElem_cons hlt, hget]
  unfold findBody?
  rw [hdrop]
  simp

/-- A line with a brace is its own body's line or has none. -/
theorem isBody_iff_of_mem {c b : Nat} {code : Text} (hcode : codes[c]? = some code) (hbrace : '\x7b' ∈ code) :
    IsBody codes c b ↔ leavesOpen code = true ∧ c = b := by
  constructor
  · intro h
    rcases Nat.eq_or_lt_of_le h.le with rfl | hlt
    · obtain ⟨code', hcode', hopen⟩ := h.opens
      cases hcode.symm.trans hcode'
      exact ⟨hopen, rfl⟩
    · obtain ⟨code', hcode', hnone⟩ := h.first hlt
      cases hcode.symm.trans hcode'
      exact absurd hbrace hnone
  · rintro ⟨hopen, rfl⟩
    exact ⟨Nat.le_refl _, fun h => absurd h (Nat.lt_irrefl _), fun j h h' => by omega, code, hcode, hopen⟩

/-- A line without a brace has the body that is opened in the lines behind it. -/
theorem isBody_iff_of_not_mem {c b : Nat} {code : Text} (hcode : codes[c]? = some code) (hbrace : '\x7b' ∉ code) :
    IsBody codes c b ↔ ∃ k, findBodyFrom? (codes.drop (c + 1)) = some k ∧ c + 1 + k = b := by
  have hrest : ∀ j, codes[c + 1 + j]? = (codes.drop (c + 1))[j]? := fun j => List.getElem?_drop.symm
  constructor
  · intro h
    obtain ⟨code', hcode', hopen⟩ := h.opens
    have hne : c ≠ b := by
      rintro rfl
      cases hcode.symm.trans hcode'
      exact hbrace (mem_of_leavesOpen hopen)
    have hle := h.le
    obtain ⟨k, rfl⟩ : ∃ k, b = c + 1 + k := ⟨b - c - 1, by omega⟩
    rw [hrest] at hcode'
    refine ⟨k, findBodyFrom?_eq_some_iff.2 ⟨fun j hj => ?_, code', hcode', hopen⟩, rfl⟩
    rw [← hrest]
    exact h.quiet _ (by omega) (by omega)
  · rintro ⟨k, hk, rfl⟩
    obtain ⟨hempty, code', hcode', hopen⟩ := findBodyFrom?_eq_some_iff.1 hk
    rw [← hrest] at hcode'
    refine ⟨by omega, fun _ => ⟨code, hcode, hbrace⟩, fun j hj hjb => ?_, code', hcode', hopen⟩
    obtain ⟨i, rfl⟩ : ∃ i, j = c + 1 + i := ⟨j - c - 1, by omega⟩
    rw [hrest]
    exact hempty i (by omega)

theorem findBody?_eq_some_iff {c b : Nat} : findBody? codes c = some b ↔ IsBody codes c b := by
  cases hcode : codes[c]? with
  | none =>
    have hdrop : codes.drop c = [] := List.drop_eq_nil_of_le (List.getElem?_eq_none_iff.1 hcode)
    unfold findBody?
    rw [hdrop]
    constructor
    · intro h
      cases h
    · intro h
      obtain ⟨code, hopens, -⟩ := h.opens
      have hlt := (List.getElem?_eq_some_iff.1 hopens).1
      have hout := List.getElem?_eq_none_iff.1 hcode
      have hle := h.le
      omega
  | some code =>
    rw [findBody?_of_getElem? hcode]
    split
    · rename_i hbrace
      rw [isBody_iff_of_mem hcode hbrace]
      cases hopen : leavesOpen code <;> simp
    · rename_i hbrace
      rw [isBody_iff_of_not_mem hcode hbrace, Option.map_eq_some_iff]

/-! ## Targets -/

/-- The target `t` is in the construct that stands at line `c`, and the initialization goes behind line
`a`. -/
inductive IsTarget (p : EntryPatterns) (kind : Option EntryKind) (codes : List Text) :
    (c a : Nat) → Target → Prop
  /-- A launch callback, which comes first. -/
  | callback {line : Nat} : findCallback? p codes = some line → IsTarget p kind codes line line (.callback line)
  /-- A root without a constructor. -/
  | root {declaration : Nat} : findCallback? p codes = none → kind ≠ some .delegateCallback →
    findDeclaration? p codes = some declaration → findConstructor? codes declaration = none →
    IsTarget p kind codes declaration declaration ⟨.annotatedRoot, declaration, false, none⟩
  /-- The constructor of a root, with an open body. -/
  | constructor {declaration c b : Nat} : findCallback? p codes = none → kind ≠ some .delegateCallback →
    findDeclaration? p codes = some declaration → findConstructor? codes declaration = some c →
    IsBody codes c b → IsTarget p kind codes c b ⟨.annotatedRoot, declaration, true, some (b : Int)⟩

theorem classify_eq_some_iff {lines : List Text} {t : Target} :
    classify p kind lines = some t ↔ ∃ c a, IsTarget p kind (codeParts lines) c a t := by
  rw [classify]
  constructor
  · intro h
    split at h
    · rename_i line hline
      cases h
      exact ⟨_, _, .callback hline⟩
    rename_i hnone
    split at h
    · cases h
    rename_i hkind
    obtain ⟨declaration, hdeclaration, htarget⟩ := Option.bind_eq_some_iff.1 h
    unfold rootTarget? at htarget
    split at htarget
    · rename_i hconstructor
      cases htarget
      exact ⟨_, _, .root hnone hkind hdeclaration hconstructor⟩
    · rename_i c hc
      obtain ⟨body, hbody, htarget⟩ := Option.map_eq_some_iff.1 htarget
      obtain ⟨b, hb, hcast⟩ := Option.bind_eq_some_iff.1 hbody
      cases hcast
      cases htarget
      exact ⟨_, _, .constructor hnone hkind hdeclaration hc (findBody?_eq_some_iff.1 hb)⟩
  · rintro ⟨c, a, ht⟩
    cases ht with
    | callback hline => simp only [hline]
    | root hnone hkind hdeclaration hconstructor =>
      simp only [hnone, if_neg hkind, hdeclaration, Option.bind_some, rootTarget?, hconstructor]
    | constructor hnone hkind hdeclaration hc hbody =>
      simp only [hnone, if_neg hkind, hdeclaration, Option.bind_some, rootTarget?, hc,
        findBody?_eq_some_iff.2 hbody]
      rfl

theorem IsTarget.anchor_eq {c a : Nat} {t : Target} (h : IsTarget p kind codes c a t) : t.anchor = a := by
  cases h <;> rfl

theorem IsTarget.anchor_lt {c a : Nat} {t : Target} (h : IsTarget p kind codes c a t) : a < codes.length := by
  cases h with
  | callback hline => exact findCallback?_lt hline
  | root _ _ hdeclaration _ => exact findDeclaration?_lt hdeclaration
  | constructor _ _ _ _ hbody =>
    obtain ⟨code, hcode, -⟩ := hbody.opens
    exact (List.getElem?_eq_some_iff.1 hcode).1

end SdkGraft.Source
