import SdkGraft.Proofs.Source.Insertion
import SdkGraft.Proofs.Source.Targets

/-!
# Searches go past what they overlook

* `findIdx?_insertAt` : a search for the first element finds the same one if what is put in is not looked for;
* `EntryPatterns.overlooks` : the code names no entry point; `findCallback?_insertAt`,
  `findDeclaration?_insertAt` : the lines that do are found where they stand then;
* `IsQuiet` : the code has no braces and begins no constructor; `findConstructor?_insertAt` : a constructor is
  found where it stands then;
* `findConstructor?_of_take_eq` : a constructor is found by the lines up to it;
* `IsBody.shift` : so is a body.
-/

namespace SdkGraft.Source

/-! ## The first element -/

section
variable {α : Type} {xs ls : List α} {i : Nat}

/-- What is put in among other elements is not found, and the first one that is found stays the first one. -/
theorem findIdx?_insertAt {q : α → Bool} (hx : ∀ x ∈ xs, q x = false) (hi : i ≤ ls.length) :
    (insertAt i xs ls).findIdx? q = (ls.findIdx? q).map (shiftFrom i xs.length) := by
  have hnone : xs.findIdx? q = none := by
    rw [List.findIdx?_eq_none_iff]
    exact hx
  have hfront : (ls.take i).length = i := by rw [List.length_take, Nat.min_eq_left hi]
  have hls : ls.findIdx? q = ((ls.take i).findIdx? q).or (((ls.drop i).findIdx? q).map (· + (ls.take i).length)) := by
    rw [← List.findIdx?_append, List.take_append_drop]
  unfold insertAt
  rw [hls, List.append_assoc, List.findIdx?_append, List.findIdx?_append, hnone, hfront, Option.none_or]
  cases hbefore : (ls.take i).findIdx? q with
  | some k =>
    have hk := (List.findIdx?_eq_some_iff_findIdx_eq.1 hbefore).1
    rw [Option.some_or, Option.some_or, Option.map_some, shiftFrom_of_lt (by omega)]
  | none =>
    rw [Option.none_or, Option.none_or, Option.map_map, Option.map_map]
    congr 1
    funext k
    show k + xs.length + i = shiftFrom i xs.length (k + i)
    rw [Nat.add_comm k i, shiftFrom_add_of_le (Nat.le_refl i)]
    omega

/-- The same for a search that starts later, but before what is put in. -/
theorem findIdx?_drop_insertAt {q : α → Bool} (hx : ∀ x ∈ xs, q x = false) (hi : i ≤ ls.length) {j : Nat}
    (hj : j ≤ i) :
    (((insertAt i xs ls).drop j).findIdx? q).map (j + ·) =
      (((ls.drop j).findIdx? q).map (j + ·)).map (shiftFrom i xs.length) := by
  rw [drop_insertAt hi xs hj, findIdx?_insertAt hx (by rw [List.length_drop]; omega), Option.map_map,
    Option.map_map]
  congr 1
  funext k
  exact (shiftFrom_add hj xs.length k).symm

end

/-! ## Names -/

variable {p : EntryPatterns} {codes xs : List Text} {i : Nat}

/-- The code is neither the line of a launch callback nor a marker or a declaration of a root. -/
def EntryPatterns.overlooks (p : EntryPatterns) (code : Text) : Bool :=
  !(Text.occursIn p.delegateKeyword code && Text.occursIn p.launchOptions code)
    && !Text.occursIn p.rootMarker code && !isRootDeclaration p code

theorem EntryPatterns.overlooks_iff {code : Text} :
    p.overlooks code = true ↔
      (Text.occursIn p.delegateKeyword code && Text.occursIn p.launchOptions code) = false ∧
      Text.occursIn p.rootMarker code = false ∧ isRootDeclaration p code = false := by
  unfold EntryPatterns.overlooks
  rw [Bool.and_eq_true, Bool.and_eq_true, Bool.not_eq_true', Bool.not_eq_true', Bool.not_eq_true', and_assoc]

theorem findCallback?_insertAt (hx : ∀ x ∈ xs, p.overlooks x = true) (hi : i ≤ codes.length) :
    findCallback? p (insertAt i xs codes) = (findCallback? p codes).map (shiftFrom i xs.length) :=
  findIdx?_insertAt (fun x hxs => (EntryPatterns.overlooks_iff.1 (hx x hxs)).1) hi

theorem findMarker?_insertAt (hx : ∀ x ∈ xs, p.overlooks x = true) (hi : i ≤ codes.length) :
    findMarker? p (insertAt i xs codes) = (findMarker? p codes).map (shiftFrom i xs.length) :=
  findIdx?_insertAt (fun x hxs => (EntryPatterns.overlooks_iff.1 (hx x hxs)).2.1) hi

/-- The declaration stays the first one from the marker on, whether it is put before the marker or behind it. -/
theorem findDeclaration?_insertAt (hx : ∀ x ∈ xs, p.overlooks x = true) (hi : i ≤ codes.length) :
    findDeclaration? p (insertAt i xs codes) = (findDeclaration? p codes).map (shiftFrom i xs.length) := by
  have hdeclaration : ∀ x ∈ xs, isRootDeclaration p x = false := fun x hxs =>
    (EntryPatterns.overlooks_iff.1 (hx x hxs)).2.2
  unfold findDeclaration?
  rw [findMarker?_insertAt hx hi]
  cases findMarker? p codes with
  | none => exact findIdx?_drop_insertAt hdeclaration hi (Nat.zero_le i)
  | some m =>
    rcases Nat.lt_or_ge m i with hm | hm
    · rw [Option.map_some, shiftFrom_of_lt hm]
      exact findIdx?_drop_insertAt hdeclaration hi (Nat.le_of_lt hm)
    · rw [Option.map_some, shiftFrom_of_le hm, Option.getD_some, Option.getD_some]
      dsimp only
      rw [drop_insertAt_ge hi xs hm, Option.map_map]
      congr 1
      funext k
      exact (shiftFrom_add_of_le hm xs.length k).symm

/-! ## Constructors -/

/-- The code has no braces and begins no constructor. -/
structure IsQuiet (code : Text) : Prop where
  opening : '\x7b' ∉ code
  closing : '\x7d' ∉ code
  start : startsConstructor code = false

theorem findConstructorFrom?_quiet_append (hx : ∀ x ∈ xs, IsQuiet x) {b : Braces} (hb : b.isClosed = false) :
    findConstructorFrom? b (xs ++ codes) = (findConstructorFrom? b codes).map (· + xs.length) := by
  induction xs with
  | nil => simp
  | cons x xs ih =>
    have hquiet := hx x List.mem_cons_self
    have hread := Braces.read_of_not_mem hquiet.opening hquiet.closing b
    rw [List.cons_append, findConstructorFrom?, if_neg (by simp [hquiet.start]), hread, if_neg (by simp [hb]),
      ih fun y hy => hx y (List.mem_cons_of_mem x hy), Option.map_map]
    rfl

theorem findConstructorFrom?_insertAt (hx : ∀ x ∈ xs, IsQuiet x) (hi : i ≤ codes.length) {b : Braces}
    (hb : b.isClosed = false) :
    findConstructorFrom? b (insertAt i xs codes) =
      (findConstructorFrom? b codes).map (shiftFrom i xs.length) := by
  induction codes generalizing i b with
  | nil =>
    cases Nat.le_zero.1 hi
    exact findConstructorFrom?_quiet_append hx hb
  | cons code rest ih =>
    cases i with
    | zero => exact findConstructorFrom?_quiet_append hx hb
    | succ i =>
      show findConstructorFrom? b (code :: insertAt i xs rest) = _
      unfold findConstructorFrom?
      split
      · rfl
      split
      · rfl
      · rename_i hopen
        rw [ih (Nat.le_of_succ_le_succ hi) (by simpa using hopen), Option.map_map, Option.map_map]
        congr 1
        funext k
        show shiftFrom i xs.length k + 1 = shiftFrom (i + 1) xs.length (k + 1)
        rw [Nat.add_comm k 1, shiftFrom_add (by omega), Nat.add_sub_cancel, Nat.add_comm]

/-- A constructor stays the constructor of its declaration, wherever quiet code is put. -/
theorem findConstructor?_insertAt (hx : ∀ x ∈ xs, IsQuiet x) (hi : i ≤ codes.length) (declaration : Nat) :
    findConstructor? (insertAt i xs codes) (shiftFrom i xs.length declaration) =
      (findConstructor? codes declaration).map (shiftFrom i xs.length) := by
  unfold findConstructor?
  rcases Nat.lt_or_ge declaration i with hlt | hge
  · rw [shiftFrom_of_lt hlt, drop_insertAt hi xs (Nat.le_of_lt hlt),
      findConstructorFrom?_insertAt hx (by rw [List.length_drop]; omega) rfl, Option.map_map, Option.map_map]
    congr 1
    funext k
    exact (shiftFrom_add (Nat.le_of_lt hlt) xs.length k).symm
  · rw [shiftFrom_of_le hge, drop_insertAt_ge hi xs hge, Option.map_map]
    congr 1
    funext k
    exact (shiftFrom_add_of_le hge xs.length k).symm

theorem findConstructorFrom?_of_take_eq {codes' : List Text} {b : Braces} {k n : Nat}
    (h : findConstructorFrom? b codes = some k) (hk : k < n) (htake : codes'.take n = codes.take n) :
    findConstructorFrom? b codes' = some k := by
  induction codes generalizing b k n codes' with
  | nil => cases h
  | cons code rest ih =>
    obtain ⟨n, rfl⟩ : ∃ m, n = m + 1 := ⟨n - 1, by omega⟩
    cases codes' with
    | nil => cases htake
    | cons code' rest' =>
      rw [List.take_succ_cons, List.take_succ_cons] at htake
      obtain ⟨rfl, hrest⟩ := List.cons.inj htake
      unfold findConstructorFrom? at h ⊢
      split at h
      · rename_i hfound
        rw [if_pos hfound]
        exact h
      split at h
      · cases h
      · rename_i hfound hclosed
        obtain ⟨k', hk', rfl⟩ := Option.map_eq_some_iff.1 h
        rw [if_neg hfound, if_neg hclosed, ih hk' (by omega) hrest]
        rfl

theorem findConstructor?_of_take_eq {codes' : List Text} {declaration c n : Nat}
    (h : findConstructor? codes declaration = some c) (hc : c < n) (htake : codes'.take n = codes.take n) :
    findConstructor? codes' declaration = some c := by
  unfold findConstructor? at h ⊢
  obtain ⟨k, hk, rfl⟩ := Option.map_eq_some_iff.1 h
  have hdrop : (codes'.drop declaration).take (n - declaration) = (codes.drop declaration).take (n - declaration) := by
    rw [← List.drop_take, ← List.drop_take, htake]
  rw [findConstructorFrom?_of_take_eq hk (by omega) hdrop]
  rfl

theorem IsBody.shift {codes' : List Text} {c b n : Nat} (h : IsBody codes c b)
    (hcodes : ∀ j, c ≤ j → j ≤ b → codes'[j + n]? = codes[j]?) : IsBody codes' (c + n) (b + n) where
  le := Nat.add_le_add_right h.le n
  first := fun hlt => by
    rw [hcodes c (Nat.le_refl c) h.le]
    exact h.first (by omega)
  quiet := fun j hj hjb => by
    have hj' : j = j - n + n := by omega
    rw [hj', hcodes _ (by omega) (by omega)]
    exact h.quiet _ (by omega) (by omega)
  opens := by
    rw [hcodes b h.le (Nat.le_refl b)]
    exact h.opens

end SdkGraft.Source
