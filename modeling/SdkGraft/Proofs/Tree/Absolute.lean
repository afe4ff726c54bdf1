import SdkGraft.Proofs.Tree.Below

/-!
# Where a spare file is put

* `Path.resolveDots_append` : behind names that are taken back, other names stay;
* `Tree.absolute_eq` : a path made absolute, by its root and its names;
* `spareDirectory_under` : the directory for the spare file of a path behind a root, by the root made absolute;
* `resolveFrom_append_of_error` : a route that fails cannot be gone on with;
* `resolve_spareDirectory` : where that directory is;
* `replaceFile_below` : a file below a root is written straight below where the root leads to.
-/

namespace SdkGraft

/-! ## Names taken back -/

namespace Path

theorem foldl_stepDots_of_names {names : List Text} (h : ∀ n ∈ names, n ≠ ['.', '.']) (before : List Text) :
    names.foldl stepDots before = before ++ names := by
  induction names generalizing before with
  | nil => rw [List.foldl_nil, List.append_nil]
  | cons name rest ih =>
    obtain ⟨hname, hrest⟩ := List.forall_mem_cons.1 h
    rw [List.foldl_cons, stepDots, if_neg hname, ih hrest, List.append_assoc, List.singleton_append]

theorem resolveDots_append (before : List Text) {names : List Text} (h : ∀ n ∈ names, n ≠ ['.', '.']) :
    resolveDots (before ++ names) = resolveDots before ++ names := by
  rw [resolveDots, List.foldl_append, foldl_stepDots_of_names h, resolveDots]

theorem mem_of_mem_foldl_stepDots {names before : List Text} {n : Text} (h : n ∈ names.foldl stepDots before) :
    n ∈ before ∨ n ∈ names := by
  induction names generalizing before with
  | nil => exact .inl h
  | cons name rest ih =>
    rw [List.foldl_cons] at h
    rcases ih h with hstep | hrest
    · rw [stepDots] at hstep
      split at hstep
      · exact .inl (List.dropLast_subset _ hstep)
      · rcases List.mem_append.1 hstep with hbefore | hname
        · exact .inl hbefore
        · exact .inr (by rw [List.mem_singleton.1 hname]; exact List.mem_cons_self)
    · exact .inr (List.mem_cons_of_mem _ hrest)

theorem mem_of_mem_resolveDots {names : List Text} {n : Text} (h : n ∈ resolveDots names) : n ∈ names := by
  rcases mem_of_mem_foldl_stepDots h with hnil | hnames
  · cases hnil
  · exact hnames

end Path

namespace Tree

variable {t : Tree} {links : Nat} {place : Place} {root : Text} {names parts rest : List Text} {name : Text}

/-! ## Absolute paths -/

def absoluteNames (here : Place) (path : Text) : Place := Path.resolveDots (startOf here path ++ Path.parts path)

def absoluteRoot (path : Text) : Text := if Path.isAbsolute path then Path.rootOf path else ['/']

theorem absolute_eq (t : Tree) (path : Text) :
    t.absolute path = Path.ofParts (absoluteRoot path) (absoluteNames t.here path) := by
  rw [absolute, absoluteRoot, absoluteNames, startOf]
  split
  · rw [List.nil_append]
  · rfl

theorem isRoot_absoluteRoot (path : Text) : Path.IsRoot (absoluteRoot path) := by
  rw [absoluteRoot]
  split
  · exact Path.isRoot_rootOf path
  · exact .inr (.inl rfl)

theorem isEmpty_absoluteRoot (path : Text) : (absoluteRoot path).isEmpty = false := by
  rw [absoluteRoot]
  split
  · rename_i habsolute
    rw [Path.isAbsolute_eq] at habsolute
    simpa using habsolute
  · rfl

/-- The spare file for a path behind a root is put in a directory behind the root made absolute. -/
theorem spareDirectory_under (hnames : ∀ n ∈ names ++ [name], IsEntryName n) :
    t.spareDirectory (Path.under root (names ++ [name])) =
      Path.ofParts (absoluteRoot root) (absoluteNames t.here root ++ names) := by
  have hparts : ∀ n ∈ names ++ [name], Path.IsPart n := fun n hn => (hnames n hn).isPart
  have hbelow : ∀ n ∈ names, Path.IsPart n := fun n hn => hparts n (List.mem_append_left _ hn)
  rw [spareDirectory, Path.parent_under root hparts, absolute_eq, absoluteRoot, absoluteNames, startOf,
    Path.isAbsolute_under root hbelow, Path.rootOf_under hbelow, ← startOf, Path.parts_under hbelow, ← absoluteRoot,
    ← List.append_assoc, Path.resolveDots_append _ fun n hn => (hnames n (List.mem_append_left _ hn)).not_up,
    absoluteNames]

theorem isPart_absoluteNames {here : Place} (hhere : ∀ n ∈ startOf here root, Path.IsPart n) :
    ∀ n ∈ absoluteNames here root, Path.IsPart n := by
  intro n hn
  rcases List.mem_append.1 (Path.mem_of_mem_resolveDots hn) with hn | hn
  · exact hhere n hn
  · exact Path.isPart_parts root n hn

/-! ## Routes that fail -/

/-- A route that fails cannot be gone on with, if it is so behind every link. -/
theorem resolveFrom_append_of_follow
    (hfollow : ∀ place aim parts e, t.followFrom links place aim parts = .error e →
      t.followFrom links place aim (parts ++ rest) = .error e)
    {e : FileError} (h : t.resolveFrom links place parts = .error e) :
    t.resolveFrom links place (parts ++ rest) = .error e := by
  induction parts generalizing place with
  | nil =>
    rw [resolveFrom_nil] at h
    cases h
  | cons part parts ih =>
    rw [List.cons_append]
    rw [resolveFrom_cons] at h ⊢
    cases hturn : turn t.kind? place part with
    | stop e' => rwa [hturn] at h
    | go next =>
      rw [hturn] at h
      exact ih h
    | follow aim =>
      rw [hturn] at h
      exact hfollow place aim parts e h

theorem resolveFrom_append_of_error {e : FileError} (h : t.resolveFrom links place parts = .error e)
    (rest : List Text) : t.resolveFrom links place (parts ++ rest) = .error e := by
  induction links generalizing place parts e with
  | zero =>
    refine resolveFrom_append_of_follow (fun place aim parts e hf => ?_) h
    exact hf
  | succ links ih =>
    refine resolveFrom_append_of_follow (fun place aim parts e hf => ?_) h
    rw [followFrom] at hf ⊢
    rw [← List.append_assoc]
    exact ih hf

/-! ## The place of the spare file -/

theorem resolveFrom_append_nil (hdir : HasDir t.kind? place) {lead : List Text} (hlead : ∀ p ∈ lead, p = [])
    (parts : List Text) : t.resolveFrom links place (lead ++ parts) = t.resolveFrom links place parts := by
  induction lead with
  | nil => rfl
  | cons p lead ih =>
    obtain ⟨rfl, hrest⟩ := List.forall_mem_cons.1 hlead
    rw [List.cons_append, resolveFrom_cons, turn_nil hdir]
    exact ih hrest

section
variable {base : Text} (hbase : Path.IsRoot base) (hne : base.isEmpty = false) (hdir : HasDir t.kind? [])
include hbase hne hdir

theorem resolve_ofParts (hnames : ∀ n ∈ names, Path.IsPart n) :
    t.resolve (Path.ofParts base names) =
      if Path.isOverlong (Path.ofParts base names) then .error .nameTooLong else t.resolveFrom linkLimit [] names := by
  have hempty : Path.ofParts base names ≠ [] := Path.ofParts_ne_nil _ hnames
  have hstart : startOf t.here (Path.ofParts base names) = [] := by
    rw [startOf, Path.isAbsolute_ofParts hbase hnames, hne]
    rfl
  obtain ⟨lead, hlead, hsplit⟩ : ∃ lead, (∀ p ∈ lead, p = []) ∧
      Text.splitAt '/' (Path.ofParts base names) = lead ++ names := by
    rcases eq_or_ne names [] with rfl | hnames
    · obtain rfl | rfl | rfl := hbase
      · cases hne
      · exact ⟨[[], []], by simp, rfl⟩
      · exact ⟨[[], [], []], by simp, rfl⟩
    · exact Path.exists_splitAt_ofParts hbase ‹_› hnames
  rw [resolve, if_neg (by simp [hempty]), hstart, hsplit, resolveFrom_append_nil hdir hlead]

/-- Behind a path that leads nowhere nothing is found, and behind others what is straight below. -/
theorem resolve_ofParts_append {before : List Text} (hbefore : ∀ n ∈ before, Path.IsPart n)
    (hnames : ∀ n ∈ names, Path.IsPart n)
    (hdown : ∀ dest, t.resolve (Path.ofParts base before) = .ok dest → Leads t.kind? 0 dest names (dest ++ names)) :
    t.resolve (Path.ofParts base (before ++ names)) =
      if Path.isOverlong (Path.ofParts base (before ++ names)) then .error .nameTooLong
      else (t.resolve (Path.ofParts base before)).map (· ++ names) := by
  rw [resolve_ofParts hbase hne hdir (List.forall_mem_append.2 ⟨hbefore, hnames⟩)]
  split
  · rfl
  rename_i hlong
  have hshort : Path.isOverlong (Path.ofParts base before) = false :=
    Path.isOverlong_ofParts base hnames (by simpa using hlong)
  rw [resolve_ofParts hbase hne hdir hbefore, hshort] at hdown ⊢
  simp only [Bool.false_eq_true, if_false] at hdown ⊢
  cases hdest : t.resolveFrom linkLimit [] before with
  | error e => rw [resolveFrom_append_of_error hdest]; rfl
  | ok dest =>
    obtain ⟨n, hn, hleads⟩ := leads_of_resolveFrom hdest
    rw [resolveFrom_of_leads (hleads.trans (hdown dest hdest)), Nat.add_zero, if_pos hn]
    rfl

end

/-! ## A file below a root -/

theorem hasDir_of_concat {top : Place} {kind : Kind} (h : t.kind? (top ++ (names ++ [name])) = some kind) :
    HasDir t.kind? (top ++ names) := by
  rw [← List.append_assoc] at h
  exact hasDir_of_append h (by simp)

section
variable {top old : Place} {kind : Kind} (ht : t.IsProper) (htop : t.resolve root = .ok top)
variable (hkind : t.kind? (top ++ (names ++ [name])) = some kind)
include ht htop hkind

/-- The directory for the spare file of a file below a root is found by where the root made absolute leads to. -/
theorem resolve_spareDirectory (hold : t.resolve (Path.under root (names ++ [name])) = .ok old)
    (habsolute : ∀ goal, t.resolve (t.absolute root) = .ok goal → goal = top) :
    t.resolve (t.spareDirectory (Path.under root (names ++ [name]))) =
      if Path.isOverlong (t.spareDirectory (Path.under root (names ++ [name]))) then .error .nameTooLong
      else (t.resolve (t.absolute root)).map (· ++ names) := by
  have hnames : ∀ n ∈ names ++ [name], IsEntryName n := fun n hn =>
    ht.isEntryName hkind (List.mem_append_right _ hn)
  have hparts : ∀ n ∈ names, Path.IsPart n := fun n hn => (hnames n (List.mem_append_left _ hn)).isPart
  have hdir : HasDir t.kind? (top ++ names) := hasDir_of_concat hkind
  obtain ⟨n, hroute⟩ := leads_of_resolve_under htop (fun n hn => (hnames n hn).isPart) hold
  have hdown : Leads t.kind? 0 top names (top ++ names) := by
    refine leads_down (fun n hn => isStep_of_leads hroute (List.mem_append_left _ hn) (hnames n ?_)) hdir
      fun above left hsplit hleft => ?_
    · exact List.mem_append_left _ hn
    · obtain ⟨j, k, middle, -, hj, -⟩ := hroute.split
      exact openDir_of_leads (fun n hn => hnames n (List.mem_append_left _ hn)) hj hdir hsplit hleft
  rw [spareDirectory_under hnames]
  rw [absolute_eq] at habsolute ⊢
  refine resolve_ofParts_append (isRoot_absoluteRoot root) (isEmpty_absoluteRoot root) (hasDir_nil hdir)
    (isPart_absoluteNames fun n hn => ?_) hparts fun dest hdest => ?_
  · obtain ⟨kind, hkind⟩ := (startOf_dir_of_resolve htop).exists_kind
    exact (ht.isEntryName hkind hn).isPart
  · rw [habsolute dest hdest]
    exact hdown

/-- An attempt at a file below a root puts the new file straight below where the root leads to. -/
theorem replaceFile_below {was : Bytes} {mode : Nat} (hmode : isReadable mode = true)
    (hseen : t.seen (Path.under root (names ++ [name])) = .ok (.file was mode)) (mishaps : Mishaps) (bytes : Bytes) :
    t.replaceFile mishaps (Path.under root (names ++ [name])) bytes =
      match t.create mishaps (Path.under root (names ++ [name])) >>=
        t.filling mishaps (Path.under root (names ++ [name])) (top ++ names) with
      | .ok () => (t.putEntry (top ++ names) name (.file bytes mode), .ok ())
      | .error e => (t, .error e) := by
  have hnames : ∀ n ∈ names ++ [name], IsEntryName n := fun n hn =>
    ht.isEntryName hkind (List.mem_append_right _ hn)
  have hparts : ∀ n ∈ names ++ [name], Path.IsPart n := fun n hn => (hnames n hn).isPart
  have hdir : HasDir t.kind? (top ++ names) := hasDir_of_concat hkind
  obtain ⟨old, hold, hfile⟩ := (seen_eq_file_iff hmode).1 hseen
  obtain ⟨place, hdisplaced, hparent⟩ := exists_displaced hold hfile
  have hplace : place = top ++ names := by
    rw [Path.parent_under root hparts] at hparent
    exact resolve_under_eq (fun n hn => hnames n (List.mem_append_left _ hn)) htop hdir hparent
  have hreplaced := replaceFile_eq ht mishaps bytes hold hfile hdisplaced hparent
  rw [hplace, Path.name_under root hparts] at hreplaced
  exact hreplaced

end

end Tree

end SdkGraft
