import Mathlib.Tactic.Conv
import SdkGraft.Proofs.Text.Lines
import SdkGraft.Proofs.Text.Transcoding
import SdkGraft.Tree.Path

/-!
# Paths as texts

* `Path.IsPart` : a name as it stands between slashes;
* `Path.parts_ofParts`, `Path.rootOf_ofParts` : a path of a root and names has that root and those names;
* `Path.parts_tidy`, `Path.tidy_tidy` : a path and its tidy form have the same names;
* `Path.parts_under`, `Path.rootOf_under` : names put behind a path;
* `Path.parts_along`, `Path.isAbsolute_along` : the same, the path left as it is;
* `Path.EndsInName` : no slash and no dot stands at the end of a path;
* `Path.isOverlong_tidy`, `Path.isOverlong_ofParts` : what is short enough stays so when tidied, and with a name less;
* `Path.not_mem_under` : no character comes from elsewhere.
-/

namespace SdkGraft.Path

/-- A name as it stands between slashes. -/
structure IsPart (part : Text) : Prop where
  no_slash : '/' ∉ part
  not_idle : isIdle part = false

theorem isPart_of_mem_parts {path part : Text} (h : part ∈ parts path) : IsPart part := by
  rw [parts, List.mem_filter] at h
  exact ⟨Text.not_mem_of_mem_splitAt h.1, by simpa using h.2⟩

/-- The beginning of a path that counts from somewhere: none, one slash or two. -/
def IsRoot (root : Text) : Prop := root = [] ∨ root = ['/'] ∨ root = ['/', '/']

theorem isRoot_rootOf (path : Text) : IsRoot (rootOf path) := by
  unfold rootOf
  split
  · exact .inr (.inl rfl)
  · exact .inr (.inr rfl)
  · exact .inr (.inl rfl)
  · exact .inl rfl

/-! ## Roots and names -/

theorem parts_slash (t : Text) : parts ('/' :: t) = parts t := by
  rw [parts, Text.splitAt, if_pos rfl, List.filter_cons_of_neg (by decide), parts]

theorem exists_behind_root (path : Text) : ∃ r, path = rootOf path ++ r ∧ parts path = parts r := by
  unfold rootOf
  split
  · rename_i r
    exact ⟨'/' :: '/' :: r, rfl, parts_slash _⟩
  · rename_i r _
    exact ⟨r, rfl, by rw [parts_slash, parts_slash]⟩
  · rename_i r _ _
    exact ⟨r, rfl, parts_slash _⟩
  · exact ⟨path, rfl, rfl⟩

theorem parts_joinWith {names : List Text} (h : ∀ n ∈ names, IsPart n) :
    parts (Text.joinWith ['/'] names) = names := by
  rcases eq_or_ne names [] with rfl | hne
  · rfl
  · rw [parts, Text.splitAt_joinWith hne fun n hn => (h n hn).no_slash, List.filter_eq_self]
    exact fun n hn => by simp [(h n hn).not_idle]

theorem parts_ofParts {root : Text} (hroot : IsRoot root) {names : List Text} (h : ∀ n ∈ names, IsPart n) :
    parts (ofParts root names) = names := by
  rcases hroot with rfl | rfl | rfl
  · rw [ofParts]
    split
    · rename_i hempty
      have hnames : names = [] := by simpa using hempty
      rw [hnames]
      rfl
    · exact parts_joinWith h
  · rw [ofParts, if_neg (by simp), List.singleton_append, parts_slash, parts_joinWith h]
  · rw [ofParts, if_neg (by simp), List.cons_append, parts_slash, List.singleton_append, parts_slash,
      parts_joinWith h]

theorem ofParts_cases (root : Text) {names : List Text} (h : ∀ n ∈ names, IsPart n) :
    ofParts root names = (if root.isEmpty then ['.'] else root) ∨
      ∃ c r, c ≠ '/' ∧ ofParts root names = root ++ c :: r := by
  cases names with
  | nil =>
    left
    rw [ofParts, List.isEmpty_nil, Bool.and_true, Text.joinWith, List.append_nil]
  | cons name rest =>
    right
    have hname := h name List.mem_cons_self
    cases name with
    | nil => cases hname.not_idle
    | cons c r =>
      have hc : c ≠ '/' := fun hc => hname.no_slash (by simp [hc])
      have hjoin : ∃ r', Text.joinWith ['/'] ((c :: r) :: rest) = c :: r' := by
        cases rest with
        | nil => exact ⟨r, rfl⟩
        | cons next rest => exact ⟨_, rfl⟩
      obtain ⟨r', hjoin⟩ := hjoin
      exact ⟨c, r', hc, by rw [ofParts, List.isEmpty_cons, Bool.and_false, if_neg (by simp), hjoin]⟩

theorem rootOf_ofParts {root : Text} (hroot : IsRoot root) {names : List Text} (h : ∀ n ∈ names, IsPart n) :
    rootOf (ofParts root names) = root := by
  obtain hpath | ⟨c, r, hc, hpath⟩ := ofParts_cases root h
  · rw [hpath]
    rcases hroot with rfl | rfl | rfl <;> rfl
  · rw [hpath]
    rcases hroot with rfl | rfl | rfl <;> simp [rootOf, hc]

theorem isAbsolute_ofParts {root : Text} (hroot : IsRoot root) {names : List Text} (h : ∀ n ∈ names, IsPart n) :
    isAbsolute (ofParts root names) = !root.isEmpty := by
  obtain hpath | ⟨c, r, hc, hpath⟩ := ofParts_cases root h
  · rw [hpath]
    rcases hroot with rfl | rfl | rfl <;> rfl
  · rw [hpath]
    rcases hroot with rfl | rfl | rfl <;> simp [isAbsolute, hc]

theorem exists_splitAt_ofParts {root : Text} (hroot : IsRoot root) {names : List Text} (h : ∀ n ∈ names, IsPart n)
    (hne : names ≠ []) : ∃ lead, (∀ p ∈ lead, p = []) ∧
      Text.splitAt '/' (ofParts root names) = lead ++ names := by
  have hsplit := Text.splitAt_joinWith hne fun n hn => (h n hn).no_slash
  have hparts : ofParts root names = root ++ Text.joinWith ['/'] names := by
    rw [ofParts, if_neg]
    simp [hne]
  rw [hparts]
  rcases hroot with rfl | rfl | rfl
  · exact ⟨[], by simp, hsplit⟩
  · exact ⟨[[]], by simp, by rw [List.singleton_append, Text.splitAt, if_pos rfl, hsplit]; rfl⟩
  · refine ⟨[[], []], by simp, ?_⟩
    rw [List.cons_append, List.singleton_append, Text.splitAt, if_pos rfl, Text.splitAt, if_pos rfl, hsplit]
    rfl

theorem tidy_ofParts {root : Text} (hroot : IsRoot root) {names : List Text} (h : ∀ n ∈ names, IsPart n) :
    tidy (ofParts root names) = ofParts root names := by
  rw [tidy, rootOf_ofParts hroot h, parts_ofParts hroot h]

theorem ofParts_ne_nil (root : Text) {names : List Text} (h : ∀ n ∈ names, IsPart n) :
    ofParts root names ≠ [] := by
  obtain hpath | ⟨c, r, -, hpath⟩ := ofParts_cases root h
  · rw [hpath]
    cases root <;> simp
  · rw [hpath]
    simp

/-! ## A path tidied -/

theorem isPart_parts (path : Text) : ∀ n ∈ parts path, IsPart n := fun _ hn => isPart_of_mem_parts hn

theorem parts_eq_concat {path : Text} (h : parts path ≠ []) : parts path = (parts path).dropLast ++ [name path] := by
  rw [name, List.getLast?_eq_some_getLast h, Option.getD_some, List.dropLast_concat_getLast h]

theorem isPart_dropLast_parts (path : Text) : ∀ n ∈ (parts path).dropLast, IsPart n := fun n hn =>
  isPart_parts path n (List.dropLast_subset _ hn)

theorem parts_parent (path : Text) : parts (parent path) = (parts path).dropLast :=
  parts_ofParts (isRoot_rootOf path) (isPart_dropLast_parts path)

@[simp] theorem parts_tidy (path : Text) : parts (tidy path) = parts path :=
  parts_ofParts (isRoot_rootOf path) (isPart_parts path)

@[simp] theorem rootOf_tidy (path : Text) : rootOf (tidy path) = rootOf path :=
  rootOf_ofParts (isRoot_rootOf path) (isPart_parts path)

@[simp] theorem tidy_tidy (path : Text) : tidy (tidy path) = tidy path :=
  tidy_ofParts (isRoot_rootOf path) (isPart_parts path)

theorem isAbsolute_eq (path : Text) : isAbsolute path = !(rootOf path).isEmpty := by
  unfold rootOf
  split <;> try rfl
  rename_i hslash
  cases path with
  | nil => rfl
  | cons c r =>
    have hc : c ≠ '/' := fun hc => hslash r (by rw [hc])
    simp [isAbsolute, hc]

theorem isAbsolute_parent (path : Text) : isAbsolute (parent path) = isAbsolute path := by
  rw [parent, isAbsolute_ofParts (isRoot_rootOf path) (isPart_dropLast_parts path), ← isAbsolute_eq]

theorem isAbsolute_tidy (path : Text) : isAbsolute (tidy path) = isAbsolute path := by
  rw [isAbsolute_eq, rootOf_tidy, isAbsolute_eq]

/-! ## Names behind a path -/

section
variable {root : Text} {names : List Text} (h : ∀ n ∈ names, IsPart n)
include h

theorem isPart_of_mem_under : ∀ n ∈ parts root ++ names, IsPart n := fun n hn => by
  rcases List.mem_append.1 hn with hn | hn
  · exact isPart_of_mem_parts hn
  · exact h n hn

theorem parts_under : parts (under root names) = parts root ++ names :=
  parts_ofParts (isRoot_rootOf root) (isPart_of_mem_under h)

theorem rootOf_under : rootOf (under root names) = rootOf root :=
  rootOf_ofParts (isRoot_rootOf root) (isPart_of_mem_under h)

end

/-! ## Names behind a path that is left as it is -/

theorem parts_append_cons (a b : Text) : parts (a ++ '/' :: b) = parts a ++ parts b := by
  rw [parts, Text.splitAt_append_cons, List.filter_append, ← parts, ← parts]

theorem parts_of_isPart {name : Text} (h : IsPart name) : parts name = [name] := by
  rw [parts, Text.splitAt_of_not_mem h.no_slash, List.filter_cons_of_pos (by simp [h.not_idle]), List.filter_nil]

theorem parts_join (path : Text) {name : Text} (h : IsPart name) : parts (join path name) = parts path ++ [name] := by
  rw [join]
  split
  · rename_i hlast
    obtain ⟨before, rfl⟩ := List.getLast?_eq_some_iff.1 hlast
    rw [List.append_assoc, List.singleton_append, parts_append_cons, parts_append_cons, parts_of_isPart h,
      show parts [] = [] from rfl, List.append_nil]
  · rw [parts_append_cons, parts_of_isPart h]

theorem parts_along (path : Text) {names : List Text} (h : ∀ n ∈ names, IsPart n) :
    parts (along path names) = parts path ++ names := by
  induction names generalizing path with
  | nil => rw [along, List.foldl_nil, List.append_nil]
  | cons name rest ih =>
    rw [along, List.foldl_cons, ← along, ih _ fun n hn => h n (List.mem_cons_of_mem _ hn),
      parts_join path (h name List.mem_cons_self), List.append_assoc, List.singleton_append]

theorem along_concat (path : Text) (names : List Text) (name : Text) :
    along path (names ++ [name]) = join (along path names) name := by
  rw [along, List.foldl_append]
  rfl

/-- A path ends in a name, not in a slash or a dot. -/
def EndsInName (path : Text) : Prop := ∀ p ∈ (Text.splitAt '/' path).getLast?, isIdle p = false

theorem endsInName_join (path : Text) {name : Text} (h : IsPart name) : EndsInName (join path name) := by
  have hbehind : ∀ before : Text, EndsInName (before ++ '/' :: name) := by
    intro before p hp
    rw [Text.splitAt_append_cons, Text.splitAt_of_not_mem h.no_slash, List.getLast?_concat] at hp
    rw [← Option.some.inj hp]
    exact h.not_idle
  rw [join]
  split
  · rename_i hlast
    obtain ⟨before, rfl⟩ := List.getLast?_eq_some_iff.1 hlast
    rw [List.append_assoc, List.singleton_append]
    exact hbehind before
  · exact hbehind path

theorem endsInName_along (path : Text) {names : List Text} (h : ∀ n ∈ names, IsPart n) (hne : names ≠ []) :
    EndsInName (along path names) := by
  obtain ⟨before, name, rfl⟩ := names.eq_nil_or_concat.resolve_left hne
  rw [List.concat_eq_append, along_concat]
  exact endsInName_join _ (h name (by simp))

theorem endsInName_ofParts {root : Text} (hroot : IsRoot root) {names : List Text} (h : ∀ n ∈ names, IsPart n)
    (hne : names ≠ []) : EndsInName (ofParts root names) := by
  obtain ⟨lead, -, hsplit⟩ := exists_splitAt_ofParts hroot h hne
  intro p hp
  obtain ⟨before, name, rfl⟩ := names.eq_nil_or_concat.resolve_left hne
  rw [hsplit, List.concat_eq_append, ← List.append_assoc, List.getLast?_concat] at hp
  rw [← Option.some.inj hp]
  exact (h name (by simp)).not_idle

theorem exists_along (path : Text) (names : List Text) : ∃ r, along path names = path ++ r := by
  induction names generalizing path with
  | nil => exact ⟨[], (List.append_nil path).symm⟩
  | cons name rest ih =>
    obtain ⟨r, hr⟩ := ih (join path name)
    rw [along, List.foldl_cons, ← along, hr, join]
    split
    · exact ⟨name ++ r, List.append_assoc _ _ _⟩
    · exact ⟨'/' :: name ++ r, List.append_assoc _ _ _⟩

theorem isAbsolute_along {path : Text} (hne : path ≠ []) (names : List Text) :
    isAbsolute (along path names) = isAbsolute path := by
  obtain ⟨r, hr⟩ := exists_along path names
  obtain ⟨c, path, rfl⟩ := List.exists_cons_of_ne_nil hne
  rw [hr]
  rfl

/-! ## Lengths -/

theorem length_encode_append (a b : Text) :
    (Utf8.encode (a ++ b)).length = (Utf8.encode a).length + (Utf8.encode b).length := by
  rw [Utf8.encode, List.flatMap_append, List.length_append, Utf8.encode, Utf8.encode]

theorem length_joinWith_filter (p : Text → Bool) (names : List Text) :
    (Utf8.encode (Text.joinWith ['/'] (names.filter p))).length ≤
      (Utf8.encode (Text.joinWith ['/'] names)).length := by
  induction names with
  | nil => exact Nat.le_refl _
  | cons name rest ih =>
    rcases eq_or_ne rest [] with rfl | hrest
    · cases hp : p name <;> simp [List.filter, hp, Text.joinWith, Utf8.encode]
    rw [Text.joinWith_cons _ hrest, length_encode_append]
    cases hp : p name with
    | false =>
      rw [List.filter_cons_of_neg (by simp [hp])]
      omega
    | true =>
      rw [List.filter_cons_of_pos hp]
      rcases eq_or_ne (rest.filter p) [] with hnil | hne
      · rw [hnil, length_encode_append, Text.joinWith]
        omega
      · rw [Text.joinWith_cons _ hne, length_encode_append]
        omega

theorem length_encode_parts (path : Text) :
    (Utf8.encode (Text.joinWith ['/'] (parts path))).length ≤ (Utf8.encode path).length := by
  have hle := length_joinWith_filter (fun p => !isIdle p) (Text.splitAt '/' path)
  rwa [Text.joinWith_splitAt] at hle

theorem isOverlong_tidy {path : Text} (hne : path ≠ []) (h : isOverlong path = false) :
    isOverlong (tidy path) = false := by
  have hle : (Utf8.encode (tidy path)).length ≤ (Utf8.encode path).length := by
    rw [tidy, ofParts]
    split
    · obtain ⟨c, r, rfl⟩ := List.exists_cons_of_ne_nil hne
      have hlength := List.length_pos_iff.2 (Utf8.encodeChar_ne_nil c)
      show 1 ≤ (Utf8.encodeChar c ++ Utf8.encode r).length
      rw [List.length_append]
      omega
    obtain ⟨r, hr, hparts⟩ := exists_behind_root path
    have hbehind := length_encode_parts r
    rw [length_encode_append, hparts]
    conv_rhs => rw [hr, length_encode_append]
    omega
  rw [isOverlong, decide_eq_false_iff_not] at h ⊢
  omega

/-- A path is no longer than one that leads on from it. -/
theorem isOverlong_ofParts_concat (root : Text) {names : List Text} {name : Text} (hname : name ≠ [])
    (h : isOverlong (ofParts root (names ++ [name])) = false) : isOverlong (ofParts root names) = false := by
  have hle : (Utf8.encode (ofParts root names)).length ≤ (Utf8.encode (ofParts root (names ++ [name]))).length := by
    have hne : (names ++ [name]).isEmpty = false := by simp
    rw [ofParts, ofParts, hne, Bool.and_false]
    split
    · rename_i hempty
      rw [Bool.and_eq_true, List.isEmpty_iff, List.isEmpty_iff] at hempty
      obtain ⟨c, r, rfl⟩ := List.exists_cons_of_ne_nil hname
      have hlength := List.length_pos_iff.2 (Utf8.encodeChar_ne_nil c)
      rw [hempty.1, hempty.2]
      show 1 ≤ (Utf8.encodeChar c ++ Utf8.encode r).length
      rw [List.length_append]
      omega
    · rcases eq_or_ne names [] with hnil | hnil
      · rw [hnil, if_neg (by simp), Utf8.encode, Utf8.encode, List.flatMap_append, List.flatMap_append]
        simp [Text.joinWith]
      · rw [Text.joinWith_concat _ hnil, if_neg (by simp), Utf8.encode, Utf8.encode]
        simp only [List.flatMap_append, List.length_append]
        omega
  rw [isOverlong, decide_eq_false_iff_not] at h ⊢
  omega

theorem isOverlong_ofParts (root : Text) {before names : List Text} (hnames : ∀ n ∈ names, IsPart n)
    (h : isOverlong (ofParts root (before ++ names)) = false) : isOverlong (ofParts root before) = false := by
  induction names generalizing before with
  | nil => rwa [List.append_nil] at h
  | cons name rest ih =>
    obtain ⟨hname, hrest⟩ := List.forall_mem_cons.1 hnames
    have hlong : isOverlong (ofParts root (before ++ [name])) = false := ih hrest (by rwa [List.append_assoc])
    exact isOverlong_ofParts_concat root (fun hnil => by rw [hnil] at hname; cases hname.not_idle) hlong

/-! ## Characters -/

theorem not_mem_under {c : Char} (hslash : c ≠ '/') (hdot : c ≠ '.') {root : Text} (hroot : c ∉ root)
    {names : List Text} (hnames : ∀ n ∈ names, c ∉ n) : c ∉ under root names := by
  have hparts : ∀ n ∈ parts root, c ∉ n := fun n hn hc =>
    hroot (Text.mem_of_mem_splitAt (List.mem_filter.1 hn).1 hc)
  have hbefore : c ∉ rootOf root := by
    obtain hr | hr | hr := isRoot_rootOf root <;> simp [hr, hslash]
  rw [under, ofParts]
  split
  · simpa using hdot
  · rw [List.mem_append, not_or]
    refine ⟨hbefore, fun hc => ?_⟩
    obtain hc | ⟨n, hn, hc⟩ := Text.mem_of_mem_joinWith hc
    · exact hslash hc
    · rcases List.mem_append.1 hn with hn | hn
      · exact hparts n hn hc
      · exact hnames n hn hc

end SdkGraft.Path
