import Mathlib.Data.List.Find
import SdkGraft.Proofs.Install.Reached
import SdkGraft.Proofs.Tree.Absolute

/-!
# Two trees that differ in what is left out

* `Tree.SameOutside` : outside of the directories that are left out, the same stands in both trees, and the same is
  found at every path;
* `SameOutside.isReached_iff`, `SameOutside.sources_eq` : a walk gets to the same files, in the same order;
* `SameOutside.isProject_eq`, `SameOutside.locate_eq`, `workspaceAt?_eq` : what an installation looks for is found, or
  not, in both;
* `forall_outside` : what holds at all places outside, checked where something stands.
-/

namespace SdkGraft.Tree

variable {t t' : Tree} {s : Settings} {root path : Text} {top place : Place}

/-- What the two trees have in common where `root` leads to the directory `top` in both. -/
structure SameBelow (t t' : Tree) (s : Settings) (root : Text) (top : Place) : Prop where
  /-- Made absolute, the root leads to the same place in both, or fails alike, -/
  absolute : t'.resolve (t.absolute root) = t.resolve (t.absolute root)
  /-- and if it leads anywhere, then to the directory it leads to as it is. -/
  absolute_top : ∀ goal, t.resolve (t.absolute root) = .ok goal → goal = top
  /-- At every place outside the same is to be seen in both. -/
  kinds : ∀ place, s.IsOutside place →
    (t'.kind? (top ++ place)).map Kind.shown = (t.kind? (top ++ place)).map Kind.shown
  /-- Where something stands, the same is found by its path, links followed. -/
  seen : ∀ place kind, s.IsOutside place → t.kind? (top ++ place) = some kind →
    t'.seen (Path.under root place) = t.seen (Path.under root place)

/-- The two trees are the same below `root`, but for what is below the directories that are left out, and for the
order in which directories list their entries. -/
structure SameOutside (t t' : Tree) (s : Settings) (root : Text) : Prop where
  here : t'.here = t.here
  top : t'.resolve root = t.resolve root
  below : ∀ top, t.resolve root = .ok top → t.SameBelow t' s root top

namespace SameBelow

/-- Where something stands in one of the trees, outside, something that looks the same stands in the other. -/
theorem exists_kind (h : t.SameBelow t' s root top) {place : Place} (houtside : s.IsOutside place) {kind : Kind}
    (hkind : t.kind? (top ++ place) = some kind) :
    ∃ kind', t'.kind? (top ++ place) = some kind' ∧ kind'.shown = kind.shown := by
  have hsame := h.kinds place houtside
  rw [hkind, Option.map_some, Option.map_eq_some_iff] at hsame
  exact hsame

theorem symm (h : t.SameBelow t' s root top) (hhere : t'.here = t.here) : t'.SameBelow t s root top := by
  have hroot : t'.absolute root = t.absolute root := by rw [Tree.absolute, Tree.absolute, hhere]
  have hkinds : ∀ place, s.IsOutside place →
      (t.kind? (top ++ place)).map Kind.shown = (t'.kind? (top ++ place)).map Kind.shown := fun place houtside =>
    (h.kinds place houtside).symm
  refine ⟨hroot ▸ h.absolute.symm, fun goal hgoal => h.absolute_top goal ?_, hkinds, fun place kind houtside hkind => ?_⟩
  · rw [← h.absolute, ← hroot]
    exact hgoal
  · have hsame := hkinds place houtside
    rw [hkind, Option.map_some, Option.map_eq_some_iff] at hsame
    obtain ⟨kind', hkind', -⟩ := hsame
    exact (h.seen place kind' houtside hkind').symm

theorem kind?_dir (h : t.SameBelow t' s root top) {place : Place} (houtside : s.IsOutside place) {mode : Nat}
    (hdir : t.kind? (top ++ place) = some (.dir mode)) : t'.kind? (top ++ place) = some (.dir mode) := by
  obtain ⟨kind, hkind, hshown⟩ := h.exists_kind houtside hdir
  rw [hkind, Kind.shown_eq_dir.1 (hshown.trans (Kind.shown_eq_dir.2 rfl))]

theorem kind?_top (h : t.SameBelow t' s root top) {mode : Nat} (hdir : t.kind? top = some (.dir mode)) :
    t'.kind? top = some (.dir mode) := by
  have hsame : t.kind? (top ++ []) = some (.dir mode) → t'.kind? (top ++ []) = some (.dir mode) :=
    h.kind?_dir s.isOutside_nil
  rw [List.append_nil] at hsame
  exact hsame hdir

theorem isListable (h : t.SameBelow t' s root top) {place : Place} (houtside : s.IsOutside place)
    (hlistable : t.IsListable root top place) : t'.IsListable root top place where
  short := hlistable.short
  steps := hlistable.steps
  isOpen above left hsplit hleft := by
    obtain ⟨mode, hmode, hopen⟩ := hlistable.isOpen above left hsplit hleft
    exact ⟨mode, h.kind?_dir (hsplit ▸ houtside).of_append hmode, hopen⟩
  readable := by
    obtain ⟨mode, hmode, hreadable⟩ := hlistable.readable
    exact ⟨mode, h.kind?_dir houtside hmode, hreadable⟩

end SameBelow

theorem SameOutside.symm (h : t.SameOutside t' s root) : t'.SameOutside t s root :=
  ⟨h.here.symm, h.top.symm, fun top htop => (h.below top (h.top ▸ htop)).symm h.here⟩

/-! ## The root -/

theorem seen_eq (t : Tree) (path : Text) :
    t.seen path =
      match t.resolve path with
      | .error e => .error e
      | .ok place =>
        match (t.kind? place).map Kind.shown with
        | some shown => .ok shown
        | none => .error .notFound := by
  rw [seen, lookUp]
  cases t.resolve path with
  | error e => rfl
  | ok place =>
    simp only [kind?]
    cases t.node? place <;> rfl

theorem asksDirectory_eq (t : Tree) (path : Text) :
    t.asksDirectory path =
      if path.contains '\x00' then .ok false
      else
        match t.seen path with
        | .ok shown => .ok shown.isDir
        | .error e => if e.isAbsence then .ok false else .error (.unreadable e) := by
  rw [asksDirectory, find?, seen]
  split
  · rfl
  cases t.lookUp path with
  | ok node => simp [Except.map, Node.isSome_entries?]
  | error e => cases hab : e.isAbsence <;> simp [Except.map, hab]

namespace SameOutside

theorem seen_root (h : t.SameOutside t' s root) : t'.seen root = t.seen root := by
  rw [seen_eq, seen_eq, h.top]
  cases htop : t.resolve root with
  | error e => rfl
  | ok top =>
    have hkind := (h.below top htop).kinds [] s.isOutside_nil
    rw [List.append_nil] at hkind
    simp only [hkind]

end SameOutside

/-- What an installation works in is a root that was given as a text. -/
theorem exists_text_of_workspaceAt? {root : Value} {workspace : Text}
    (h : t.workspaceAt? root = .ok (some workspace)) : ∃ text, root = .text text ∧ workspace = Path.tidy text := by
  unfold workspaceAt? at h
  split at h
  · cases h
  · rename_i text
    rw [workspace?] at h
    split at h
    · cases h
    obtain ⟨is, -, hsome⟩ := Except.exists_of_map_eq_ok h
    cases is with
    | false => cases hsome
    | true => exact ⟨text, rfl, (Option.some.inj hsome).symm⟩
  · cases h

theorem workspaceAt?_eq {root : Value} (h : ∀ text, root = .text text → t.SameOutside t' s (Path.tidy text)) :
    t'.workspaceAt? root = t.workspaceAt? root := by
  cases root with
  | text text =>
    show t'.workspace? (some text) = t.workspace? (some text)
    rw [workspace?, workspace?, asksDirectory_eq, asksDirectory_eq t, (h text rfl).seen_root]
  | _ => rfl

/-! ## The project -/

theorem mem_names_iff {entries : Entries} {mode : Nat} (hnode : t.node? top = some (.dir entries mode)) {n : Text} :
    n ∈ Entries.names entries ↔ t.kind? (top ++ [n]) ≠ none := by
  rw [kind?, node?_concat hnode, ne_eq, Option.map_eq_none_iff, Entries.get?_eq_none_iff, not_not]

theorem isProject_eq_ok (s : Settings) (hnull : '\x00' ∉ root) (htop : t.resolve (Path.tidy root) = .ok top)
    {mode : Nat} (hdir : t.kind? top = some (.dir mode)) (hreadable : isReadable mode = true) :
    ∃ is, t.isProject s root = .ok is ∧
      (is = true ↔ ∃ n, t.kind? (top ++ [n]) ≠ none ∧ s.bundleSuffixes.any (Text.endsWith n) = true) := by
  obtain ⟨entries, hnode⟩ := kind?_eq_dir.1 hdir
  refine ⟨_, by rw [isProject, if_neg (by simpa using hnull), list_eq_ok_iff.2 ⟨top, mode, htop, hnode, hreadable⟩], ?_⟩
  simp only [List.any_eq_true, mem_names_iff hnode]

theorem no_null_of_isProject {is : Bool} (h : t.isProject s root = .ok is) : '\x00' ∉ root := by
  rw [isProject] at h
  split at h
  · cases h
  · rename_i hnull
    simpa using hnull

/-- The root leads to a directory that can be read. -/
def IsListed (t : Tree) (root : Text) : Prop :=
  ∃ top mode, t.resolve (Path.tidy root) = .ok top ∧ t.kind? top = some (.dir mode) ∧ isReadable mode = true

theorem isProject_of_not_listed (s : Settings) (hnull : '\x00' ∉ root) (h : ¬ t.IsListed root) :
    t.isProject s root = .ok false := by
  rw [isProject, if_neg (by simpa using hnull)]
  split
  · rfl
  · rename_i entries hlist
    obtain ⟨top, mode, htop, hnode, hreadable⟩ := list_eq_ok_iff.1 hlist
    exact absurd ⟨top, mode, htop, kind?_eq_dir.2 ⟨entries, hnode⟩, hreadable⟩ h

theorem SameOutside.isListed (h : t.SameOutside t' s (Path.tidy root)) (hlisted : t.IsListed root) :
    t'.IsListed root := by
  obtain ⟨top, mode, htop, hdir, hreadable⟩ := hlisted
  exact ⟨top, mode, h.top.trans htop, (h.below top htop).kind?_top hdir, hreadable⟩

theorem SameOutside.isProject_eq (h : t.SameOutside t' s (Path.tidy root)) :
    t'.isProject s root = t.isProject s root := by
  by_cases hnull : '\x00' ∈ root
  · rw [isProject, isProject, if_pos (by simpa using hnull), if_pos (by simpa using hnull)]
  by_cases hlisted : t.IsListed root
  · obtain ⟨top, mode, htop, hdir, hreadable⟩ := hlisted
    have hbelow := h.below top htop
    obtain ⟨is, his, hiff⟩ := isProject_eq_ok s hnull htop hdir hreadable
    obtain ⟨is', his', hiff'⟩ := isProject_eq_ok s hnull (h.top.trans htop) (hbelow.kind?_top hdir) hreadable
    have hnone : ∀ n, t'.kind? (top ++ [n]) = none ↔ t.kind? (top ++ [n]) = none := fun n => by
      rw [← Option.map_eq_none_iff (f := Kind.shown), hbelow.kinds _ (s.isOutside_singleton n), Option.map_eq_none_iff]
    rw [his, his', Except.ok.injEq, Bool.eq_iff_iff, hiff, hiff']
    simp only [ne_eq, hnone]
  · rw [isProject_of_not_listed s hnull hlisted,
      isProject_of_not_listed s hnull fun hlisted' => hlisted (h.symm.isListed hlisted')]

/-! ## The files -/

theorem SameBelow.isUnpruned (ht : t.IsProper) (h : t.SameBelow t' s (Path.tidy root) top)
    {place : Place} (hfile : t.IsUnpruned s root top place) : t'.IsUnpruned s root top place := by
  obtain ⟨kind, hkind, hdir, hlink⟩ := hfile.is_file
  obtain ⟨kind', hkind', hshown⟩ := h.exists_kind hfile.outside hkind
  have hdir' : kind'.isDir = false := by rw [← Kind.isDir_shown, hshown, Kind.isDir_shown, hdir]
  refine ⟨hfile.ne_nil, ⟨kind', hkind', hdir', fun goal hgoal => ?_⟩, hfile.outside⟩
  have hgoal : kind = .link goal := Kind.shown_eq_link.1 (by rw [← hshown, hgoal]; rfl)
  have hparts : ∀ n ∈ place, Path.IsPart n := fun n hn =>
    (ht.isEntryName hkind (List.mem_append_right _ hn)).isPart
  have hseen := h.seen place kind hfile.outside hkind
  rw [Path.under_tidy] at hseen
  rw [Bool.eq_false_iff, ne_eq, leadsToDirectory_iff hparts hfile.ne_nil, hseen,
    ← leadsToDirectory_iff hparts hfile.ne_nil, hlink goal hgoal]
  exact Bool.false_ne_true

/-- All directories above a place can be listed in one tree if they can in the other. -/
theorem SameBelow.canBeListed (ht : t.IsProper) (ht' : t'.IsProper) (h : t.SameBelow t' s (Path.tidy root) top)
    (htop : t.resolve (Path.tidy root) = .ok top) (htop' : t'.resolve (Path.tidy root) = .ok top)
    {place : Place} (houtside : s.IsOutside place) {kind : Kind} (hkind : t.kind? (top ++ place) = some kind)
    (hlisted : t.CanBeListed root place) : t'.CanBeListed root place := by
  obtain ⟨kind', hkind', -⟩ := h.exists_kind houtside hkind
  rw [canBeListed_iff ht' htop' hkind']
  rw [canBeListed_iff ht htop hkind] at hlisted
  rintro above left rfl hleft
  exact h.isListable houtside.of_append (hlisted above left rfl hleft)

namespace SameOutside

variable (ht : t.IsProper) (ht' : t'.IsProper) (h : t.SameOutside t' s (Path.tidy root))
include h

theorem seen_reached {place : Place} (hreached : t.IsReached s root place) :
    t'.seen (Path.under root place) = t.seen (Path.under root place) := by
  obtain ⟨top, htop, hfile, -⟩ := hreached
  obtain ⟨kind, hkind, -⟩ := hfile.is_file
  have hseen := (h.below top htop).seen place kind hfile.outside hkind
  rwa [Path.under_tidy] at hseen

theorem holds_eq (marker : Text) {place : Place} (hreached : t.IsReached s root place) :
    t'.holds marker (Path.under root place) = t.holds marker (Path.under root place) := by
  rw [holds, holds, readFile_eq, readFile_eq, h.seen_reached hreached]

include ht

include ht'

theorem isReached {place : Place} (hreached : t.IsReached s root place) : t'.IsReached s root place := by
  obtain ⟨top, htop, hfile, hlisted⟩ := hreached
  obtain ⟨kind, hkind, -⟩ := hfile.is_file
  exact ⟨top, h.top.trans htop, (h.below top htop).isUnpruned ht hfile,
    (h.below top htop).canBeListed ht ht' htop (h.top.trans htop) hfile.outside hkind hlisted⟩

theorem isReached_iff {place : Place} : t'.IsReached s root place ↔ t.IsReached s root place :=
  ⟨h.symm.isReached ht' ht, h.isReached ht ht'⟩

theorem sources_eq : t'.sources s root = t.sources s root := by
  rw [sources, sources]
  cases hspec : s.exclusions with
  | error f => rfl
  | ok spec =>
    simp only
    rw [eq_of_pairwise_before (pairwise_walk ht' (isLeftOut spec) (Path.tidy root)) (pairwise_walk ht _ _)
      fun place => by rw [mem_walk ht' hspec, mem_walk ht hspec, h.isReached_iff ht ht']]

theorem findMarked_eq (marker : Text) : t'.findMarked s root marker = t.findMarked s root marker := by
  have hfind : ∀ marker suffix,
      (t'.files s root suffix >>= fun paths => pure (paths.find? (t'.holds marker))) =
        t.files s root suffix >>= fun paths => pure (paths.find? (t.holds marker)) := fun marker suffix => by
    rw [files, files, h.sources_eq ht ht']
    cases hplaces : t.sources s root with
    | error f => rfl
    | ok places =>
      obtain ⟨-, spec, hspec, rfl⟩ := sources_eq_ok_iff.1 hplaces
      refine congrArg Except.ok (List.find?_congr fun path hpath => ?_)
      obtain ⟨place, hplace, rfl⟩ := List.mem_map.1 hpath
      exact h.holds_eq marker ((mem_walk ht hspec).1 (List.mem_filter.1 hplace).1)
  simp only [findMarked, hfind]

theorem locate_eq : t'.locate s root = t.locate s root := by
  have hfile : ∀ name, t'.findFile s root name = t.findFile s root name := fun name => by
    rw [findFile, findFile, h.sources_eq ht ht']
  simp only [locate, hfile, h.findMarked_eq ht ht']

end SameOutside

/-! ## Place by place -/

/-- What holds where something stands in one of two trees, and where nothing does, holds everywhere outside. -/
theorem forall_outside {t t' : Tree} {s : Settings} {spec : Ignore.Spec} (hspec : s.exclusions = .ok spec)
    {top : Place} {node node' : Node} (hnode : t.node? top = some node) (hnode' : t'.node? top = some node')
    {p : Place → Prop} (hnone : ∀ place, t.kind? (top ++ place) = none → t'.kind? (top ++ place) = none → p place)
    (hsome : ∀ place ∈ node.places ++ node'.places,
      (∀ n < place.length, 0 < n → isLeftOut spec (place.take n) = false) → p place) :
    ∀ place, s.IsOutside place → p place := by
  have hkind : ∀ {t : Tree} {node : Node}, t.node? top = some node → ∀ {place : Place}, place ∉ node.places →
      t.kind? (top ++ place) = none := by
    intro t node hnode place hplace
    rw [kind?, node?, Node.at?_append, show t.top.at? top = some node from hnode, Option.bind_some,
      Option.map_eq_none_iff, Option.eq_none_iff_forall_ne_some]
    exact fun below hbelow => hplace (Node.mem_places hbelow)
  intro place houtside
  by_cases hmem : place ∈ node.places ++ node'.places
  · exact hsome place hmem ((Settings.isOutside_iff_take hspec).1 houtside)
  · rw [List.mem_append, not_or] at hmem
    exact hnone place (hkind hnode hmem.1) (hkind hnode' hmem.2)

end SdkGraft.Tree
