import SdkGraft.Proofs.Install.Locate
import SdkGraft.Proofs.Tree.Below

/-!
# The files that a walk gets to, and the first of them

* `Settings.IsOutside` : a place with no directory above it that is left out;
* `Tree.IsUnpruned` : a file stands at such a place; `Tree.CanBeListed` : the walk can get there;
* `mem_walk` : the walk gets to these files, and no others; `pairwise_walk` : in its order;
* `Settings.SearchesBy` : what a search goes by;
* `IsFirst`, `find?_eq_some_iff_isFirst` : the first place in this order of which something holds;
* `Tree.Resolved`, `locate_eq_found_iff_resolved` : the file to edit, by what stands in the tree alone;
* `locate_eq_missing_iff` : there is none exactly if no file qualifies.
-/

namespace SdkGraft

/-- No directory above a place is left out, the place counted from the root. -/
def Settings.IsOutside (s : Settings) (place : Place) : Prop :=
  ∀ spec, s.exclusions = .ok spec → ∀ above left, place = above ++ left → above ≠ [] → left ≠ [] →
    Tree.isLeftOut spec above = false

structure Settings.SearchesBy (s : Settings) (name marker suffix : Text) : Prop where
  exclusions : ∃ spec, s.exclusions = .ok spec
  delegateFile : s.delegateFile = .ok name
  rootMarker : s.rootMarker = .ok marker
  sourceSuffix : s.sourceSuffix = .ok suffix

/-- Of the places of which something holds, a walk comes to this one first. -/
structure IsFirst (p : Place → Prop) (place : Place) : Prop where
  holds : p place
  first : ∀ other, p other → other = place ∨ Before place other

theorem Settings.isOutside_nil (s : Settings) : s.IsOutside [] := fun _ _ _ _ hsplit habove _ =>
  absurd (List.append_eq_nil_iff.1 hsplit.symm).1 habove

theorem Settings.isOutside_singleton (s : Settings) (name : Text) : s.IsOutside [name] := by
  intro spec _ above left hsplit habove hleft
  have hlength := congrArg List.length hsplit
  have := List.length_pos_iff.2 habove
  have := List.length_pos_iff.2 hleft
  rw [List.length_append, List.length_singleton] at hlength
  omega

theorem Settings.IsOutside.of_append {s : Settings} {above left : Place} (h : s.IsOutside (above ++ left)) :
    s.IsOutside above := by
  rintro spec hspec upper rest rfl hupper hrest
  exact h spec hspec upper (rest ++ left) (List.append_assoc _ _ _) hupper (List.append_ne_nil_of_left_ne_nil hrest _)

/-- Whatever stands in the same directory is as far outside. -/
theorem Settings.IsOutside.of_concat {s : Settings} {names : Place} {name : Text} (h : s.IsOutside (names ++ [name]))
    (other : Text) : s.IsOutside (names ++ [other]) := by
  intro spec hspec above left hsplit habove hleft
  obtain ⟨before, last, rfl⟩ := left.eq_nil_or_concat.resolve_left hleft
  rw [List.concat_eq_append, ← List.append_assoc] at hsplit
  obtain ⟨rfl, -⟩ := List.append_inj' hsplit rfl
  exact h spec hspec above (before ++ [name]) (List.append_assoc _ _ _) habove (by simp)

theorem Settings.isOutside_iff_take {s : Settings} {spec : Ignore.Spec} (hspec : s.exclusions = .ok spec)
    {place : Place} :
    s.IsOutside place ↔ ∀ n < place.length, 0 < n → Tree.isLeftOut spec (place.take n) = false := by
  constructor
  · intro h n hn hpos
    refine h spec hspec _ _ (List.take_append_drop n place).symm ?_ ?_
    · rw [ne_eq, List.take_eq_nil_iff, not_or]
      exact ⟨by omega, fun hnil => by rw [hnil] at hn; cases hn⟩
    · rw [ne_eq, List.drop_eq_nil_iff]
      omega
  · intro h spec' hspec' above left hsplit habove hleft
    rw [hspec] at hspec'
    cases hspec'
    have hlength := congrArg List.length hsplit
    have := List.length_pos_iff.2 habove
    have := List.length_pos_iff.2 hleft
    rw [List.length_append] at hlength
    have hout := h above.length (by omega) (by omega)
    rwa [hsplit, List.take_left] at hout

/-- The first of a walk's places that passes a test is the first of all of which that can be said. -/
theorem find?_eq_some_iff_isFirst {places : List Place} (hp : places.Pairwise Before) {test : Place → Bool}
    {place : Place} :
    places.find? test = some place ↔ IsFirst (fun other => other ∈ places ∧ test other = true) place := by
  rw [List.find?_eq_some_iff_append]
  constructor
  · rintro ⟨htest, before, after, rfl, hbefore⟩
    refine ⟨⟨by simp, htest⟩, fun other hother => ?_⟩
    rcases List.mem_append.1 hother.1 with hmem | hmem
    · exact absurd hother.2 (by simpa using hbefore other hmem)
    · rcases List.mem_cons.1 hmem with rfl | hmem
      · exact .inl rfl
      · exact .inr ((List.pairwise_cons.1 (List.pairwise_append.1 hp).2.1).1 other hmem)
  · intro h
    obtain ⟨before, after, rfl⟩ := List.append_of_mem h.holds.1
    refine ⟨h.holds.2, before, after, rfl, fun other hmem => ?_⟩
    have hbefore := (List.pairwise_append.1 hp).2.2 other hmem place List.mem_cons_self
    cases htest : test other with
    | false => rfl
    | true =>
      obtain rfl | hafter := h.first other ⟨List.mem_append_left _ hmem, htest⟩
      · exact absurd hbefore (Before.irrefl _)
      · exact absurd hafter hbefore.asymm

namespace Tree

variable {t : Tree} {s : Settings} {root : Text} {top place : Place}

/-! ## What a walk gets to -/

/-- At `place` below the directory `top`, which `root` leads to, stands a file, or a link that leads to no
directory, and no directory above it is left out. -/
structure IsUnpruned (t : Tree) (s : Settings) (root : Text) (top place : Place) : Prop where
  ne_nil : place ≠ []
  is_file : ∃ kind, t.kind? (top ++ place) = some kind ∧ kind.isDir = false ∧
    ∀ goal, kind = .link goal → t.leadsToDirectory (Path.tidy root) place = false
  outside : s.IsOutside place

/-- Every directory that is above a place below `root`, the root among them, can be listed by its path. -/
def CanBeListed (t : Tree) (root : Text) (place : Place) : Prop :=
  ∀ above left, place = above ++ left → left ≠ [] → t.canList (Path.along (Path.tidy root) above) = true

/-- A file that is not pruned, where all directories above it can be listed. -/
def IsReached (t : Tree) (s : Settings) (root : Text) (place : Place) : Prop :=
  ∃ top, t.resolve (Path.tidy root) = .ok top ∧ t.IsUnpruned s root top place ∧ t.CanBeListed root place

theorem canBeListed_iff (ht : t.IsProper) (htop : t.resolve (Path.tidy root) = .ok top) {kind : Kind}
    (hkind : t.kind? (top ++ place) = some kind) : t.CanBeListed root place ↔
      ∀ above left, place = above ++ left → left ≠ [] → t.IsListable (Path.tidy root) top above := by
  have hlists : ∀ above left, place = above ++ left → left ≠ [] →
      (t.canList (Path.along (Path.tidy root) above) = true ↔ t.IsListable (Path.tidy root) top above) := by
    rintro above left rfl hleft
    refine canList_along_iff (fun n hn => ht.isEntryName hkind ?_) htop
      (hasDir_of_append (by rwa [List.append_assoc]) hleft)
    exact List.mem_append_right _ (List.mem_append_left _ hn)
  exact forall₄_congr hlists

theorem isReached_tidy : t.IsReached s (Path.tidy root) place ↔ t.IsReached s root place := by
  have hfile : ∀ top, t.IsUnpruned s (Path.tidy root) top place ↔ t.IsUnpruned s root top place := fun top =>
    ⟨fun h => ⟨h.ne_nil, by simpa only [Path.tidy_tidy] using h.is_file, h.outside⟩,
      fun h => ⟨h.ne_nil, by simpa only [Path.tidy_tidy] using h.is_file, h.outside⟩⟩
  simp only [IsReached, CanBeListed, Path.tidy_tidy, hfile]

theorem isListed_iff_isUnpruned {spec : Ignore.Spec} (hspec : s.exclusions = .ok spec) {entries : Entries} {mode : Nat}
    (hnode : t.node? top = some (.dir entries mode)) (hlists : t.canList (Path.tidy root) = true) :
    Node.IsListed (t.leadsToDirectory (Path.tidy root)) (t.isPassedOver (isLeftOut spec) (Path.tidy root)) []
        (.dir entries mode) place ↔
      t.IsUnpruned s root top place ∧ t.CanBeListed root place := by
  have hat : t.kind? (top ++ place) = ((Node.dir entries mode).at? place).map Node.kind := by
    rw [kind?, node?, Node.at?_append, show t.top.at? top = some (.dir entries mode) from hnode, Option.bind_some]
  constructor
  · intro h
    obtain ⟨below, hbelow, hdir, hlink⟩ := h.is_file
    have hkept := fun above left hsplit habove hleft =>
      Bool.or_eq_false_iff.1 (h.kept above left hsplit habove hleft)
    refine ⟨⟨h.ne_nil, ⟨_, by rw [hat, hbelow, Option.map_some], hdir, fun goal hgoal => ?_⟩, ?_⟩,
      fun above left hsplit hleft => ?_⟩
    · cases below with
      | file bytes mode => cases hgoal
      | dir entries mode => cases hgoal
      | link aim => exact hlink aim rfl
    · intro spec' hspec' above left hsplit habove hleft
      rw [hspec] at hspec'
      cases hspec'
      exact (hkept above left hsplit habove hleft).1
    · rcases eq_or_ne above [] with rfl | habove
      · exact hlists
      · simpa using (hkept above left hsplit habove hleft).2
  · rintro ⟨h, hlisted⟩
    obtain ⟨kind, hkind, hdir, hlink⟩ := h.is_file
    rw [hat, Option.map_eq_some_iff] at hkind
    obtain ⟨below, hbelow, rfl⟩ := hkind
    refine ⟨h.ne_nil, ⟨below, hbelow, hdir, fun goal hgoal => hlink goal (by rw [hgoal]; rfl)⟩,
      fun above left hsplit habove hleft => Bool.or_eq_false_iff.2 ⟨?_, ?_⟩⟩
    · exact h.outside spec hspec above left hsplit habove hleft
    · rw [List.nil_append, hlisted above left hsplit hleft, Bool.not_true]

/-- A walk gets to the files that are not pruned, where it can list all directories on the way, and to no
others. -/
theorem mem_walk (ht : t.IsProper) {spec : Ignore.Spec} (hspec : s.exclusions = .ok spec) :
    place ∈ t.walk (isLeftOut spec) (Path.tidy root) ↔ t.IsReached s root place := by
  rw [IsReached]
  cases hlist : t.list (Path.tidy root) with
  | ok entries =>
    obtain ⟨top, mode, hresolve, hnode, hreadable⟩ := list_eq_ok_iff.1 hlist
    rw [walk_of_list hresolve hnode hreadable, Node.mem_filesBelow_iff (Node.IsProper.at? ht hnode)]
    simp only [List.nil_append, exists_eq_left', hresolve, Except.ok.injEq]
    exact isListed_iff_isUnpruned hspec hnode (canList_iff.2 ⟨entries, hlist⟩)
  | error e =>
    rw [walk_of_error hlist]
    constructor
    · intro h
      cases h
    · rintro ⟨top, hresolve, hfile, hlisted⟩
      obtain ⟨entries, hentries⟩ := canList_iff.1 (hlisted [] place rfl hfile.ne_nil)
      cases hlist.symm.trans hentries

theorem pairwise_walk (ht : t.IsProper) (leftOut : Place → Bool) (path : Text) :
    (t.walk leftOut path).Pairwise Before := by
  cases hlist : t.list path with
  | ok entries =>
    obtain ⟨top, mode, hresolve, hnode, hreadable⟩ := list_eq_ok_iff.1 hlist
    rw [walk_of_list hresolve hnode hreadable]
    exact Node.pairwise_filesBelow (Node.IsProper.at? ht hnode) []
  | error e =>
    rw [walk_of_error hlist]
    exact List.Pairwise.nil

/-! ## The file to edit -/

def isMarked (t : Tree) (root marker suffix : Text) (place : Place) : Bool :=
  namedWith suffix place && t.holds marker (Path.under root place)

/-- The file to edit below a root, by what stands there: of the files that a walk gets to, the first that is named
as the delegate's is; if there is none, the first source file that holds the marker. -/
inductive Resolved (t : Tree) (s : Settings) (root name marker suffix : Text) : EntryFile → Prop where
  | delegate {place : Place} (h : IsFirst (fun p => t.IsReached s root p ∧ p.getLast? = some name) place) :
      Resolved t s root name marker suffix ⟨Path.under root place, .delegateCallback⟩
  | marked {place : Place} (hnone : ∀ p, t.IsReached s root p → p.getLast? ≠ some name)
      (h : IsFirst (fun p => t.IsReached s root p ∧ t.isMarked root marker suffix p = true) place) :
      Resolved t s root name marker suffix ⟨Path.under root place, .annotatedRoot⟩

theorem locate_eq {name marker suffix : Text} (hs : s.SearchesBy name marker suffix) {places : List Place}
    (hplaces : t.sources s root = .ok places) :
    t.locate s root = .ok
      (match places.find? fun place => place.getLast? == some name with
        | some place => .found ⟨Path.under root place, .delegateCallback⟩
        | none =>
          match places.find? (t.isMarked root marker suffix) with
          | some place => .found ⟨Path.under root place, .annotatedRoot⟩
          | none => .missing name marker) := by
  have hmarked : ((places.filter (namedWith suffix)).map (Path.under root)).find? (t.holds marker) =
      (places.find? (t.isMarked root marker suffix)).map (Path.under root) := by
    rw [List.find?_map, List.find?_filter]
    simp only [Bool.decide_and, Bool.decide_eq_true]
    rfl
  split
  · rename_i place hfind
    exact locate_of_delegate hs.delegateFile hplaces hfind
  · rename_i hnone
    rw [locate_of_lacksFile hs.delegateFile hplaces hnone hs.rootMarker hs.sourceSuffix, hmarked]
    cases places.find? (t.isMarked root marker suffix) <;> rfl

theorem exists_reached_of_locate (ht : t.IsProper) {file : EntryFile} (h : t.locate s root = .ok (.found file)) :
    ∃ place, t.IsReached s root place ∧ file.path = Path.under root place := by
  have hmem : ∀ {places : List Place}, t.sources s root = .ok places → ∀ place ∈ places,
      t.IsReached s root place := fun hplaces place hplace => by
    obtain ⟨-, spec, hspec, rfl⟩ := sources_eq_ok_iff.1 hplaces
    exact (mem_walk ht hspec).1 hplace
  cases locate_eq_found_iff.1 h with
  | delegate _ hplaces hfind => exact ⟨_, hmem hplaces _ (List.mem_of_find?_eq_some hfind), rfl⟩
  | marked _ hplaces _ _ _ hfind =>
    obtain ⟨place, hplace, hpath⟩ := List.mem_map.1 (List.mem_of_find?_eq_some hfind)
    exact ⟨place, hmem hplaces place (List.mem_filter.1 hplace).1, hpath.symm⟩

section
variable {name marker suffix : Text} (ht : t.IsProper) (hs : s.SearchesBy name marker suffix) (hnull : '\x00' ∉ root)
include ht hs hnull

theorem exists_sources : ∃ places, t.sources s root = .ok places ∧ places.Pairwise Before ∧
    ∀ place, place ∈ places ↔ t.IsReached s root place := by
  obtain ⟨spec, hspec⟩ := hs.exclusions
  exact ⟨_, sources_eq_ok_iff.2 ⟨hnull, spec, hspec, rfl⟩, pairwise_walk ht _ _, fun place => mem_walk ht hspec⟩

/-- The search finds the file to edit, and nothing else. -/
theorem locate_eq_found_iff_resolved {file : EntryFile} :
    t.locate s root = .ok (.found file) ↔ t.Resolved s root name marker suffix file := by
  obtain ⟨places, hplaces, hpairwise, hmem⟩ := exists_sources ht hs hnull
  have hdelegate : ∀ place, places.find? (fun place => place.getLast? == some name) = some place ↔
      IsFirst (fun p => t.IsReached s root p ∧ p.getLast? = some name) place := fun place => by
    rw [find?_eq_some_iff_isFirst hpairwise]
    simp only [hmem, beq_iff_eq]
  have hmarked : ∀ place, places.find? (t.isMarked root marker suffix) = some place ↔
      IsFirst (fun p => t.IsReached s root p ∧ t.isMarked root marker suffix p = true) place := fun place => by
    rw [find?_eq_some_iff_isFirst hpairwise]
    simp only [hmem]
  have hlacks : places.find? (fun place => place.getLast? == some name) = none ↔
      ∀ p, t.IsReached s root p → p.getLast? ≠ some name := by
    simp only [List.find?_eq_none, hmem, beq_iff_eq, ne_eq]
  rw [locate_eq hs hplaces]
  constructor
  · intro h
    split at h
    · rename_i place hfind
      cases h
      exact .delegate ((hdelegate place).1 hfind)
    · rename_i hnone
      split at h
      · rename_i place hfind
        cases h
        exact .marked (hlacks.1 hnone) ((hmarked place).1 hfind)
      · cases h
  · intro h
    cases h with
    | delegate h => rw [(hdelegate _).2 h]
    | marked hnone h =>
      rw [hlacks.2 hnone]
      simp only
      rw [(hmarked _).2 h]

/-- Nothing is found exactly if no file is named as the delegate's is and no source file holds the marker. -/
theorem locate_eq_missing_iff :
    t.locate s root = .ok (.missing name marker) ↔
      ∀ place, t.IsReached s root place → place.getLast? ≠ some name ∧ t.isMarked root marker suffix place = false := by
  obtain ⟨places, hplaces, -, hmem⟩ := exists_sources ht hs hnull
  rw [locate_eq hs hplaces]
  constructor
  · intro h place hreached
    have hplace := (hmem place).2 hreached
    split at h
    · cases h
    · rename_i hnone
      split at h
      · cases h
      · rename_i hunmarked
        exact ⟨by simpa using List.find?_eq_none.1 hnone place hplace,
          by simpa using List.find?_eq_none.1 hunmarked place hplace⟩
  · intro h
    have hnone : places.find? (fun place => place.getLast? == some name) = none :=
      List.find?_eq_none.2 fun place hplace => by simpa using (h place ((hmem place).1 hplace)).1
    have hunmarked : places.find? (t.isMarked root marker suffix) = none :=
      List.find?_eq_none.2 fun place hplace => by simpa using (h place ((hmem place).1 hplace)).2
    rw [hnone]
    simp only
    rw [hunmarked]

end

end Tree

end SdkGraft
