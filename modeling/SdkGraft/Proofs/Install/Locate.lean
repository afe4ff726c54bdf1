import SdkGraft.Proofs.Bind
import SdkGraft.Proofs.Tree.WalkStable
import SdkGraft.Install.Locate

/-!
# Where the file to edit is found

* `Tree.Located` : what has to hold of a file for the search to find it, and no other;
* `locate_eq_found_iff` : the search finds what is located so;
* `Located.exists_names` : its path puts entry names behind the root;
* `Tree.Rewritten.sources_eq`, `.workspaceAt?_eq_some`, `.isProject_eq_true` : a file rewritten in its
  place changes nothing that the search goes by but the contents.
-/

namespace SdkGraft.Tree

variable {t t' : Tree} {s : Settings} {root : Text} {file : EntryFile}

/-! ## The search -/

def LacksFile (places : List Place) (name : Text) : Prop :=
  places.find? (fun place => place.getLast? == some name) = none

/-- The search for a file to edit finds this one: either it is named as the delegate's is, or there is
none of that name and it is the first source file that holds the marker. -/
inductive Located (t : Tree) (s : Settings) (root : Text) : EntryFile → Prop where
  | delegate {name : Text} {places : List Place} {place : Place} (hname : s.delegateFile = .ok name)
      (hplaces : t.sources s root = .ok places)
      (hfind : places.find? (fun place => place.getLast? == some name) = some place) :
      Located t s root ⟨Path.under root place, .delegateCallback⟩
  | marked {name marker suffix : Text} {places : List Place} {path : Text} (hname : s.delegateFile = .ok name)
      (hplaces : t.sources s root = .ok places) (hnone : LacksFile places name)
      (hmarker : s.rootMarker = .ok marker) (hsuffix : s.sourceSuffix = .ok suffix)
      (hfind : ((places.filter (namedWith suffix)).map (Path.under root)).find? (t.holds marker) = some path) :
      Located t s root ⟨path, .annotatedRoot⟩

theorem findMarked_eq {marker : Text} (hmarker : s.rootMarker = .ok marker) :
    t.findMarked s root marker =
      s.sourceSuffix >>= fun suffix => (t.files s root suffix).map fun paths => paths.find? (t.holds marker) := by
  rw [findMarked]
  split
  · rw [hmarker, Except.ok_bind]
    rfl
  · rfl

theorem locate_of_delegate {name : Text} {places : List Place} {place : Place} (hname : s.delegateFile = .ok name)
    (hplaces : t.sources s root = .ok places)
    (hfind : places.find? (fun place => place.getLast? == some name) = some place) :
    t.locate s root = .ok (.found ⟨Path.under root place, .delegateCallback⟩) := by
  have hfile : t.findFile s root name = .ok (some (Path.under root place)) := by
    rw [findFile, hplaces, Except.map, hfind, Option.map_some]
  rw [locate, hname, Except.ok_bind, hfile, Except.ok_bind]
  rfl

theorem locate_of_lacksFile {name marker suffix : Text} {places : List Place} (hname : s.delegateFile = .ok name)
    (hplaces : t.sources s root = .ok places) (hnone : LacksFile places name)
    (hmarker : s.rootMarker = .ok marker) (hsuffix : s.sourceSuffix = .ok suffix) :
    t.locate s root = .ok
      (match ((places.filter (namedWith suffix)).map (Path.under root)).find? (t.holds marker) with
        | some path => .found ⟨path, .annotatedRoot⟩
        | none => .missing name marker) := by
  have hfile : t.findFile s root name = .ok none := by
    rw [findFile, hplaces, Except.map, hnone, Option.map_none]
  rw [locate, hname, Except.ok_bind, hfile, Except.ok_bind]
  simp only
  rw [hmarker, Except.ok_bind, findMarked_eq hmarker, hsuffix, Except.ok_bind, files, hplaces]
  simp only [Except.map, Except.ok_bind]
  cases ((places.filter (namedWith suffix)).map (Path.under root)).find? (t.holds marker) <;> rfl

/-- The search finds what is located so. -/
theorem locate_eq_found_iff : t.locate s root = .ok (.found file) ↔ t.Located s root file := by
  constructor
  · intro h
    have hlocate := h
    rw [locate] at h
    obtain ⟨name, hname, h⟩ := Except.exists_of_bind_eq_ok h
    obtain ⟨path?, hfile, h⟩ := Except.exists_of_bind_eq_ok h
    rw [findFile] at hfile
    obtain ⟨places, hplaces, hfile⟩ := Except.exists_of_map_eq_ok hfile
    generalize hfind : places.find? (fun place => place.getLast? == some name) = place? at hfile
    cases place? with
    | some place =>
      rw [locate_of_delegate hname hplaces hfind] at hlocate
      cases hlocate
      exact .delegate hname hplaces hfind
    | none =>
      rw [Option.map_none] at hfile
      cases hfile
      obtain ⟨marker, hmarker, h⟩ := Except.exists_of_bind_eq_ok h
      obtain ⟨path?, hpath, -⟩ := Except.exists_of_bind_eq_ok h
      rw [findMarked_eq hmarker] at hpath
      obtain ⟨suffix, hsuffix, -⟩ := Except.exists_of_bind_eq_ok hpath
      rw [locate_of_lacksFile hname hplaces hfind hmarker hsuffix] at hlocate
      split at hlocate
      · rename_i path hmarked
        cases hlocate
        exact .marked hname hplaces hfind hmarker hsuffix hmarked
      · cases hlocate
  · intro h
    cases h with
    | delegate hname hplaces hfind => exact locate_of_delegate hname hplaces hfind
    | marked hname hplaces hnone hmarker hsuffix hfind =>
      rw [locate_of_lacksFile hname hplaces hnone hmarker hsuffix, hfind]

theorem Located.unique {file' : EntryFile} (h : t.Located s root file) (h' : t.Located s root file') : file' = file := by
  have hlocate := locate_eq_found_iff.2 h'
  rw [locate_eq_found_iff.2 h] at hlocate
  cases hlocate
  rfl

theorem sources_eq_ok_iff {places : List Place} :
    t.sources s root = .ok places ↔
      '\x00' ∉ root ∧ ∃ spec, s.exclusions = .ok spec ∧ places = t.walk (isLeftOut spec) (Path.tidy root) := by
  rw [sources]
  split
  · rename_i f hf
    simp [hf]
  · rename_i spec hspec
    simp only [hspec, Except.ok.injEq, exists_eq_left', List.contains_iff_mem]
    split
    · simp_all
    · rename_i hnull
      simp [hnull, eq_comm]

theorem no_null_of_sources {places : List Place} (h : t.sources s root = .ok places) : '\x00' ∉ root :=
  (sources_eq_ok_iff.1 h).1

/-! ## Paths -/

theorem exists_names_of_mem_sources (ht : t.IsProper) {places : List Place} (h : t.sources s root = .ok places)
    {place : Place} (hmem : place ∈ places) :
    ∃ names name, place = names ++ [name] ∧ ∀ n ∈ names ++ [name], IsEntryName n := by
  obtain ⟨-, spec, -, rfl⟩ := sources_eq_ok_iff.1 h
  cases hlist : t.list (Path.tidy root) with
  | error e =>
    rw [walk_of_error hlist] at hmem
    cases hmem
  | ok entries =>
    obtain ⟨top, mode, hresolve, hnode, hreadable⟩ := list_eq_ok_iff.1 hlist
    have hproper : (Node.dir entries mode).IsProper := Node.IsProper.at? ht hnode
    rw [walk_of_list hresolve hnode hreadable] at hmem
    obtain ⟨names, name, below, hplace, hat⟩ := Node.at?_of_mem_filesBelow hproper hmem
    exact ⟨names, name, hplace, fun n hn => hproper.isEntryName hat hn⟩

/-- The path of a file that is located puts names of entries behind the root; it is enough that a proper
tree has the same sources. -/
theorem Located.exists_names (ht : t.IsProper) (hsources : t'.sources s root = t.sources s root)
    (h : t'.Located s root file) :
    ∃ names name, file.path = Path.under root (names ++ [name]) ∧ ∀ n ∈ names ++ [name], IsEntryName n := by
  cases h with
  | delegate _ hplaces hfind =>
    obtain ⟨names, name, hplace, hnames⟩ :=
      exists_names_of_mem_sources ht (hsources ▸ hplaces) (List.mem_of_find?_eq_some hfind)
    exact ⟨names, name, congrArg (Path.under root) hplace, hnames⟩
  | marked _ hplaces _ _ _ hfind =>
    obtain ⟨place, hmem, hpath⟩ := List.mem_map.1 (List.mem_of_find?_eq_some hfind)
    obtain ⟨names, name, hplace, hnames⟩ :=
      exists_names_of_mem_sources ht (hsources ▸ hplaces) (List.mem_filter.1 hmem).1
    exact ⟨names, name, by rw [← hpath, hplace], hnames⟩

theorem Located.no_null (ht : t.IsProper) (hsources : t'.sources s root = t.sources s root)
    (h : t'.Located s root file) : '\x00' ∉ file.path := by
  obtain ⟨names, name, hpath, hnames⟩ := h.exists_names ht hsources
  have hroot : '\x00' ∉ root := by
    cases h with
    | delegate _ hplaces => exact no_null_of_sources hplaces
    | marked _ hplaces => exact no_null_of_sources hplaces
  rw [hpath]
  exact Path.not_mem_under (by decide) (by decide) hroot fun n hn => (hnames n hn).no_null

/-! ## The root -/

/-- Asking finds a directory where there is one. -/
theorem asksDirectory_eq_true_iff {path : Text} : t.asksDirectory path = .ok true ↔ t.isDirectory path = true := by
  rw [isDirectory_iff, asksDirectory]
  constructor
  · intro h
    split at h
    · cases h
    rename_i hnull
    split at h
    · rename_i node? hfind
      rw [Except.ok.injEq, Option.isSome_iff_exists] at h
      obtain ⟨entries, hentries⟩ := h
      obtain ⟨node, rfl, hnode⟩ := Option.bind_eq_some_iff.1 hentries
      obtain ⟨mode, rfl⟩ := Node.entries?_eq_some_iff.1 hnode
      obtain ⟨goal, hgoal, hat⟩ := lookUp_eq_ok_iff.1 (find?_eq_some_iff.1 hfind)
      exact ⟨by simpa using hnull, goal, hgoal, hasDir_iff.2 ⟨entries, mode, hat⟩⟩
    · cases h
  · rintro ⟨hnull, goal, hgoal, hdir⟩
    obtain ⟨entries, mode, hnode⟩ := hasDir_iff.1 hdir
    rw [if_neg (by simpa using hnull), find?_eq_some_iff.2 (lookUp_eq_ok_iff.2 ⟨goal, hgoal, hnode⟩)]
    rfl

/-! ## A file rewritten in its place -/

namespace Rewritten

variable {place old : Place} {name : Text} {bytes : Bytes} {mode : Nat}

theorem sources_eq (ht : t.IsProper) (h : t.Rewritten t' place name old bytes mode) (s : Settings)
    (root : Text) : t'.sources s root = t.sources s root := by
  simp only [sources, h.walk_eq ht]

theorem isProject_eq_true (h : t.Rewritten t' place name old bytes mode)
    (hproject : t.isProject s root = .ok true) :
    t'.isProject s root = .ok true := by
  rw [isProject] at hproject ⊢
  split at hproject
  · cases hproject
  rename_i hnull
  rw [if_neg hnull]
  split at hproject
  · cases hproject
  rename_i entries hlist
  obtain ⟨entries', hlist', hnames⟩ := h.list_names hlist
  rw [hlist']
  simp only
  rw [hnames]
  exact hproject

theorem asksDirectory_eq_true (h : t.Rewritten t' place name old bytes mode) {path : Text}
    (hasks : t.asksDirectory path = .ok true) : t'.asksDirectory path = .ok true := by
  rw [asksDirectory_eq_true_iff] at hasks ⊢
  rw [h.isDirectory_eq, hasks]

theorem workspaceAt?_eq_some (h : t.Rewritten t' place name old bytes mode) {root : Value} {workspace : Text}
    (hworkspace : t.workspaceAt? root = .ok (some workspace)) :
    t'.workspaceAt? root = .ok (some workspace) := by
  unfold workspaceAt? at hworkspace ⊢
  split at hworkspace
  · cases hworkspace
  · rename_i r
    rw [workspace?] at hworkspace ⊢
    split at hworkspace
    · cases hworkspace
    rename_i hblank
    rw [if_neg hblank]
    obtain ⟨is, hasks, hsome⟩ := Except.exists_of_map_eq_ok hworkspace
    cases is with
    | false => cases hsome
    | true =>
      rw [h.asksDirectory_eq_true hasks]
      exact congrArg Except.ok hsome
  · cases hworkspace

end Rewritten

end SdkGraft.Tree
