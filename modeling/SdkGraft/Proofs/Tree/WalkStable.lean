import SdkGraft.Proofs.Tree.Replace
import SdkGraft.Proofs.Tree.WalkFiles

/-!
# A walk after a file was written

* `Node.filesBelow_put` : a file in the place of what counts as one leaves a walk as it is;
* `Tree.Rewritten.walk_eq` : so a file in the place of a file, or of a link to one, is found where that was.
-/

namespace SdkGraft

namespace Node

variable {leadsToDirectory leftOut : Place → Bool}

/-! ## A file in the place of another -/

theorem foundAt_of_dir {place : Place} {name : Text} {node : Node} (h : node.kind.isDir = true) :
    foundAt leadsToDirectory leftOut place (name, node) =
      if leftOut (place ++ [name]) then .passed
      else .below (filesBelow leadsToDirectory leftOut (place ++ [name]) node) := by
  obtain ⟨entries, mode, rfl⟩ := isDir_kind.1 h
  rfl

theorem map_put {β : Type} (g : Text × Node → β) {entries : Entries} {name : Text} {old new : Node}
    (hget : entries.get? name = some old) (hg : g (name, new) = g (name, old)) :
    (Entries.put entries name new).map g = entries.map g := by
  induction entries with
  | nil => cases hget
  | cons e rest ih =>
    obtain ⟨m, node⟩ := e
    rw [Entries.get?] at hget
    by_cases hm : m = name
    · rw [if_pos hm, Option.some_inj] at hget
      rw [Entries.put, if_pos hm, List.map_cons, List.map_cons, hm, hg, hget]
    · rw [if_neg hm] at hget
      rw [Entries.put, if_neg hm, List.map_cons, List.map_cons, ih hget]

/-- A file in the place of what counts as one leaves a walk as it is. -/
theorem filesBelow_put {node old new : Node} (hp : node.IsProper) {p : Place} {entries : Entries} {mode : Nat}
    {name : Text} (h : node.at? p = some (.dir entries mode)) (hget : entries.get? name = some old) {place : Place}
    (hsame : foundAt leadsToDirectory leftOut (place ++ p) (name, new) =
      foundAt leadsToDirectory leftOut (place ++ p) (name, old)) :
    filesBelow leadsToDirectory leftOut place (node.onEntries (fun es => Entries.put es name new) p) =
      filesBelow leadsToDirectory leftOut place node := by
  induction p generalizing node place with
  | nil =>
    rw [at?_nil, Option.some_inj] at h
    rw [List.append_nil] at hsame
    subst h
    rw [onEntries, filesBelow_dir, filesBelow_dir, map_put _ hget (by rw [hsame])]
  | cons m p ih =>
    cases node with
    | file bytes mode => cases h
    | link goal => cases h
    | dir es m' =>
      rw [at?_dir_cons, Option.bind_eq_some_iff] at h
      obtain ⟨child, hchild, hat⟩ := h
      have hnames := (hp [] es m' (at?_nil _)).1
      rw [onEntries_dir_cons, filesBelow_dir, filesBelow_dir, List.map_map]
      congr 1
      refine List.map_congr_left fun e he => ?_
      obtain ⟨k, below⟩ := e
      show (fun e : Text × Node => (e.1, foundAt leadsToDirectory leftOut place e))
        (if k = m then (k, onEntries _ p below) else (k, below)) = _
      split
      · rename_i hm
        subst hm
        have hbelow : Entries.get? es k = some below := Entries.get?_of_mem hnames he
        rw [hchild, Option.some_inj] at hbelow
        subst hbelow
        have hdir := isDir_of_at?_dir hat
        have hfiles : filesBelow leadsToDirectory leftOut (place ++ [k])
            (child.onEntries (fun es => Entries.put es name new) p) =
            filesBelow leadsToDirectory leftOut (place ++ [k]) child :=
          ih (hp.child hchild) hat (by simpa using hsame)
        rw [Prod.mk.injEq]
        refine ⟨rfl, ?_⟩
        rw [foundAt_of_dir (by rw [kind_onEntries, hdir]), hfiles, foundAt_of_dir hdir]
      · rfl

end Node

namespace Tree

/-- A link to a file leads to no directory, seen from where a walk began. -/
theorem leadsToDirectory_displaced {t : Tree} (ht : t.IsProper) {path : Text} {root old : Place}
    {names : List Text} {name : Text} (hroot : t.resolve path = .ok root)
    (h : Displaced t.kind? (root ++ names) name old) : t.leadsToDirectory path (names ++ [name]) = false := by
  rw [leadsToDirectory, Bool.eq_false_iff, ne_eq, isDirectory_iff]
  rintro ⟨-, goal, hgoal, hdir⟩
  obtain ⟨kind, hkind⟩ := h.exists_kind
  have hnames : ∀ n ∈ names ++ [name], IsEntryName n := fun n hn =>
    ht.isEntryName hkind (by rw [List.append_assoc]; exact List.mem_append_right _ hn)
  have hparts : ∀ n ∈ names ++ [name], Path.IsPart n := fun n hn => (hnames n hn).isPart
  obtain ⟨hempty, -, j, -, hup⟩ := resolve_eq_ok_iff.1 hroot
  obtain ⟨-, -, n, -, hleads⟩ := resolve_eq_ok_iff.1 hgoal
  have hstart : startOf t.here (Path.along path (names ++ [name])) = startOf t.here path := by
    rw [startOf, startOf, Path.isAbsolute_along hempty]
  have hupper := hup.of_idle
  have hroute := hleads.of_idle
  rw [← Path.parts] at hupper
  rw [← Path.parts, hstart, Path.parts_along path hparts] at hroute
  obtain ⟨_, _, top, -, htop, hbelow⟩ := hroute.split
  rw [(htop.unique hupper).2] at hbelow
  obtain ⟨_, k, middle, -, hmiddle, hk⟩ := hbelow.split
  rw [leads_straight h.dir.hasDir (fun n hn => hnames n (List.mem_append_left _ hn)) hmiddle] at hk
  obtain ⟨m, hm⟩ := h.leads
  exact h.old_not_dir ((hk.unique hm).2 ▸ hdir)

theorem walk_of_list {t : Tree} {path : Text} {root : Place} {entries : Entries} {mode : Nat}
    (h : t.resolve path = .ok root) (hnode : t.node? root = some (.dir entries mode))
    (hreadable : isReadable mode = true) (leftOut : Place → Bool) :
    t.walk leftOut path =
      (Node.dir entries mode).filesBelow (t.leadsToDirectory path) (t.isPassedOver leftOut path) [] := by
  rw [walk, list_eq_ok_iff.2 ⟨root, mode, h, hnode, hreadable⟩, Node.filesBelow]

theorem walk_of_error {t : Tree} {path : Text} {e : FileError} (h : t.list path = .error e)
    (leftOut : Place → Bool) : t.walk leftOut path = [] := by
  rw [walk, h]

theorem canList_iff {t : Tree} {path : Text} : t.canList path = true ↔ ∃ entries, t.list path = .ok entries := by
  rw [canList]
  cases t.list path <;> simp [Except.toOption]

namespace Rewritten

variable {t t' : Tree} {place old : Place} {name : Text} {bytes : Bytes} {mode : Nat}

theorem canList_eq (h : t.Rewritten t' place name old bytes mode) (path : Text) :
    t'.canList path = t.canList path := by
  rw [Bool.eq_iff_iff, canList_iff, canList_iff]
  constructor
  · rintro ⟨entries, hlist⟩
    obtain ⟨goal, m, hgoal, hnode, hreadable⟩ := list_eq_ok_iff.1 hlist
    have hkind := (h.kind?_eq_dir_iff goal m).1 (kind?_eq_dir.2 ⟨entries, hnode⟩)
    obtain ⟨entries', hnode'⟩ := kind?_eq_dir.1 hkind
    exact ⟨entries', list_eq_ok_iff.2 ⟨goal, m, (h.resolve_dir_iff ⟨m, hkind⟩).1 hgoal, hnode', hreadable⟩⟩
  · rintro ⟨entries, hlist⟩
    exact (h.list_names hlist).imp fun _ hlist' => hlist'.1

/-- A file in the place of a file, or of a link to one, is found where that was found. -/
theorem walk_eq (ht : t.IsProper) (h : t.Rewritten t' place name old bytes mode) (leftOut : Place → Bool)
    (path : Text) : t'.walk leftOut path = t.walk leftOut path := by
  have hlists := h.canList_eq path
  cases hlist : t.list path with
  | error e =>
    rw [walk_of_error hlist]
    cases hlist' : t'.list path with
    | error e' => exact walk_of_error hlist' leftOut
    | ok entries' =>
      rw [canList, canList, hlist, hlist'] at hlists
      cases hlists
  | ok listed =>
    obtain ⟨root, m, hresolve, hlisted, hreadable⟩ := list_eq_ok_iff.1 hlist
    obtain ⟨entries, k, node, hnode, hget, hkind⟩ := h.exists_entry
    have hleads : t'.leadsToDirectory path = t.leadsToDirectory path := funext fun p => h.isDirectory_eq _
    have hpassed : t'.isPassedOver leftOut path = t.isPassedOver leftOut path := funext fun p => by
      rw [isPassedOver, isPassedOver, h.canList_eq]
    have hold : ∀ old, Entries.get? entries name = some old → old.kind.isDir = false := fun old hold => by
      rw [hget] at hold
      exact Option.some.inj hold ▸ hkind
    have hresolve' := (h.resolve_dir_iff (Tree.hasDir_iff.2 ⟨listed, m, hlisted⟩)).2 hresolve
    have hat := Node.at?_put_cases (.file bytes mode) hnode hold hlisted
    rw [walk_of_list hresolve hlisted hreadable]
    obtain ⟨rest, rfl, hat⟩ | hat := hat
    · have hbelow : (Node.dir listed m).at? rest = some (.dir entries k) := by
        rw [node?, Node.at?_append, show t.top.at? root = some (.dir listed m) from hlisted] at hnode
        exact hnode
      have hlink := leadsToDirectory_displaced ht hresolve h.displaced
      have hfile : ∀ node : Node, node.kind.isDir = false →
          Node.foundAt (t.leadsToDirectory path) (t.isPassedOver leftOut path) ([] ++ rest) (name, node) = .file :=
        fun node hkind => Node.foundAt_eq_file_iff.2 ⟨hkind, fun _ _ => hlink⟩
      obtain ⟨listed', hlisted', -⟩ := Node.names_onEntries_put (.file bytes mode) hbelow hget
      have hnode' : t'.node? root = some (.dir listed' m) := by
        rw [h.eq, ← hlisted']
        exact hat
      rw [walk_of_list hresolve' hnode' hreadable, ← hlisted', hleads, hpassed]
      exact Node.filesBelow_put (Node.IsProper.at? ht hlisted) hbelow hget
        ((hfile _ (by simp [Node.kind])).trans (hfile _ hkind).symm)
    · rw [walk_of_list hresolve' (show t'.node? root = some (.dir listed m) by rw [h.eq]; exact hat) hreadable, hleads,
        hpassed]

end Rewritten

end Tree

end SdkGraft
