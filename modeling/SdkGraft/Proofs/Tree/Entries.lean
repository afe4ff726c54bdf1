import Mathlib.Tactic.ByContra
import SdkGraft.Tree.Write

/-!
# Entries put into a tree and taken out again

* `Entries.get?_put`, `Entries.put_put`, `Entries.erase_put` : one name among the entries of a directory;
* `Node.at?_append`, `Node.at?_put_cases` : places below places, and in a changed node;
* `Kind`, `Tree.kind?` : what stands at a place, the contents of directories left aside;
* `HasDir`, `HasOpenDir`, `HasWritableDir` : a directory stands there, names can be looked up in it, its entries can
  be changed;
* `Tree.kind?_putEntry` : putting an entry changes what stands at one place;
* `Node.IsProper` : names of entries are names and differ (`Node.onEntries_eq_self`);
* `Tree.eraseEntry_putEntry` : an entry put under a spare name and taken away leaves no trace.
-/

namespace SdkGraft

/-! ## Entries -/

namespace Entries

theorem get?_put (entries : Entries) (name : Text) (node : Node) (n : Text) :
    (entries.put name node).get? n = if n = name then some node else entries.get? n := by
  induction entries with
  | nil => simp only [put, get?, eq_comm]
  | cons e rest ih =>
    obtain ⟨m, old⟩ := e
    by_cases hm : m = name
    · subst hm
      rw [put, if_pos rfl, get?, get?]
      by_cases hn : m = n
      · rw [if_pos hn, if_pos hn.symm]
      · rw [if_neg hn, if_neg (Ne.symm hn), if_neg hn]
    · rw [put, if_neg hm, get?, get?, ih]
      by_cases hn : m = n
      · subst hn
        rw [if_pos rfl, if_neg hm, if_pos rfl]
      · rw [if_neg hn, if_neg hn]

theorem mem_of_get? {entries : Entries} {n : Text} {node : Node} (h : entries.get? n = some node) :
    (n, node) ∈ entries := by
  induction entries with
  | nil => cases h
  | cons e rest ih =>
    obtain ⟨m, old⟩ := e
    rw [get?] at h
    split at h
    · rename_i hm
      cases h
      rw [hm]
      exact List.mem_cons_self
    · exact List.mem_cons_of_mem _ (ih h)

theorem mem_names_of_get? {entries : Entries} {n : Text} {node : Node} (h : entries.get? n = some node) :
    n ∈ entries.names := List.mem_map.2 ⟨_, mem_of_get? h, rfl⟩

theorem get?_eq_none_iff {entries : Entries} {n : Text} : entries.get? n = none ↔ n ∉ entries.names := by
  induction entries with
  | nil => simp [get?, names]
  | cons e rest ih =>
    obtain ⟨m, old⟩ := e
    rw [get?]
    by_cases hm : m = n
    · simp [hm, names]
    · rw [if_neg hm, ih]
      simp [names, Ne.symm hm]

theorem get?_of_mem {entries : Entries} (hd : entries.names.Nodup) {n : Text} {node : Node}
    (h : (n, node) ∈ entries) : entries.get? n = some node := by
  induction entries with
  | nil => cases h
  | cons e rest ih =>
    obtain ⟨m, old⟩ := e
    rw [names, List.map_cons, List.nodup_cons] at hd
    rw [get?]
    rcases List.mem_cons.1 h with heq | hmem
    · cases heq
      exact if_pos rfl
    · have hm : m ≠ n := fun hm => hd.1 (List.mem_map.2 ⟨(n, node), hmem, hm.symm⟩)
      rw [if_neg hm]
      exact ih hd.2 hmem

theorem put_put (entries : Entries) (name : Text) (a b : Node) :
    (entries.put name a).put name b = entries.put name b := by
  induction entries with
  | nil => simp [put]
  | cons e rest ih =>
    obtain ⟨m, old⟩ := e
    by_cases hm : m = name
    · simp [put, hm]
    · simp [put, hm, ih]

theorem put_of_not_mem {entries : Entries} {name : Text} (h : name ∉ entries.names) (node : Node) :
    entries.put name node = entries ++ [(name, node)] := by
  induction entries with
  | nil => rfl
  | cons e rest ih =>
    obtain ⟨m, old⟩ := e
    rw [names, List.map_cons, List.mem_cons, not_or] at h
    rw [put, if_neg (Ne.symm h.1), ih h.2, List.cons_append]

theorem erase_put {entries : Entries} {name : Text} (h : name ∉ entries.names) (node : Node) :
    (entries.put name node).erase name = entries := by
  have hkeep : entries.filter (fun e => e.1 != name) = entries := List.filter_eq_self.2 fun e he =>
    bne_iff_ne.2 fun hn => h (List.mem_map.2 ⟨e, he, hn⟩)
  rw [put_of_not_mem h, erase, List.filter_append, hkeep]
  simp

theorem names_put_of_mem {entries : Entries} {name : Text} (h : name ∈ entries.names) (node : Node) :
    (entries.put name node).names = entries.names := by
  induction entries with
  | nil => cases h
  | cons e rest ih =>
    obtain ⟨m, old⟩ := e
    by_cases hm : m = name
    · rw [put, if_pos hm]
      rfl
    · have hrest : name ∈ Entries.names rest := by
        rcases List.mem_cons.1 h with hn | hn
        · exact absurd hn.symm hm
        · exact hn
      rw [put, if_neg hm, names, List.map_cons, ← names, ih hrest]
      rfl

theorem get?_map_at (entries : Entries) (m : Text) (f : Node → Node) (n : Text) :
    get? (entries.map fun e => if e.1 = m then (e.1, f e.2) else e) n =
      if n = m then (entries.get? m).map f else entries.get? n := by
  induction entries with
  | nil => simp [get?]
  | cons e rest ih =>
    obtain ⟨k, old⟩ := e
    by_cases hk : k = m
    · subst hk
      by_cases hn : k = n
      · subst hn
        simp [get?]
      · simp [get?, hn, Ne.symm hn, ih]
    · by_cases hn : k = n
      · subst hn
        simp [get?, hk]
      · simp [get?, hk, hn, ih]

end Entries

/-! ## What stands at a place -/

/-- What stands at a place, the entries of a directory left aside. -/
inductive Kind where
  | file (bytes : Bytes) (mode : Nat)
  | link (goal : Text)
  | dir (mode : Nat)
  deriving DecidableEq, Repr

def Kind.isDir : Kind → Bool
  | .dir _ => true
  | _ => false

@[simp] theorem Kind.isDir_file (bytes : Bytes) (mode : Nat) : (file bytes mode).isDir = false := rfl

@[simp] theorem Kind.isDir_link (goal : Text) : (link goal).isDir = false := rfl

@[simp] theorem Kind.isDir_dir (mode : Nat) : (dir mode).isDir = true := rfl

theorem Kind.isDir_iff {kind : Kind} : kind.isDir = true ↔ ∃ mode, kind = .dir mode := by
  cases kind <;> simp

/-- What stands at each place. -/
abbrev Kinds := Place → Option Kind

/-- A directory stands at a place. -/
def HasDir (kinds : Kinds) (place : Place) : Prop := ∃ mode, kinds place = some (.dir mode)

/-- A directory stands at a place, and names can be looked up in it. -/
def HasOpenDir (kinds : Kinds) (place : Place) : Prop :=
  ∃ mode, kinds place = some (.dir mode) ∧ Tree.isSearchable mode = true

def HasWritableDir (kinds : Kinds) (place : Place) : Prop :=
  ∃ mode, kinds place = some (.dir mode) ∧ Tree.isSearchable mode = true ∧ Tree.isWritable mode = true

section
variable {kinds : Kinds} {place : Place}

theorem HasWritableDir.hasOpenDir (h : HasWritableDir kinds place) : HasOpenDir kinds place :=
  h.imp fun _ hmode => ⟨hmode.1, hmode.2.1⟩

theorem HasOpenDir.hasDir (h : HasOpenDir kinds place) : HasDir kinds place :=
  h.imp fun _ hmode => hmode.1

theorem HasDir.exists_kind (h : HasDir kinds place) : ∃ kind, kinds place = some kind :=
  h.elim fun _ hmode => ⟨_, hmode⟩

theorem hasDir_of_isDir {kind : Kind} (h : kinds place = some kind) (hkind : kind.isDir = true) :
    HasDir kinds place := by
  obtain ⟨mode, rfl⟩ := Kind.isDir_iff.1 hkind
  exact ⟨mode, h⟩

theorem not_hasDir_of_file {bytes : Bytes} {mode : Nat} (h : kinds place = some (.file bytes mode)) :
    ¬ HasDir kinds place := by
  rintro ⟨m, hdir⟩
  rw [h] at hdir
  cases hdir

theorem not_hasDir_of_link {goal : Text} (h : kinds place = some (.link goal)) : ¬ HasDir kinds place := by
  rintro ⟨m, hdir⟩
  rw [h] at hdir
  cases hdir

end

def Node.kind : Node → Kind
  | .file bytes mode => .file bytes mode
  | .link goal => .link goal
  | .dir _ mode => .dir mode

def Tree.kind? (t : Tree) (place : Place) : Option Kind := (t.node? place).map Node.kind

namespace Node

theorem kind_eq_dir {node : Node} {mode : Nat} : node.kind = .dir mode ↔ ∃ entries, node = .dir entries mode := by
  cases node <;> simp [kind]

theorem isDir_kind {node : Node} : node.kind.isDir = true ↔ ∃ entries mode, node = .dir entries mode := by
  cases node <;> simp [kind]

theorem entries?_eq_some_iff {node : Node} {entries : Entries} :
    node.entries? = some entries ↔ ∃ mode, node = .dir entries mode := by
  cases node <;> simp [entries?]

theorem isSome_entries? (node : Node) : node.entries?.isSome = node.kind.isDir := by cases node <;> rfl

@[simp] theorem at?_nil (node : Node) : node.at? [] = some node := by cases node <;> rfl

theorem at?_dir_cons (entries : Entries) (mode : Nat) (n : Text) (rest : Place) :
    (Node.dir entries mode).at? (n :: rest) = (entries.get? n).bind (·.at? rest) := by
  rw [at?]
  cases entries.get? n <;> rfl

theorem at?_cons_of_not_dir {node : Node} (h : node.kind.isDir = false) (n : Text) (rest : Place) :
    node.at? (n :: rest) = none := by
  cases node with
  | file bytes mode => rfl
  | link goal => rfl
  | dir entries mode => cases h

theorem at?_append (node : Node) (p q : Place) : node.at? (p ++ q) = (node.at? p).bind (·.at? q) := by
  induction p generalizing node with
  | nil => simp
  | cons n rest ih =>
    cases node with
    | file bytes mode => rfl
    | link goal => rfl
    | dir entries mode =>
      rw [List.cons_append, at?_dir_cons, at?_dir_cons]
      cases Entries.get? entries n with
      | none => rfl
      | some child => exact ih child

end Node

namespace Tree

theorem node?_concat {t : Tree} {place : Place} {entries : Entries} {mode : Nat}
    (h : t.node? place = some (.dir entries mode)) (n : Text) : t.node? (place ++ [n]) = entries.get? n := by
  have hnode := t.top.at?_append place [n]
  rw [show t.top.at? place = some (.dir entries mode) from h, Option.bind_some, Node.at?_dir_cons] at hnode
  rw [node?, hnode]
  cases entries.get? n <;> simp

theorem kind?_eq_dir {t : Tree} {place : Place} {mode : Nat} :
    t.kind? place = some (.dir mode) ↔ ∃ entries, t.node? place = some (.dir entries mode) := by
  rw [kind?, Option.map_eq_some_iff]
  constructor
  · rintro ⟨node, hnode, hkind⟩
    obtain ⟨entries, rfl⟩ := Node.kind_eq_dir.1 hkind
    exact ⟨entries, hnode⟩
  · rintro ⟨entries, hnode⟩
    exact ⟨_, hnode, rfl⟩

theorem hasDir_iff {t : Tree} {place : Place} :
    HasDir t.kind? place ↔ ∃ entries mode, t.node? place = some (.dir entries mode) := by
  rw [exists_comm]
  exact exists_congr fun mode => kind?_eq_dir

theorem kind?_eq_file {t : Tree} {place : Place} {bytes : Bytes} {mode : Nat} :
    t.kind? place = some (.file bytes mode) ↔ t.node? place = some (.file bytes mode) := by
  rw [kind?, Option.map_eq_some_iff]
  constructor
  · rintro ⟨node, hnode, hkind⟩
    cases node <;> simp_all [Node.kind]
  · intro hnode
    exact ⟨_, hnode, rfl⟩

theorem hasDir_of_append {t : Tree} {p q : Place} {kind : Kind} (h : t.kind? (p ++ q) = some kind)
    (hq : q ≠ []) : HasDir t.kind? p := by
  obtain ⟨node, hnode, -⟩ := Option.map_eq_some_iff.1 h
  obtain ⟨n, rest, rfl⟩ := List.exists_cons_of_ne_nil hq
  rw [node?, Node.at?_append, Option.bind_eq_some_iff] at hnode
  obtain ⟨parent, hparent, hat⟩ := hnode
  have hthere : t.kind? p = some parent.kind := by rw [kind?, node?, hparent, Option.map_some]
  refine hasDir_of_isDir hthere ?_
  by_contra hdir
  rw [Node.at?_cons_of_not_dir (by simpa using hdir)] at hat
  cases hat

theorem hasDir_dropLast {t : Tree} {place : Place} (h : HasDir t.kind? place) : HasDir t.kind? place.dropLast := by
  by_cases hne : place = []
  · rw [hne] at h ⊢
    exact h
  · obtain ⟨kind, hkind⟩ := h.exists_kind
    rw [← List.dropLast_concat_getLast hne] at hkind
    exact hasDir_of_append hkind (by simp)

theorem hasDir_nil {t : Tree} {place : Place} (h : HasDir t.kind? place) : HasDir t.kind? [] := by
  by_cases hne : place = []
  · exact hne ▸ h
  · obtain ⟨kind, hkind⟩ := h.exists_kind
    exact hasDir_of_append (p := []) hkind hne

end Tree

/-! ## Changed entries -/

namespace Node

theorem onEntries_dir_cons (change : Entries → Entries) (n : Text) (rest : Place) (entries : Entries) (mode : Nat) :
    onEntries change (n :: rest) (.dir entries mode) =
      .dir (entries.map fun e => if e.1 = n then (e.1, onEntries change rest e.2) else e) mode := by
  rw [onEntries]

@[simp] theorem kind_onEntries (change : Entries → Entries) (p : Place) (node : Node) :
    (node.onEntries change p).kind = node.kind := by
  cases node <;> cases p <;> rfl

theorem isDir_of_at?_dir {node : Node} {p : Place} {entries : Entries} {mode : Nat}
    (h : node.at? p = some (.dir entries mode)) : node.kind.isDir = true := by
  cases p with
  | nil =>
    rw [at?_nil, Option.some_inj] at h
    exact isDir_kind.2 ⟨entries, mode, h⟩
  | cons n rest =>
    by_contra hkind
    rw [at?_cons_of_not_dir (by simpa using hkind)] at h
    cases h

/-- Putting what is no directory in the place of what is none changes one place only. -/
theorem kind_at?_put {node new : Node} {p : Place} {entries : Entries} {mode : Nat} {name : Text}
    (h : node.at? p = some (.dir entries mode))
    (hold : ∀ old, entries.get? name = some old → old.kind.isDir = false) (hnew : new.kind.isDir = false) (q : Place) :
    ((node.onEntries (fun es => Entries.put es name new) p).at? q).map kind =
      if q = p ++ [name] then some new.kind else (node.at? q).map kind := by
  induction p generalizing node q with
  | nil =>
    rw [at?_nil, Option.some_inj] at h
    subst h
    cases q with
    | nil => rfl
    | cons n rest =>
      rw [onEntries, at?_dir_cons, at?_dir_cons, Entries.get?_put]
      by_cases hn : n = name
      · subst hn
        cases rest with
        | nil => simp
        | cons m rest =>
          rw [if_pos rfl, if_neg (by simp), Option.bind_some, at?_cons_of_not_dir hnew]
          cases hget : entries.get? n with
          | none => rfl
          | some old => rw [Option.bind_some, at?_cons_of_not_dir (hold old hget)]
      · rw [if_neg hn, if_neg (by simp [hn])]
  | cons m p ih =>
    cases node with
    | file bytes mode => cases h
    | link goal => cases h
    | dir es _ =>
      rw [at?_dir_cons] at h
      cases hchild : Entries.get? es m with
      | none => rw [hchild] at h; cases h
      | some child =>
        rw [hchild, Option.bind_some] at h
        cases q with
        | nil => rfl
        | cons n rest =>
          rw [onEntries_dir_cons, at?_dir_cons, at?_dir_cons, Entries.get?_map_at]
          by_cases hn : n = m
          · subst hn
            rw [if_pos rfl, hchild, Option.map_some, Option.bind_some, Option.bind_some, ih h]
            simp
          · rw [if_neg hn, if_neg (by simp [hn])]

end Node

theorem Tree.kind?_putEntry {t : Tree} {place : Place} {entries : Entries} {mode : Nat} {name : Text} {new : Node}
    (h : t.node? place = some (.dir entries mode))
    (hold : ∀ old, entries.get? name = some old → old.kind.isDir = false) (hnew : new.kind.isDir = false) (q : Place) :
    (t.putEntry place name new).kind? q = if q = place ++ [name] then some new.kind else t.kind? q :=
  Node.kind_at?_put h hold hnew q

/-! ## Proper trees -/

structure IsEntryName (name : Text) : Prop where
  not_idle : Path.isIdle name = false
  not_up : name ≠ ['.', '.']
  no_slash : '/' ∉ name
  no_null : '\x00' ∉ name

instance (name : Text) : Decidable (IsEntryName name) :=
  decidable_of_iff (Path.isIdle name = false ∧ name ≠ ['.', '.'] ∧ '/' ∉ name ∧ '\x00' ∉ name)
    ⟨fun h => ⟨h.1, h.2.1, h.2.2.1, h.2.2.2⟩, fun h => ⟨h.1, h.2, h.3, h.4⟩⟩

/-- Every directory in the node lists a name once, and nothing but names. -/
def Node.IsProper (node : Node) : Prop :=
  ∀ place entries mode, node.at? place = some (.dir entries mode) →
    (Entries.names entries).Nodup ∧ ∀ name ∈ Entries.names entries, IsEntryName name

/-- Every directory of the tree lists a name once, and nothing but names. -/
def Tree.IsProper (t : Tree) : Prop := t.top.IsProper

namespace Node

theorem isProper_of_not_dir {node : Node} (h : node.kind.isDir = false) : node.IsProper := by
  intro place entries mode hat
  cases place with
  | nil =>
    rw [at?_nil, Option.some_inj] at hat
    rw [hat] at h
    cases h
  | cons n rest => rw [at?_cons_of_not_dir h] at hat; cases hat

/-- A directory is proper if its names are and all that stands in it is. -/
theorem isProper_dir {entries : Entries} (mode : Nat) (hd : entries.names.Nodup)
    (hn : ∀ name ∈ entries.names, IsEntryName name) (h : ∀ e ∈ entries, e.2.IsProper) :
    (Node.dir entries mode).IsProper := by
  intro place es m hat
  cases place with
  | nil =>
    rw [at?_nil, Option.some_inj] at hat
    cases hat
    exact ⟨hd, hn⟩
  | cons n rest =>
    rw [at?_dir_cons, Option.bind_eq_some_iff] at hat
    obtain ⟨child, hget, hat⟩ := hat
    exact h _ (Entries.mem_of_get? hget) rest es m hat

theorem IsProper.at? {node : Node} (h : node.IsProper) {p : Place} {below : Node}
    (hat : node.at? p = some below) : below.IsProper := by
  intro place entries mode hplace
  refine h (p ++ place) entries mode ?_
  rw [at?_append, hat, Option.bind_some, hplace]

theorem IsProper.child {entries : Entries} {mode : Nat} (h : (Node.dir entries mode).IsProper) {n : Text}
    {child : Node} (hget : entries.get? n = some child) : child.IsProper :=
  h.at? (p := [n]) (by rw [at?_dir_cons, hget, Option.bind_some, at?_nil])

theorem IsProper.isEntryName {node : Node} (h : node.IsProper) {place : Place} {found : Node}
    (hat : node.at? place = some found) {name : Text} (hm : name ∈ place) : IsEntryName name := by
  induction place generalizing node with
  | nil => cases hm
  | cons n rest ih =>
    cases node with
    | file bytes mode => cases hat
    | link goal => cases hat
    | dir entries mode =>
      rw [at?_dir_cons, Option.bind_eq_some_iff] at hat
      obtain ⟨child, hget, hat⟩ := hat
      rcases List.mem_cons.1 hm with rfl | hm
      · exact (h [] entries mode (at?_nil _)).2 _ (Entries.mem_names_of_get? hget)
      · exact ih (h.child hget) hat hm

theorem onEntries_onEntries (f g : Entries → Entries) (p : Place) (node : Node) :
    (node.onEntries g p).onEntries f p = node.onEntries (fun es => f (g es)) p := by
  induction p generalizing node with
  | nil => cases node <;> rfl
  | cons n rest ih =>
    cases node with
    | file bytes mode => rfl
    | link goal => rfl
    | dir entries mode =>
      rw [onEntries_dir_cons, onEntries_dir_cons, onEntries_dir_cons, List.map_map]
      congr 1
      refine List.map_congr_left fun e _ => ?_
      by_cases he : e.1 = n
      · simp [he, ih]
      · simp [he]

/-- A change that changes nothing where it is made changes nothing. -/
theorem onEntries_eq_self {node : Node} (hp : node.IsProper) {change : Entries → Entries} {p : Place}
    {entries : Entries} {mode : Nat} (h : node.at? p = some (.dir entries mode)) (hchange : change entries = entries) :
    node.onEntries change p = node := by
  induction p generalizing node with
  | nil =>
    rw [at?_nil, Option.some_inj] at h
    subst h
    rw [onEntries, hchange]
  | cons n rest ih =>
    cases node with
    | file bytes mode => rfl
    | link goal => rfl
    | dir es m =>
      rw [at?_dir_cons, Option.bind_eq_some_iff] at h
      obtain ⟨child, hget, hat⟩ := h
      have hnames := (hp [] es m (at?_nil _)).1
      have hsame : ∀ e ∈ es, (if e.1 = n then (e.1, onEntries change rest e.2) else e) = id e := by
        intro e he
        split
        · rename_i hn
          have hchild : Entries.get? es n = some e.2 := Entries.get?_of_mem hnames (hn ▸ he)
          rw [hchild, Option.some_inj] at hget
          rw [hget, ih (hp.child (hchild.trans (congrArg some hget))) hat, ← hget]
          rfl
        · rfl
      rw [onEntries_dir_cons, List.map_congr_left hsame, List.map_id]

/-- Where a file takes the place of what is no directory, every directory is as it was, but for those that
lead to the place. -/
theorem at?_put_cases {node : Node} (new : Node) {p : Place} {entries : Entries} {mode : Nat} {name : Text}
    (h : node.at? p = some (.dir entries mode))
    (hold : ∀ old, entries.get? name = some old → old.kind.isDir = false)
    {q : Place} {listed : Entries} {m : Nat} (hq : node.at? q = some (.dir listed m)) :
    (∃ rest, p = q ++ rest ∧ (node.onEntries (fun es => Entries.put es name new) p).at? q =
      some ((Node.dir listed m).onEntries (fun es => Entries.put es name new) rest)) ∨
    (node.onEntries (fun es => Entries.put es name new) p).at? q = some (.dir listed m) := by
  induction p generalizing node q with
  | nil =>
    rw [at?_nil, Option.some_inj] at h
    subst h
    cases q with
    | nil =>
      rw [at?_nil, Option.some_inj] at hq
      cases hq
      exact .inl ⟨[], rfl, by rw [at?_nil]⟩
    | cons n rest =>
      right
      rw [at?_dir_cons, Option.bind_eq_some_iff] at hq
      obtain ⟨child, hchild, hat⟩ := hq
      rw [onEntries, at?_dir_cons, Entries.get?_put]
      by_cases hn : n = name
      · subst hn
        cases rest with
        | nil =>
          rw [at?_nil, Option.some_inj] at hat
          have hdir := hold child hchild
          rw [hat] at hdir
          cases hdir
        | cons m rest => rw [at?_cons_of_not_dir (hold child hchild)] at hat; cases hat
      · rw [if_neg hn, hchild, Option.bind_some, hat]
  | cons k p ih =>
    cases node with
    | file bytes mode => cases h
    | link goal => cases h
    | dir es _ =>
      rw [at?_dir_cons, Option.bind_eq_some_iff] at h
      obtain ⟨below, hbelow, hat⟩ := h
      cases q with
      | nil =>
        rw [at?_nil, Option.some_inj] at hq
        cases hq
        exact .inl ⟨k :: p, rfl, by rw [at?_nil]⟩
      | cons n rest =>
        rw [at?_dir_cons, Option.bind_eq_some_iff] at hq
        obtain ⟨child, hchild, hq⟩ := hq
        rw [onEntries_dir_cons, at?_dir_cons, Entries.get?_map_at]
        by_cases hn : n = k
        · subst hn
          rw [hbelow] at hchild
          cases hchild
          rw [if_pos rfl, hbelow, Option.map_some, Option.bind_some]
          obtain ⟨left, hp, hat'⟩ | hat' := ih hat hq
          · exact .inl ⟨left, by rw [hp, List.cons_append], hat'⟩
          · exact .inr hat'
        · rw [if_neg hn, hchild, Option.bind_some]
          exact .inr hq

/-- A directory that leads to such a place lists the names it listed. -/
theorem names_onEntries_put {listed entries : Entries} {m mode : Nat} {name : Text} {old : Node} (new : Node)
    {rest : Place} (h : (Node.dir listed m).at? rest = some (.dir entries mode)) (hget : entries.get? name = some old) :
    ∃ listed', (Node.dir listed m).onEntries (fun es => Entries.put es name new) rest = .dir listed' m ∧
      Entries.names listed' = Entries.names listed := by
  cases rest with
  | nil =>
    rw [at?_nil, Option.some_inj] at h
    cases h
    exact ⟨_, rfl, Entries.names_put_of_mem (Entries.mem_names_of_get? hget) new⟩
  | cons k rest =>
    rw [onEntries_dir_cons]
    refine ⟨_, rfl, ?_⟩
    rw [Entries.names, List.map_map]
    refine List.map_congr_left fun e _ => ?_
    show (if e.1 = k then _ else e).1 = e.1
    split <;> rfl

/-- What holds of a directory if it holds of all that stands in it, holds of every node. -/
theorem induct {motive : Node → Prop} (file : ∀ bytes mode, motive (.file bytes mode))
    (link : ∀ goal, motive (.link goal))
    (dir : ∀ (entries : Entries) mode, (∀ e ∈ entries, motive e.2) → motive (.dir entries mode)) :
    ∀ node, motive node
  | .file bytes mode => file bytes mode
  | .link goal => link goal
  | .dir entries mode => dir entries mode fun e _he => induct file link dir e.2
termination_by node => sizeOf node
decreasing_by
  obtain ⟨name, child⟩ := e
  have hsize := List.sizeOf_lt_of_mem _he
  simp only [Prod.mk.sizeOf_spec, Node.dir.sizeOf_spec] at hsize ⊢
  omega

end Node

namespace Tree

theorem putEntry_putEntry (t : Tree) (place : Place) (name : Text) (a b : Node) :
    (t.putEntry place name a).putEntry place name b = t.putEntry place name b := by
  rw [putEntry, putEntry, Node.onEntries_onEntries]
  simp only [Entries.put_put]
  rfl

/-- An entry put under a new name and taken away again leaves no trace. -/
theorem eraseEntry_putEntry {t : Tree} (ht : t.IsProper) {place : Place} {entries : Entries}
    {mode : Nat} (h : t.node? place = some (.dir entries mode)) {name : Text} (hname : name ∉ entries.names)
    (node : Node) :
    (t.putEntry place name node).eraseEntry place name = t := by
  rw [eraseEntry, putEntry, Node.onEntries_onEntries, Node.onEntries_eq_self ht h (Entries.erase_put hname node)]

theorem IsProper.isEntryName {t : Tree} (ht : t.IsProper) {place : Place} {kind : Kind}
    (h : t.kind? place = some kind) {name : Text} (hm : name ∈ place) : IsEntryName name := by
  obtain ⟨node, hnode, -⟩ := Option.map_eq_some_iff.1 h
  exact Node.IsProper.isEntryName ht hnode hm

end Tree

end SdkGraft
