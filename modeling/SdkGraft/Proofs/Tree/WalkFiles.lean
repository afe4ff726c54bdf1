import SdkGraft.Proofs.Tree.Entries
import SdkGraft.Tree.Walk

/-!
# What a walk finds

* `mem_sortByName`, `pairwise_sortByName` : sorting loses nothing, and different names come in their order;
* `Node.foundAt`, `Node.filesBelow_dir` : what is found behind the entries of a directory, one by one;
* `Node.IsListed`, `Node.mem_filesBelow_iff` : the places that are found, all of them and no others;
* `Before` : the order of a walk; `Node.pairwise_filesBelow` : the places are found in it, so each once;
* `eq_of_pairwise_before` : only one list has the same places in this order.
-/

namespace SdkGraft

/-! ## Sorting -/

section
variable {α : Type} {e f : Text × α} {l : List (Text × α)}

theorem mem_insertByName : f ∈ insertByName e l ↔ f = e ∨ f ∈ l := by
  induction l with
  | nil => simp [insertByName]
  | cons g rest ih =>
    rw [insertByName]
    split
    · rw [List.mem_cons, ih, List.mem_cons]
      exact or_left_comm
    · rw [List.mem_cons]

theorem mem_sortByName : f ∈ sortByName l ↔ f ∈ l := by
  induction l with
  | nil => rfl
  | cons e rest ih => rw [sortByName, mem_insertByName, ih, List.mem_cons]

theorem pairwise_insertByName (hl : l.Pairwise fun f g => f.1 < g.1) (he : ∀ f ∈ l, f.1 ≠ e.1) :
    (insertByName e l).Pairwise fun f g => f.1 < g.1 := by
  induction l with
  | nil => exact List.pairwise_singleton _ _
  | cons f rest ih =>
    obtain ⟨hf, hrest⟩ := List.pairwise_cons.1 hl
    rw [insertByName]
    split
    · rename_i hlt
      refine List.pairwise_cons.2 ⟨fun g hg => ?_, ih hrest fun g hg => he g (List.mem_cons_of_mem _ hg)⟩
      rcases mem_insertByName.1 hg with rfl | hg
      · exact hlt
      · exact hf g hg
    · rename_i hnot
      have hlt : e.1 < f.1 := Decidable.byContradiction fun hnot' =>
        he f List.mem_cons_self (List.le_antisymm (List.not_lt.1 hnot') (List.not_lt.1 hnot))
      refine List.pairwise_cons.2 ⟨fun g hg => ?_, hl⟩
      rcases List.mem_cons.1 hg with rfl | hg
      · exact hlt
      · exact List.lt_trans hlt (hf g hg)

theorem pairwise_sortByName (hd : (l.map Prod.fst).Nodup) :
    (sortByName l).Pairwise fun f g => f.1 < g.1 := by
  induction l with
  | nil => exact List.Pairwise.nil
  | cons e rest ih =>
    rw [List.map_cons, List.nodup_cons] at hd
    refine pairwise_insertByName (ih hd.2) fun f hf hname => hd.1 ?_
    exact hname ▸ List.mem_map_of_mem (mem_sortByName.1 hf)

end

/-! ## The order of a walk -/

/-- The order of a walk on places below one directory: its own files by their names, then what is below its
directories, by the names of these. -/
inductive Before : Place → Place → Prop where
  | own {a b : Text} (h : a < b) : Before [a] [b]
  | ownFirst (a b : Text) {rest : Place} (hrest : rest ≠ []) : Before [a] (b :: rest)
  | among {a b : Text} {left right : Place} (h : a < b) (hleft : left ≠ []) (hright : right ≠ []) :
      Before (a :: left) (b :: right)
  | within (a : Text) {left right : Place} (h : Before left right) : Before (a :: left) (a :: right)

namespace Before

variable {a b : Place}

theorem append (p : Place) (h : Before a b) : Before (p ++ a) (p ++ b) := by
  induction p with
  | nil => exact h
  | cons n rest ih => exact .within n ih

theorem irrefl (a : Place) : ¬ Before a a := by
  intro h
  induction a with
  | nil => cases h
  | cons n rest ih =>
    cases h with
    | own h => exact List.lt_irrefl n h
    | ownFirst _ _ hrest => exact hrest rfl
    | among h => exact List.lt_irrefl n h
    | within _ h => exact ih h

theorem asymm (h : Before a b) : ¬ Before b a := by
  induction h with
  | own h =>
    intro h'
    cases h' with
    | own h' => exact List.lt_asymm h h'
    | ownFirst _ _ hrest => exact hrest rfl
    | among _ hleft => exact hleft rfl
    | within _ h' => cases h'
  | ownFirst a b hrest =>
    intro h'
    cases h' with
    | own h' => exact hrest rfl
    | ownFirst _ _ hnil => exact hnil rfl
    | among _ _ hright => exact hright rfl
    | within _ h' => cases h'
  | among h hleft hright =>
    intro h'
    cases h' with
    | own => exact hleft rfl
    | ownFirst => exact hright rfl
    | among h' => exact List.lt_asymm h h'
    | within => exact List.lt_irrefl _ h
  | within a h ih =>
    intro h'
    cases h' with
    | own h' => exact List.lt_irrefl a h'
    | ownFirst => cases h
    | among h' => exact List.lt_irrefl a h'
    | within _ h' => exact ih h'

end Before

/-- Only one list has these places in the order of a walk. -/
theorem eq_of_pairwise_before {xs ys : List Place} (hx : xs.Pairwise Before) (hy : ys.Pairwise Before)
    (h : ∀ place, place ∈ xs ↔ place ∈ ys) : xs = ys := by
  have hnodup : ∀ {l : List Place}, l.Pairwise Before → l.Nodup := fun hl =>
    hl.imp fun {a b} hbefore (heq : a = b) => Before.irrefl b (by rwa [heq] at hbefore)
  exact List.Perm.eq_of_pairwise (fun _ _ _ _ hab hba => absurd hba hab.asymm) hx hy
    ((List.perm_ext_iff_of_nodup (hnodup hx) (hnodup hy)).2 h)

namespace Found

variable {place : Place}

theorem eq_of_mem_own {f : Text × Found} {x : Place} (h : x ∈ own place f) : x = place ++ [f.1] := by
  unfold own at h
  split at h
  · exact List.mem_singleton.1 h
  · cases h

/-- Where every directory has its places in order, and below its own name, so has the one around them. -/
theorem pairwise_files {found : List (Text × Found)} (hd : (found.map Prod.fst).Nodup)
    (hbelow : ∀ f ∈ found, ∀ x ∈ deeper f, ∃ rest, rest ≠ [] ∧ x = place ++ f.1 :: rest)
    (hdeeper : ∀ f ∈ found, (deeper f).Pairwise Before) : (files place found).Pairwise Before := by
  have hsorted := pairwise_sortByName hd
  rw [files, List.pairwise_append, List.pairwise_flatMap, List.pairwise_flatMap]
  refine ⟨⟨fun f hf => ?_, hsorted.imp fun hlt x hx y hy => ?_⟩,
    ⟨fun f hf => hdeeper f (mem_sortByName.1 hf), hsorted.imp_of_mem fun hf hg hlt x hx y hy => ?_⟩,
    fun x hx y hy => ?_⟩
  · unfold own
    split
    · exact List.pairwise_singleton _ _
    · exact List.Pairwise.nil
  · rw [eq_of_mem_own hx, eq_of_mem_own hy]
    exact .append place (.own hlt)
  · obtain ⟨left, hleft, rfl⟩ := hbelow _ (mem_sortByName.1 hf) x hx
    obtain ⟨right, hright, rfl⟩ := hbelow _ (mem_sortByName.1 hg) y hy
    exact .append place (.among hlt hleft hright)
  · obtain ⟨f, -, hx⟩ := List.mem_flatMap.1 hx
    obtain ⟨g, hg, hy⟩ := List.mem_flatMap.1 hy
    obtain ⟨rest, hrest, rfl⟩ := hbelow g (mem_sortByName.1 hg) y hy
    rw [eq_of_mem_own hx]
    exact .append place (.ownFirst _ _ hrest)

end Found

namespace Node

variable {leadsToDirectory leftOut : Place → Bool}

/-! ## Entry by entry -/

/-- What a walk finds behind an entry of the directory at `place`. -/
def foundAt (leadsToDirectory leftOut : Place → Bool) (place : Place) (e : Text × Node) : Found :=
  match e.2 with
  | .file _ _ => .file
  | .link _ => if leadsToDirectory (place ++ [e.1]) then .passed else .file
  | .dir _ _ =>
    if leftOut (place ++ [e.1]) then .passed
    else .below (filesBelow leadsToDirectory leftOut (place ++ [e.1]) e.2)

theorem found_eq_map (place : Place) (entries : Entries) :
    filesBelow.found leadsToDirectory leftOut place entries =
      entries.map fun e => (e.1, foundAt leadsToDirectory leftOut place e) := by
  induction entries with
  | nil => rw [filesBelow.found, List.map_nil]
  | cons e rest ih =>
    obtain ⟨name, node⟩ := e
    unfold filesBelow.found
    rw [ih, List.map_cons]
    cases node <;> rfl

theorem filesBelow_dir (place : Place) (entries : Entries) (mode : Nat) :
    filesBelow leadsToDirectory leftOut place (.dir entries mode) =
      Found.files place (entries.map fun e => (e.1, foundAt leadsToDirectory leftOut place e)) := by
  rw [filesBelow, found_eq_map]

theorem filesBelow_of_not_dir {node : Node} (h : node.kind.isDir = false) (place : Place) :
    filesBelow leadsToDirectory leftOut place node = [] := by
  unfold filesBelow
  cases node with
  | file bytes mode => rfl
  | link goal => rfl
  | dir entries mode => cases h

/-- What a walk counts as a file: a file, or a link that leads to no directory. -/
theorem foundAt_eq_file_iff {place : Place} {e : Text × Node} :
    foundAt leadsToDirectory leftOut place e = .file ↔
      e.2.kind.isDir = false ∧ ∀ goal, e.2 = .link goal → leadsToDirectory (place ++ [e.1]) = false := by
  rw [foundAt]
  cases e.2 with
  | file bytes mode => simp [kind]
  | link goal => cases leadsToDirectory (place ++ [e.1]) <;> simp [kind]
  | dir entries mode => cases leftOut (place ++ [e.1]) <;> simp [kind]

theorem foundAt_eq_below_iff {place : Place} {e : Text × Node} {files : List Place} :
    foundAt leadsToDirectory leftOut place e = .below files ↔
      e.2.kind.isDir = true ∧ leftOut (place ++ [e.1]) = false ∧
        files = filesBelow leadsToDirectory leftOut (place ++ [e.1]) e.2 := by
  rw [foundAt]
  cases e.2 with
  | file bytes mode => simp [kind]
  | link goal => cases leadsToDirectory (place ++ [e.1]) <;> simp [kind]
  | dir entries mode => cases leftOut (place ++ [e.1]) <;> simp [kind, eq_comm]

theorem mem_own_foundAt {place found : Place} {e : Text × Node} :
    found ∈ Found.own place (e.1, foundAt leadsToDirectory leftOut place e) ↔
      found = place ++ [e.1] ∧ e.2.kind.isDir = false ∧
        ∀ goal, e.2 = .link goal → leadsToDirectory (place ++ [e.1]) = false := by
  rw [← foundAt_eq_file_iff]
  cases foundAt leadsToDirectory leftOut place e <;> simp [Found.own]

theorem mem_deeper_foundAt {place found : Place} {e : Text × Node} :
    found ∈ Found.deeper (e.1, foundAt leadsToDirectory leftOut place e) ↔
      leftOut (place ++ [e.1]) = false ∧
        found ∈ filesBelow leadsToDirectory leftOut (place ++ [e.1]) e.2 := by
  constructor
  · intro h
    unfold Found.deeper at h
    split at h
    · rename_i files hbelow
      obtain ⟨-, hout, rfl⟩ := foundAt_eq_below_iff.1 (Prod.mk.inj hbelow).2
      exact ⟨hout, h⟩
    · cases h
  · rintro ⟨hout, h⟩
    by_cases hkind : e.2.kind.isDir = true
    · rw [foundAt_eq_below_iff.2 ⟨hkind, hout, rfl⟩]
      exact h
    · rw [filesBelow_of_not_dir (by simpa using hkind)] at h
      cases h

/-- The places in a directory: its own files, and what is found behind its directories. -/
theorem mem_filesBelow_dir {place found : Place} {entries : Entries} {mode : Nat} :
    found ∈ filesBelow leadsToDirectory leftOut place (.dir entries mode) ↔
      (∃ e ∈ entries, found = place ++ [e.1] ∧ e.2.kind.isDir = false ∧
        ∀ goal, e.2 = .link goal → leadsToDirectory (place ++ [e.1]) = false) ∨
      ∃ e ∈ entries, leftOut (place ++ [e.1]) = false ∧
        found ∈ filesBelow leadsToDirectory leftOut (place ++ [e.1]) e.2 := by
  rw [filesBelow_dir, Found.files, List.mem_append, List.mem_flatMap, List.mem_flatMap]
  simp only [mem_sortByName, List.mem_map, exists_exists_and_eq_and, mem_own_foundAt, mem_deeper_foundAt]

/-! ## All places -/

/-- What stands at `rest` below a node at `place` is a file, or a link that leads to no directory, and no
directory on the way is left out. -/
structure IsListed (leadsToDirectory leftOut : Place → Bool) (place : Place) (node : Node) (rest : Place) :
    Prop where
  ne_nil : rest ≠ []
  is_file : ∃ below, node.at? rest = some below ∧ below.kind.isDir = false ∧
    ∀ goal, below = .link goal → leadsToDirectory (place ++ rest) = false
  kept : ∀ above left, rest = above ++ left → above ≠ [] → left ≠ [] → leftOut (place ++ above) = false

theorem isListed_singleton {place : Place} {entries : Entries} {mode : Nat} {n : Text} :
    IsListed leadsToDirectory leftOut place (.dir entries mode) [n] ↔
      ∃ child, entries.get? n = some child ∧ child.kind.isDir = false ∧
        ∀ goal, child = .link goal → leadsToDirectory (place ++ [n]) = false := by
  have hat : (Node.dir entries mode).at? [n] = entries.get? n := by
    rw [at?_dir_cons]
    cases Entries.get? entries n <;> simp
  constructor
  · intro h
    obtain ⟨child, hchild, hfile⟩ := h.is_file
    exact ⟨child, hat ▸ hchild, hfile⟩
  · rintro ⟨child, hchild, hfile⟩
    refine ⟨by simp, ⟨child, hat.trans hchild, hfile⟩, fun above left hrest habove hleft => ?_⟩
    obtain ⟨m, above, rfl⟩ := List.exists_cons_of_ne_nil habove
    obtain ⟨-, hnil⟩ := List.cons.inj hrest
    exact absurd (List.append_eq_nil_iff.1 hnil.symm).2 hleft

theorem isListed_cons {place : Place} {entries : Entries} {mode : Nat} {n : Text} {rest : Place} (hrest : rest ≠ []) :
    IsListed leadsToDirectory leftOut place (.dir entries mode) (n :: rest) ↔
      ∃ child, entries.get? n = some child ∧ leftOut (place ++ [n]) = false ∧
        IsListed leadsToDirectory leftOut (place ++ [n]) child rest := by
  have hplace : ∀ p, place ++ [n] ++ p = place ++ n :: p := fun p => by simp
  constructor
  · intro h
    obtain ⟨below, hat, hfile⟩ := h.is_file
    rw [at?_dir_cons, Option.bind_eq_some_iff] at hat
    obtain ⟨child, hget, hat⟩ := hat
    refine ⟨child, hget, h.kept [n] rest rfl (by simp) hrest, hrest, ⟨below, hat, ?_⟩, ?_⟩
    · rw [hplace]
      exact hfile
    · intro above left hsplit _ hleft
      rw [hplace]
      exact h.kept (n :: above) left (by rw [hsplit, List.cons_append]) (by simp) hleft
  · rintro ⟨child, hget, hout, h⟩
    obtain ⟨below, hat, hfile⟩ := h.is_file
    rw [hplace] at hfile
    refine ⟨by simp, ⟨below, ?_, hfile⟩, fun above left hsplit habove hleft => ?_⟩
    · rw [at?_dir_cons, hget, Option.bind_some, hat]
    obtain ⟨m, above, rfl⟩ := List.exists_cons_of_ne_nil habove
    obtain ⟨rfl, hrest'⟩ := List.cons.inj hsplit
    rcases eq_or_ne above [] with rfl | habove
    · exact hout
    · rw [← hplace]
      exact h.kept above left hrest' habove hleft

/-- A walk finds every place that is listed, and no other. -/
theorem mem_filesBelow_iff {node : Node} (hp : node.IsProper) {place found : Place} :
    found ∈ filesBelow leadsToDirectory leftOut place node ↔
      ∃ rest, found = place ++ rest ∧ IsListed leadsToDirectory leftOut place node rest := by
  have hnone : ∀ {node : Node}, node.kind.isDir = false → ∀ {place found : Place},
      (found ∈ filesBelow leadsToDirectory leftOut place node ↔
        ∃ rest, found = place ++ rest ∧ IsListed leadsToDirectory leftOut place node rest) := by
    intro node hkind place found
    rw [filesBelow_of_not_dir hkind]
    constructor
    · intro h
      cases h
    rintro ⟨rest, -, h⟩
    obtain ⟨n, rest, rfl⟩ := List.exists_cons_of_ne_nil h.ne_nil
    obtain ⟨below, hat, -⟩ := h.is_file
    rw [at?_cons_of_not_dir hkind] at hat
    cases hat
  induction node using Node.induct generalizing place found with
  | file bytes mode => exact hnone (by simp [kind])
  | link goal => exact hnone (by simp [kind])
  | dir entries mode ih =>
    have hget : ∀ e ∈ entries, Entries.get? entries e.1 = some e.2 := fun e he =>
      Entries.get?_of_mem (hp [] entries mode (at?_nil _)).1 he
    rw [mem_filesBelow_dir]
    constructor
    · rintro (⟨e, he, rfl, hfile⟩ | ⟨e, he, hout, hbelow⟩)
      · exact ⟨[e.1], rfl, isListed_singleton.2 ⟨e.2, hget e he, hfile⟩⟩
      · obtain ⟨rest, rfl, hlisted⟩ := (ih e he (hp.child (hget e he))).1 hbelow
        refine ⟨e.1 :: rest, by simp, (isListed_cons hlisted.ne_nil).2 ⟨e.2, hget e he, hout, hlisted⟩⟩
    · rintro ⟨rest, rfl, hlisted⟩
      obtain ⟨n, rest, rfl⟩ := List.exists_cons_of_ne_nil hlisted.ne_nil
      rcases eq_or_ne rest [] with rfl | hrest
      · obtain ⟨child, hchild, hfile⟩ := isListed_singleton.1 hlisted
        exact .inl ⟨(n, child), Entries.mem_of_get? hchild, rfl, hfile⟩
      · obtain ⟨child, hchild, hout, hlisted⟩ := (isListed_cons hrest).1 hlisted
        have hm := Entries.mem_of_get? hchild
        refine .inr ⟨(n, child), hm, hout, (ih _ hm (hp.child hchild)).2 ⟨rest, by simp, hlisted⟩⟩

theorem at?_of_mem_filesBelow {node : Node} (hp : node.IsProper) {place found : Place}
    (h : found ∈ filesBelow leadsToDirectory leftOut place node) :
    ∃ names name below, found = place ++ (names ++ [name]) ∧ node.at? (names ++ [name]) = some below := by
  obtain ⟨rest, rfl, hlisted⟩ := (mem_filesBelow_iff hp).1 h
  obtain ⟨below, hat, -⟩ := hlisted.is_file
  have hrest := List.dropLast_concat_getLast hlisted.ne_nil
  exact ⟨_, _, below, by rw [hrest], by rw [hrest]; exact hat⟩

theorem exists_of_mem_filesBelow {node : Node} (hp : node.IsProper) {place found : Place} {n : Text}
    (h : found ∈ filesBelow leadsToDirectory leftOut (place ++ [n]) node) :
    ∃ rest, rest ≠ [] ∧ found = place ++ n :: rest := by
  obtain ⟨rest, rfl, hlisted⟩ := (mem_filesBelow_iff hp).1 h
  exact ⟨rest, hlisted.ne_nil, by simp⟩

theorem pairwise_filesBelow {node : Node} (hp : node.IsProper) (place : Place) :
    (filesBelow leadsToDirectory leftOut place node).Pairwise Before := by
  induction node using Node.induct generalizing place with
  | file bytes mode =>
    rw [filesBelow_of_not_dir (by simp [kind])]
    exact List.Pairwise.nil
  | link goal =>
    rw [filesBelow_of_not_dir (by simp [kind])]
    exact List.Pairwise.nil
  | dir entries mode ih =>
    obtain ⟨hnames, -⟩ := hp [] entries mode (at?_nil _)
    have hchild : ∀ e ∈ entries, e.2.IsProper := fun e he => hp.child (Entries.get?_of_mem hnames he)
    rw [filesBelow_dir]
    refine Found.pairwise_files (by rwa [List.map_map]) (fun f hf x hx => ?_) fun f hf => ?_
    · obtain ⟨e, he, rfl⟩ := List.mem_map.1 hf
      exact exists_of_mem_filesBelow (hchild e he) (mem_deeper_foundAt.1 hx).2
    · obtain ⟨e, he, rfl⟩ := List.mem_map.1 hf
      unfold Found.deeper
      split
      · rename_i files hbelow
        obtain ⟨-, -, rfl⟩ := foundAt_eq_below_iff.1 (Prod.mk.inj hbelow).2
        exact ih e he (hchild e he) _
      · exact List.Pairwise.nil

end Node

end SdkGraft
