import SdkGraft.Proofs.Tree.Route

/-!
# Routes past a changed place

* `Kinds.put` : one place with something else on it;
* `Leads.put_of_deadEnd` : what takes the place of an entry that leads to no directory is in the way of none;
* `Displaced` : a file in the place of a file, or of a link to one;
* `Displaced.forward`, `Displaced.backward` : routes stay as they are, but for those to the old file,
  which may end at the new one;
* `Tree.Rewritten` : two trees that differ by such a file, and what paths lead to in them.
-/

namespace SdkGraft

def Kinds.put (kinds : Kinds) (spot : Place) (kind : Kind) : Kinds :=
  fun place => if place = spot then some kind else kinds place

theorem Kinds.put_self (kinds : Kinds) (spot : Place) (kind : Kind) : kinds.put spot kind spot = some kind :=
  if_pos rfl

theorem Kinds.put_of_ne {spot place : Place} (h : place ≠ spot) (kinds : Kinds) (kind : Kind) :
    kinds.put spot kind place = kinds place := if_neg h

/-- Only at the place, and on the way to it, a part can come to something else. -/
theorem turn_put_of_ne {kinds : Kinds} {spot place : Place} {part : Text} (hplace : place ≠ spot)
    (hbelow : place ++ [part] ≠ spot) (kind : Kind) : turn (kinds.put spot kind) place part = turn kinds place part :=
  turn_congr (Kinds.put_of_ne hplace _ _) (Kinds.put_of_ne hbelow _ _)

theorem ne_of_hasDir {kinds : Kinds} {spot place : Place} (hspot : ¬ HasDir kinds spot) (hplace : HasDir kinds place) :
    place ≠ spot := by
  rintro rfl
  exact hspot hplace

/-- Where an entry leads to no directory, what is put in its place is in the way of no route to one. -/
theorem Leads.put_of_deadEnd {kinds : Kinds} {place : Place} {name : Text} (hdir : HasOpenDir kinds place)
    (hname : IsStep name) (hdead : ∀ n goal, Leads kinds n place [name] goal → ¬ HasDir kinds goal) (kind : Kind)
    {n : Nat} {start goal : Place} {parts : List Text} (h : Leads kinds n start parts goal) (hgoal : HasDir kinds goal) :
    Leads (kinds.put (place ++ [name]) kind) n start parts goal := by
  have hspot : ¬ HasDir kinds (place ++ [name]) := by
    rintro ⟨mode, hp⟩
    exact hdead 0 _ (.down hdir hname hp (by simp) (.done _)) ⟨mode, hp⟩
  -- Whoever passes the place goes on to the goal, which is a directory.
  have hne : ∀ {n : Nat} {p : Place} {part : Text} {rest : List Text} {goal : Place}, HasDir kinds goal →
      Leads kinds n p (part :: rest) goal → p ++ [part] ≠ place ++ [name] := by
    intro n p part rest goal hgoal hleads hpass
    obtain ⟨rfl, hpart⟩ := List.append_inj' hpass rfl
    cases hpart
    obtain ⟨j, k, middle, -, hj, hk⟩ := (show Leads kinds n p ([name] ++ rest) goal from hleads).split
    exact hdead j middle hj (hk.dir_start hgoal)
  induction h with
  | done place => exact .done place
  | go hturn hrest ih =>
    have hleads := Leads.go hturn hrest
    exact .go ((turn_put_of_ne (ne_of_hasDir hspot hleads.dir_of_cons) (hne hgoal hleads) kind).trans hturn) (ih hgoal)
  | follow hturn hrest ih =>
    have hleads := Leads.follow hturn hrest
    exact .follow ((turn_put_of_ne (ne_of_hasDir hspot hleads.dir_of_cons) (hne hgoal hleads) kind).trans hturn)
      (ih hgoal)

/-- A file or a link that leads to one, `old`, stands under `name` in a directory. -/
structure Displaced (kinds : Kinds) (place : Place) (name : Text) (old : Place) : Prop where
  dir : HasOpenDir kinds place
  step : IsStep name
  leads : ∃ n, Leads kinds n place [name] old
  file : ∃ bytes mode, kinds old = some (.file bytes mode)

namespace Displaced

variable {kinds : Kinds} {spot old : Place} {name : Text}

theorem old_not_dir (h : Displaced kinds spot name old) : ¬ HasDir kinds old := by
  obtain ⟨bytes, mode, hfile⟩ := h.file
  exact not_hasDir_of_file hfile

theorem spot_not_dir (h : Displaced kinds spot name old) : ¬ HasDir kinds (spot ++ [name]) := by
  rintro ⟨mode, hdir⟩
  obtain ⟨n, hleads⟩ := h.leads
  have hspot : Leads kinds 0 spot [name] (spot ++ [name]) := .down h.dir h.step hdir (by simp) (.done _)
  refine h.old_not_dir ⟨mode, ?_⟩
  rw [(hleads.unique hspot).2, hdir]

/-- Whoever passes the place gets to the old file and no further. -/
theorem end_of_pass (h : Displaced kinds spot name old) {n : Nat} {rest : List Text} {goal : Place}
    (hleads : Leads kinds n spot (name :: rest) goal) : rest = [] ∧ goal = old := by
  obtain ⟨m, hm⟩ := h.leads
  obtain ⟨j, k, middle, -, hj, hk⟩ := (show Leads kinds n spot ([name] ++ rest) goal from hleads).split
  rw [(hj.unique hm).2] at hk
  cases rest with
  | nil => exact ⟨rfl, hk.eq_of_nil.2⟩
  | cons part rest => exact absurd hk.dir_of_cons h.old_not_dir

theorem exists_kind (h : Displaced kinds spot name old) : ∃ kind, kinds (spot ++ [name]) = some kind := by
  obtain ⟨n, hleads⟩ := h.leads
  obtain ⟨-, -, ⟨kind, hkind, -⟩ | ⟨aim, -, hkind, -⟩⟩ := hleads.cases_of_step h.step.not_idle h.step.not_up
  · exact ⟨kind, hkind⟩
  · exact ⟨_, hkind⟩

/-- Where no link stands, the old file is the one in the place itself, one step from the directory. -/
theorem eq_of_not_link (h : Displaced kinds spot name old)
    (hlink : ∀ aim, kinds (spot ++ [name]) ≠ some (.link aim)) {n : Nat}
    (hleads : Leads kinds n spot [name] old) : n = 0 ∧ old = spot ++ [name] := by
  obtain ⟨-, -, ⟨_, -, -, hdone⟩ | ⟨aim, _, hkind, -⟩⟩ := hleads.cases_of_step h.step.not_idle h.step.not_up
  · exact hdone.eq_of_nil
  · exact absurd hkind (hlink aim)

theorem put_of_dir (h : Displaced kinds spot name old) {p : Place} (hp : HasDir kinds p) (kind : Kind) :
    kinds.put (spot ++ [name]) kind p = kinds p :=
  Kinds.put_of_ne (ne_of_hasDir h.spot_not_dir hp) _ _

/-- With a new file in the place, routes are as they were, or end at the new file instead of the old. -/
theorem forward (h : Displaced kinds spot name old) (bytes : Bytes) (mode : Nat) {n : Nat}
    {place goal : Place} {parts : List Text} (hleads : Leads kinds n place parts goal) :
    Leads (kinds.put (spot ++ [name]) (.file bytes mode)) n place parts goal ∨
      goal = old ∧
        ∃ m ≤ n, Leads (kinds.put (spot ++ [name]) (.file bytes mode)) m place parts (spot ++ [name]) := by
  have hopen : HasOpenDir (kinds.put (spot ++ [name]) (.file bytes mode)) spot := by
    obtain ⟨m, hm, hsearch⟩ := h.dir
    exact ⟨m, (h.put_of_dir ⟨m, hm⟩ _).trans hm, hsearch⟩
  have hnew : Leads (kinds.put (spot ++ [name]) (.file bytes mode)) 0 spot [name] (spot ++ [name]) :=
    .down hopen h.step (Kinds.put_self _ _ _) (by simp) (.done _)
  induction hleads with
  | done place => exact .inl (.done place)
  | @go n place next goal part rest hturn hrest ih =>
    have hleads := Leads.go hturn hrest
    by_cases hspot : place ++ [part] = spot ++ [name]
    · obtain ⟨rfl, hpart⟩ := List.append_inj' hspot rfl
      cases hpart
      obtain ⟨rfl, rfl⟩ := h.end_of_pass hleads
      exact .inr ⟨rfl, 0, Nat.zero_le _, hnew⟩
    · have hturn' := (turn_put_of_ne (ne_of_hasDir h.spot_not_dir hleads.dir_of_cons) hspot (.file bytes mode)).trans hturn
      obtain ih | ⟨hgoal, m, hm, ih⟩ := ih
      · exact .inl (.go hturn' ih)
      · exact .inr ⟨hgoal, m, hm, .go hturn' ih⟩
  | @follow n place goal part aim rest hturn hrest ih =>
    have hleads := Leads.follow hturn hrest
    by_cases hspot : place ++ [part] = spot ++ [name]
    · obtain ⟨rfl, hpart⟩ := List.append_inj' hspot rfl
      cases hpart
      obtain ⟨rfl, rfl⟩ := h.end_of_pass hleads
      exact .inr ⟨rfl, 0, Nat.zero_le _, hnew⟩
    · have hturn' := (turn_put_of_ne (ne_of_hasDir h.spot_not_dir hleads.dir_of_cons) hspot (.file bytes mode)).trans hturn
      obtain ih | ⟨hgoal, m, hm, ih⟩ := ih
      · exact .inl (.follow hturn' ih)
      · exact .inr ⟨hgoal, m + 1, by omega, .follow hturn' ih⟩

/-- The routes there are then were there before, but for those that end at the new file: they led to the
old one, past as many links if there was none in the place. -/
theorem backward (h : Displaced kinds spot name old) {bytes : Bytes} {mode : Nat} {n : Nat}
    {place goal : Place} {parts : List Text}
    (hleads : Leads (kinds.put (spot ++ [name]) (.file bytes mode)) n place parts goal) :
    Leads kinds n place parts goal ∨ goal = spot ++ [name] ∧ ∃ m, Leads kinds m place parts old ∧
      ((∀ aim, kinds (spot ++ [name]) ≠ some (.link aim)) → m = n) := by
  have hfile : ¬ HasDir (kinds.put (spot ++ [name]) (.file bytes mode)) (spot ++ [name]) :=
    not_hasDir_of_file (Kinds.put_self _ _ _)
  induction hleads with
  | done place => exact .inl (.done place)
  | @go n place next goal part rest hturn hrest ih =>
    have hne := ne_of_hasDir hfile (Leads.go hturn hrest).dir_of_cons
    by_cases hspot : place ++ [part] = spot ++ [name]
    · obtain ⟨rfl, hpart⟩ := List.append_inj' hspot rfl
      cases hpart
      obtain ⟨hidle, -⟩ | ⟨rfl, -⟩ | ⟨-, rfl, -⟩ := turn_eq_go hturn
      · rw [h.step.not_idle] at hidle
        cases hidle
      · exact absurd rfl h.step.not_up
      cases rest with
      | nil =>
        obtain ⟨rfl, rfl⟩ := hrest.eq_of_nil
        obtain ⟨m, hm⟩ := h.leads
        exact .inr ⟨rfl, m, hm, fun hnone => (h.eq_of_not_link hnone hm).1⟩
      | cons p ps => exact absurd hrest.dir_of_cons hfile
    · rw [turn_put_of_ne hne hspot] at hturn
      obtain ih | ⟨hgoal, m, ih, hm⟩ := ih
      · exact .inl (.go hturn ih)
      · exact .inr ⟨hgoal, m, .go hturn ih, hm⟩
  | @follow n place goal part aim rest hturn hrest ih =>
    have hne := ne_of_hasDir hfile (Leads.follow hturn hrest).dir_of_cons
    have hspot : place ++ [part] ≠ spot ++ [name] := by
      intro hspot
      obtain ⟨-, -, hlink⟩ := turn_eq_follow_iff.1 hturn
      rw [hspot, Kinds.put_self] at hlink
      cases hlink
    rw [turn_put_of_ne hne hspot] at hturn
    obtain ih | ⟨hgoal, m, ih, hm⟩ := ih
    · exact .inl (.follow hturn ih)
    · exact .inr ⟨hgoal, m + 1, .follow hturn ih, fun hnone => congrArg (· + 1) (hm hnone)⟩

end Displaced

/-! ## Trees -/

/-- In `t'` there is a file with other contents in the place of a file of `t`, or of a link to one; that
is `name` in the directory at `place`. -/
structure Tree.Rewritten (t t' : Tree) (place : Place) (name : Text) (old : Place) (bytes : Bytes)
    (mode : Nat) : Prop where
  displaced : Displaced t.kind? place name old
  eq : t' = t.putEntry place name (.file bytes mode)

namespace Tree.Rewritten

variable {t t' : Tree} {place old goal : Place} {name path : Text} {bytes : Bytes} {mode : Nat}

theorem exists_entry (h : t.Rewritten t' place name old bytes mode) : ∃ entries m node,
    t.node? place = some (.dir entries m) ∧ Entries.get? entries name = some node ∧ node.kind.isDir = false := by
  obtain ⟨entries, m, hnode⟩ := hasDir_iff.1 h.displaced.dir.hasDir
  obtain ⟨kind, hkind⟩ := h.displaced.exists_kind
  have hspot : kind.isDir = false := by
    by_contra hdir
    exact h.displaced.spot_not_dir (hasDir_of_isDir hkind (by simpa using hdir))
  rw [kind?, node?_concat hnode] at hkind
  obtain ⟨node, hget, rfl⟩ := Option.map_eq_some_iff.1 hkind
  exact ⟨entries, m, node, hnode, hget, hspot⟩

theorem here (h : t.Rewritten t' place name old bytes mode) : t'.here = t.here := by
  rw [h.eq]
  rfl

theorem kinds (h : t.Rewritten t' place name old bytes mode) :
    t'.kind? = Kinds.put t.kind? (place ++ [name]) (.file bytes mode) := by
  obtain ⟨entries, m, node, hnode, hget, hkind⟩ := h.exists_entry
  funext q
  rw [h.eq, kind?_putEntry hnode (fun old hold => ?_) (by simp [Node.kind])]
  · rfl
  · rw [hget] at hold
    exact Option.some.inj hold ▸ hkind

theorem names (h : t.Rewritten t' place name old bytes mode) {q : Place} {listed : Entries} {m : Nat}
    (hq : t.node? q = some (.dir listed m)) :
    ∃ listed', t'.node? q = some (.dir listed' m) ∧ Entries.names listed' = Entries.names listed := by
  obtain ⟨entries, k, node, hnode, hget, hkind⟩ := h.exists_entry
  have hold : ∀ old, Entries.get? entries name = some old → old.kind.isDir = false := fun old hold => by
    rw [hget] at hold
    exact Option.some.inj hold ▸ hkind
  rw [h.eq]
  obtain ⟨rest, hplace, hat⟩ | hat := Node.at?_put_cases (.file bytes mode) hnode hold hq
  · have hbelow : (Node.dir listed m).at? rest = some (.dir entries k) := by
      rw [node?, hplace, Node.at?_append, show t.top.at? q = some (.dir listed m) from hq] at hnode
      exact hnode
    obtain ⟨listed', heq, hnames⟩ := Node.names_onEntries_put (.file bytes mode) hbelow hget
    exact ⟨listed', hat.trans (congrArg some heq), hnames⟩
  · exact ⟨listed, hat, rfl⟩

theorem kind?_spot (h : t.Rewritten t' place name old bytes mode) :
    t'.kind? (place ++ [name]) = some (.file bytes mode) := by
  rw [h.kinds]
  exact Kinds.put_self _ _ _

theorem kind?_eq_dir_iff (h : t.Rewritten t' place name old bytes mode) (p : Place) (m : Nat) :
    t'.kind? p = some (.dir m) ↔ t.kind? p = some (.dir m) := by
  rw [h.kinds]
  constructor
  · intro hp
    rwa [Kinds.put_of_ne] at hp
    rintro rfl
    rw [Kinds.put_self] at hp
    cases hp
  · exact fun hp => (h.displaced.put_of_dir ⟨m, hp⟩ _).trans hp

theorem hasDir_iff (h : t.Rewritten t' place name old bytes mode) (p : Place) :
    HasDir t'.kind? p ↔ HasDir t.kind? p := exists_congr fun m => h.kind?_eq_dir_iff p m

/-- Paths to directories lead where they led. -/
theorem resolve_dir_iff (h : t.Rewritten t' place name old bytes mode) (hgoal : HasDir t.kind? goal) :
    t'.resolve path = .ok goal ↔ t.resolve path = .ok goal := by
  rw [resolve_eq_ok_iff, resolve_eq_ok_iff, h.here, h.kinds]
  constructor
  · rintro ⟨hempty, hlong, n, hn, hleads⟩
    obtain hleads | ⟨hspot, -⟩ := h.displaced.backward hleads
    · exact ⟨hempty, hlong, n, hn, hleads⟩
    · exact absurd (hspot ▸ hgoal) h.displaced.spot_not_dir
  · rintro ⟨hempty, hlong, n, hn, hleads⟩
    obtain hleads | ⟨hold, -⟩ := h.displaced.forward bytes mode hleads
    · exact ⟨hempty, hlong, n, hn, hleads⟩
    · exact absurd (hold ▸ hgoal) h.displaced.old_not_dir

theorem isDirectory_eq (h : t.Rewritten t' place name old bytes mode) (path : Text) :
    t'.isDirectory path = t.isDirectory path := by
  rw [Bool.eq_iff_iff, isDirectory_iff, isDirectory_iff]
  refine and_congr_right fun _ => exists_congr fun goal => ?_
  rw [h.hasDir_iff]
  exact and_congr_left fun hgoal => h.resolve_dir_iff hgoal

theorem list_names (h : t.Rewritten t' place name old bytes mode) {entries : Entries}
    (hlist : t.list path = .ok entries) :
    ∃ entries', t'.list path = .ok entries' ∧ Entries.names entries' = Entries.names entries := by
  obtain ⟨goal, m, hgoal, hnode, hreadable⟩ := list_eq_ok_iff.1 hlist
  obtain ⟨entries', hnode', hnames⟩ := h.names hnode
  have hdir := (h.resolve_dir_iff (Tree.hasDir_iff.2 ⟨entries, m, hnode⟩)).2 hgoal
  exact ⟨entries', list_eq_ok_iff.2 ⟨goal, m, hdir, hnode', hreadable⟩, hnames⟩

/-- What can be read afterwards could be read before, or is the new file: then the path led to the old
one, or, where the new file has taken the place of a link, through too many links. -/
theorem readFile_of_ok (h : t.Rewritten t' place name old bytes mode) {read : Bytes}
    (hread : t'.readFile path = .ok read) :
    t.readFile path = .ok read ∨
      t'.resolve path = .ok (place ++ [name]) ∧
        (t.resolve path = .ok old ∨
          t.readFile path = .error .tooManyLinks ∧ ∃ aim, t.kind? (place ++ [name]) = some (.link aim)) := by
  obtain ⟨goal, mode', hgoal, hkind, hreadable⟩ := readFile_eq_ok_iff.1 hread
  obtain ⟨hempty, hlong, n, hn, hleads⟩ := resolve_eq_ok_iff.1 hgoal
  rw [h.here, h.kinds] at hleads
  obtain hback | ⟨rfl, m, hm, hsame⟩ := h.displaced.backward hleads
  · have hresolve := resolve_eq_ok_iff.2 ⟨hempty, hlong, n, hn, hback⟩
    by_cases hspot : goal = place ++ [name]
    · have hstart := startOf_dir_of_resolve hresolve
      obtain ⟨k, hk⟩ := h.displaced.leads
      rw [hspot] at hback hresolve
      rw [← (h.displaced.eq_of_not_link (kind?_ne_link_of_leads hback hstart) hk).2] at hresolve
      exact .inr ⟨hspot ▸ hgoal, .inl hresolve⟩
    · rw [h.kinds, Kinds.put_of_ne hspot] at hkind
      exact .inl (readFile_eq_ok_iff.2 ⟨goal, mode', hresolve, hkind, hreadable⟩)
  · have hresolve := resolve_of_leads hempty hlong hm
    refine .inr ⟨hgoal, ?_⟩
    by_cases hlink : ∃ aim, t.kind? (place ++ [name]) = some (.link aim)
    · split at hresolve
      · exact .inl hresolve
      · exact .inr ⟨readFile_of_resolve_eq_error hresolve, hlink⟩
    · rw [hsame fun aim haim => hlink ⟨aim, haim⟩, if_pos hn] at hresolve
      exact .inl hresolve

end Tree.Rewritten

end SdkGraft
