import SdkGraft.Proofs.Bind
import SdkGraft.Proofs.Value.Overlay
import SdkGraft.Settings.Discovery

/-!
# A configuration names each setting once

* `Keeps` : a change of a table that leaves its names distinct; `keeps_onNest` : so does it where a key leads;
* `hasDistinctNames_of_simple`, `hasDistinctNames_of_value` : values as they are read;
* `hasDistinctNames_of_statement` : what one statement leaves of a file;
* `hasDistinctNames_of_parse`, `Tree.hasDistinctNames_of_configuration` : no table of a configuration has two values
  of one name.
-/

namespace SdkGraft.Toml

open Value (HasDistinctNames)

variable {room : Nat} {t t' : Table} {v : Value} {text rest : Text}

theorem of_judged {α : Type} {read : Option α} {a : α} (h : judged read = .ok a) : read = some a := by
  cases read with
  | none => cases h
  | some b => exact congrArg some (Except.ok.inj h)

/-! ## Changes of tables -/

/-- The change leaves the names of a table, and of those within it, distinct. -/
def Keeps (change : Table → Option Table) : Prop :=
  ∀ t t', HasDistinctNames (.table t) → change t = some t' → HasDistinctNames (.table t')

theorem keeps_some : Keeps some := by
  intro t t' ht h
  cases h
  exact ht

theorem keeps_addNew (name : Text) (hv : v.HasDistinctNames) : Keeps (addNew name v) := by
  intro t t' ht h
  unfold addNew at h
  split at h
  · cases h
    exact ht.put name hv
  · cases h

theorem keeps_addToList (name : Text) : Keeps (addToList name) := by
  intro t t' ht h
  unfold addToList at h
  split at h
  · cases h
    exact ht.put name (.other rfl)
  · cases h
    exact ht.put name (.other rfl)
  · cases h

/-- A change that leaves names distinct does so in the table that a key leads to. -/
theorem keeps_onNest (throughLists : Bool) {change : Table → Option Table} (hchange : Keeps change) (key : Key) :
    Keeps (onNest throughLists change key) := by
  induction key with
  | nil => exact hchange
  | cons k rest ih =>
    intro t t' ht h
    unfold onNest at h
    split at h
    · obtain ⟨sub, hsub, rfl⟩ := Option.map_eq_some_iff.1 h
      exact ht.put k (ih _ _ .empty hsub)
    · rename_i sub hget
      obtain ⟨sub', hsub', rfl⟩ := Option.map_eq_some_iff.1 h
      exact ht.put k (ih _ _ (ht.of_get? hget) hsub')
    · split at h
      · obtain ⟨_, -, rfl⟩ := Option.map_eq_some_iff.1 h
        exact ht.put k (.other rfl)
      · cases h
    · cases h

/-! ## Values -/

theorem table?_of_decimal {judged : Judged (Value × Text)} (h : decimal text = some judged)
    (hv : judged = .ok (v, rest)) : v.table? = none := by
  unfold decimal at h
  obtain ⟨w, -, rfl⟩ := Option.map_eq_some_iff.1 h
  simp only at hv
  split at hv
  · split at hv <;> cases hv
    rfl
  · cases hv
    rfl

theorem table?_of_special (h : special text = some (v, rest)) : v.table? = none := by
  unfold special at h
  simp only at h
  split at h
  · cases h
    rfl
  · obtain ⟨_, -, he⟩ := Option.map_eq_some_iff.1 h
    cases he
    rfl

theorem table?_of_based {base : Nat} {isDigit : Char → Bool} (h : based base isDigit text = some (v, rest)) :
    v.table? = none := by
  obtain ⟨_, -, he⟩ := Option.map_eq_some_iff.1 h
  cases he
  rfl

theorem table?_of_number (h : number text = .ok (v, rest)) : v.table? = none := by
  unfold number at h
  simp only at h
  split at h
  · rename_i hmarked
    cases h
    split at hmarked
    · exact table?_of_based hmarked
    · exact table?_of_based hmarked
    · exact table?_of_based hmarked
    · cases hmarked
  · rename_i hdecimal
    exact table?_of_decimal hdecimal h
  · exact table?_of_special (of_judged h)

theorem table?_of_moment (h : moment text = some (some (v, rest))) : v.table? = none := by
  unfold moment at h
  split at h
  · have hreal := Option.some.inj h
    split at hreal
    · split at hreal <;> cases hreal <;> rfl
    · cases hreal
  · obtain ⟨_, -, he⟩ := Option.map_eq_some_iff.1 h
    cases he
    rfl

theorem table?_of_string (h : judged ((string text).map fun e => (Value.text e.1, e.2)) = .ok (v, rest)) :
    v.table? = none := by
  obtain ⟨_, -, he⟩ := Option.map_eq_some_iff.1 (of_judged h)
  cases he
  rfl

theorem hasDistinctNames_of_simple (h : simple text = .ok (v, rest)) : v.HasDistinctNames := by
  apply HasDistinctNames.other
  unfold simple at h
  split at h
  · exact table?_of_string h
  · exact table?_of_string h
  · split at h
    · cases h
      rfl
    · cases h
      rfl
    · rename_i hmoment _ _
      exact table?_of_moment (hmoment.trans (congrArg some (of_judged h)))
    · exact table?_of_number h

/-- A table in one piece gets further names only. -/
theorem hasDistinctNames_of_addInline {closed closed' : List Key} {k : Key} (ht : HasDistinctNames (.table t))
    (hv : v.HasDistinctNames) (h : addInline closed t k v = some (closed', t')) : HasDistinctNames (.table t') := by
  unfold addInline at h
  split at h
  · cases h
  · obtain ⟨sub, hsub, he⟩ := Option.map_eq_some_iff.1 h
    cases he
    exact keeps_onNest false (keeps_addNew _ hv) _ _ _ ht hsub

/-- What is read with at most `n` steps has distinct names: a value, and the fields of a table in one piece behind
distinct ones. -/
structure ReadsDistinct (n : Nat) : Prop where
  value : ∀ {room : Nat} {text : Text} {e : Value × Text}, valueIn n room text = .ok e → e.1.HasDistinctNames
  fields : ∀ {room : Nat} {closed : List Key} {before : Table} {text : Text} {e : Table × Text},
    HasDistinctNames (.table before) → fieldsIn n room closed before text = .ok e → HasDistinctNames (.table e.1)

theorem ReadsDistinct.valueIn_succ {n room : Nat} {e : Value × Text} (hn : ReadsDistinct n)
    (h : valueIn (n + 1) room text = .ok e) : e.1.HasDistinctNames := by
  unfold valueIn at h
  split at h
  · cases h
  · split at h
    · cases h
    · obtain ⟨filler, -, h⟩ := Except.exists_of_bind_eq_ok h
      obtain ⟨items, -, h⟩ := Except.exists_of_bind_eq_ok h
      cases h
      exact .other rfl
  · rename_i hsteps
    cases hsteps
    split at h
    · cases h
    split at h
    · cases h
      exact .empty
    · obtain ⟨fields, hfields, h⟩ := Except.exists_of_bind_eq_ok h
      cases h
      exact hn.fields .empty hfields
  · exact hasDistinctNames_of_simple h

theorem ReadsDistinct.fieldsIn_succ {n room : Nat} {closed : List Key} {before : Table} {e : Table × Text}
    (hn : ReadsDistinct n) (hbefore : HasDistinctNames (.table before))
    (h : fieldsIn (n + 1) room closed before text = .ok e) : HasDistinctNames (.table e.1) := by
  unfold fieldsIn at h
  obtain ⟨key, -, h⟩ := Except.exists_of_bind_eq_ok h
  obtain ⟨value, hvalue, h⟩ := Except.exists_of_bind_eq_ok h
  obtain ⟨added, hadded, h⟩ := Except.exists_of_bind_eq_ok h
  have hkept := hasDistinctNames_of_addInline hbefore (hn.value hvalue) (of_judged hadded)
  simp only at h
  split at h
  · cases h
    exact hkept
  · exact hn.fields hkept h
  · cases h

theorem readsDistinct (n : Nat) : ReadsDistinct n := by
  induction n with
  | zero =>
    refine ⟨fun h => ?_, fun _ h => ?_⟩
    · unfold valueIn at h
      cases h
    · unfold fieldsIn at h
      cases h
  | succ n ih => exact ⟨ih.valueIn_succ, ih.fieldsIn_succ⟩

theorem hasDistinctNames_of_value {e : Value × Text} (h : value room text = .ok e) : e.1.HasDistinctNames :=
  (readsDistinct _).value h

/-! ## Files -/

variable {s s' : Sheet} {e : Sheet × Text}

theorem hasDistinctNames_of_tableHeader (h : tableHeader s text = some e)
    (hs : HasDistinctNames (.table s.tables)) : HasDistinctNames (.table e.1.tables) := by
  unfold tableHeader at h
  obtain ⟨k, -, h⟩ := Option.bind_eq_some_iff.1 h
  simp only at h
  split at h
  · cases h
  · obtain ⟨tables, htables, h⟩ := Option.bind_eq_some_iff.1 h
    obtain ⟨_, -, h⟩ := Option.bind_eq_some_iff.1 h
    cases h
    exact keeps_onNest true keeps_some _ _ _ hs htables

theorem hasDistinctNames_of_listHeader (h : listHeader s text = some e)
    (hs : HasDistinctNames (.table s.tables)) : HasDistinctNames (.table e.1.tables) := by
  unfold listHeader at h
  obtain ⟨k, -, h⟩ := Option.bind_eq_some_iff.1 h
  simp only at h
  split at h
  · cases h
  · obtain ⟨tables, htables, h⟩ := Option.bind_eq_some_iff.1 h
    obtain ⟨_, -, h⟩ := Option.bind_eq_some_iff.1 h
    cases h
    exact keeps_onNest true (keeps_addToList _) _ _ _ hs htables

theorem hasDistinctNames_of_assignment (h : assignment room s text = .ok e)
    (hs : HasDistinctNames (.table s.tables)) : HasDistinctNames (.table e.1.tables) := by
  unfold assignment at h
  obtain ⟨k, -, h⟩ := Except.exists_of_bind_eq_ok h
  obtain ⟨v, hv, h⟩ := Except.exists_of_bind_eq_ok h
  simp only at h
  split at h
  · cases h
  · obtain ⟨tables, htables, h⟩ := Except.exists_of_bind_eq_ok h
    cases h
    exact keeps_onNest true (keeps_addNew _ (hasDistinctNames_of_value hv)) _ _ _ hs (of_judged htables)

/-- A statement leaves the names of the tables read so far distinct. -/
theorem hasDistinctNames_of_statement (h : statement room s text = .ok e)
    (hs : HasDistinctNames (.table s.tables)) : HasDistinctNames (.table e.1.tables) := by
  unfold statement at h
  obtain ⟨read, he, rfl⟩ := Except.exists_of_map_eq_ok h
  show HasDistinctNames (.table read.1.tables)
  split at he
  · have hheader := of_judged he
    unfold header at hheader
    simp only at hheader
    split at hheader
    · exact hasDistinctNames_of_listHeader hheader hs
    · exact hasDistinctNames_of_tableHeader hheader hs
  · split at he
    · exact hasDistinctNames_of_assignment he hs
    · cases he
      exact hs
  · cases he
    exact hs

theorem hasDistinctNames_of_statementsIn {n : Nat} (hs : HasDistinctNames (.table s.tables))
    (h : statementsIn room n s text = .ok s') : HasDistinctNames (.table s'.tables) := by
  induction n generalizing s text with
  | zero =>
    rw [statementsIn] at h
    cases h
  | succ n ih =>
    unfold statementsIn at h
    obtain ⟨e, he, h⟩ := Except.exists_of_bind_eq_ok h
    have hkept := hasDistinctNames_of_statement he hs
    obtain ⟨left, -, h⟩ := Except.exists_of_bind_eq_ok h
    split at h
    · cases h
      exact hkept
    · exact ih hkept h
    · cases h

theorem hasDistinctNames_of_parse (h : parse room text = .ok t) : HasDistinctNames (.table t) := by
  unfold parse at h
  obtain ⟨s, hs, rfl⟩ := Except.exists_of_map_eq_ok h
  exact hasDistinctNames_of_statementsIn .empty hs

end SdkGraft.Toml

namespace SdkGraft.Tree

open Value (HasDistinctNames)

variable {t : Tree} {stack : Stack} {file : Table}

theorem hasDistinctNames_of_readConfiguration {path : Text} (h : t.readConfiguration stack path = .ok file) :
    HasDistinctNames (.table file) := by
  unfold readConfiguration at h
  split at h
  · cases h
  split at h
  · cases h
  · exact Toml.hasDistinctNames_of_parse (Except.of_mapError_eq_ok h)

theorem hasDistinctNames_of_firstConfiguration {paths : List Text}
    (h : t.firstConfiguration stack paths = .ok (some file)) : HasDistinctNames (.table file) := by
  induction paths with
  | nil => cases h
  | cons path rest ih =>
    unfold firstConfiguration at h
    split at h
    · obtain ⟨_, hread, hfile⟩ := Except.exists_of_map_eq_ok h
      cases hfile
      exact hasDistinctNames_of_readConfiguration hread
    · exact ih h
    · cases h

theorem hasDistinctNames_of_configuration {around : Surroundings} (h : t.configuration around = .ok (some file)) :
    HasDistinctNames (.table file) :=
  hasDistinctNames_of_firstConfiguration h

end SdkGraft.Tree
