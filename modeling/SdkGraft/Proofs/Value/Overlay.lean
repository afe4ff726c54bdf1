import Mathlib.Data.List.Nodup
import SdkGraft.Value.Basic

/-!
# Tables laid over one another

* `Table.mem_of_get?`, `Table.get?_of_mem`, `Table.put_eq_self` : looking a name up and setting it;
* `Value.HasDistinctNames` : no table that tables lead to has two values of one name;
* `Value.HasDistinctNames.put` : setting a name keeps that;
* `Table.get?_overlay` : what stands under a name of a table laid over another;
* `Value.overlayOn_idem`, `Table.overlay_idem` : laid over once more, a table changes nothing.
-/

namespace SdkGraft

variable {t base override : Table} {k : Text} {v : Value}

namespace Table

/-! ## Names of a table -/

def names (t : Table) : List Text := t.map Prod.fst

theorem mem_names {e : Text × Value} (h : e ∈ t) : e.1 ∈ t.names := List.mem_map_of_mem h

theorem mem_of_get? (h : t.get? k = some v) : (k, v) ∈ t := by
  induction t with
  | nil => cases h
  | cons e rest ih =>
    rw [get?] at h
    split at h
    · rename_i hk
      cases h
      exact hk ▸ List.mem_cons_self
    · exact List.mem_cons_of_mem _ (ih h)

theorem get?_of_mem (hnames : t.names.Nodup) (h : (k, v) ∈ t) : t.get? k = some v := by
  induction t with
  | nil => cases h
  | cons e rest ih =>
    obtain ⟨hnew, hrest⟩ := List.nodup_cons.1 hnames
    rw [get?]
    rcases List.mem_cons.1 h with rfl | h
    · exact if_pos rfl
    · rw [if_neg fun hk => hnew (by rw [hk]; exact mem_names h)]
      exact ih hrest h

theorem get?_eq_none (h : k ∉ t.names) : t.get? k = none := by
  cases hget : t.get? k with
  | none => rfl
  | some v => exact absurd (mem_names (mem_of_get? hget)) h

theorem put_eq_self (h : t.get? k = some v) : t.put k v = t := by
  induction t with
  | nil => cases h
  | cons e rest ih =>
    rw [get?] at h
    rw [put]
    split at h
    · rename_i hk
      cases h
      rw [if_pos hk]
    · rename_i hk
      rw [if_neg hk, ih h]

theorem mem_put {e : Text × Value} (h : e ∈ t.put k v) : e.2 = v ∨ e ∈ t := by
  induction t with
  | nil => exact .inl (by rw [List.mem_singleton.1 h])
  | cons first rest ih =>
    rw [put] at h
    split at h
    · rcases List.mem_cons.1 h with rfl | h
      · exact .inl rfl
      · exact .inr (List.mem_cons_of_mem _ h)
    · rcases List.mem_cons.1 h with rfl | h
      · exact .inr List.mem_cons_self
      · exact (ih h).imp_right (List.mem_cons_of_mem _)

theorem names_put (t : Table) (k : Text) (v : Value) :
    (t.put k v).names = if k ∈ t.names then t.names else t.names ++ [k] := by
  induction t with
  | nil => rfl
  | cons e rest ih =>
    rw [put]
    by_cases hk : e.1 = k
    · rw [if_pos hk, if_pos (hk ▸ mem_names List.mem_cons_self)]
      rfl
    · rw [if_neg hk]
      show e.1 :: (put rest k v).names = _
      have hmem : k ∈ names (e :: rest) ↔ k ∈ names rest :=
        List.mem_cons.trans (or_iff_right (Ne.symm hk))
      rw [ih]
      simp only [hmem]
      split <;> rfl

theorem nodup_names_put (h : t.names.Nodup) : (t.put k v).names.Nodup := by
  rw [names_put]
  split
  · exact h
  · rename_i hk
    exact List.nodup_append.2 ⟨h, List.nodup_singleton k, fun a ha b hb hab => hk (by
      rwa [← List.mem_singleton.1 hb, ← hab])⟩

end Table

/-! ## Distinct names -/

/-- No table that the value leads to through tables has two values of one name. -/
inductive Value.HasDistinctNames : Value → Prop where
  | table {fields : Table} (names : fields.names.Nodup) (fields_distinct : ∀ e ∈ fields, HasDistinctNames e.2) :
      HasDistinctNames (.table fields)
  | other {v : Value} (h : v.table? = none) : HasDistinctNames v

namespace Value.HasDistinctNames

theorem nodup (h : (Value.table t).HasDistinctNames) : t.names.Nodup := by
  cases h with
  | table names _ => exact names
  | other h => cases h

theorem of_mem (h : (Value.table t).HasDistinctNames) {e : Text × Value} (he : e ∈ t) : e.2.HasDistinctNames := by
  cases h with
  | table _ fields => exact fields e he
  | other h => cases h

theorem of_get? (h : (Value.table t).HasDistinctNames) (hget : t.get? k = some v) : v.HasDistinctNames :=
  h.of_mem (Table.mem_of_get? hget)

theorem empty : (Value.table []).HasDistinctNames := .table List.nodup_nil fun _ h => by cases h

theorem put (h : (Value.table t).HasDistinctNames) (k : Text) (hv : v.HasDistinctNames) :
    (Value.table (t.put k v)).HasDistinctNames := by
  refine .table (Table.nodup_names_put h.nodup) fun e he => ?_
  obtain hnew | hold := Table.mem_put he
  · exact hnew ▸ hv
  · exact h.of_mem hold

end Value.HasDistinctNames

/-! ## One value laid over another -/

theorem Value.overlayOn_cases (old : Option Value) (v : Value) :
    (∃ base fields : Table, old = some (.table base) ∧ v = .table fields ∧
      v.overlayOn old = .table (base.overlay fields)) ∨
    ((v.table? = none ∨ old.bind Value.table? = none) ∧ v.overlayOn old = v) := by
  cases v with
  | table fields =>
    match old with
    | some (.table base) => exact .inl ⟨base, fields, rfl, rfl, by rw [overlayOn, Table.overlay]⟩
    | none => exact .inr ⟨.inr rfl, by rw [overlayOn]; exact fun _ h => by cases h⟩
    | some .null | some (.bool _) | some (.int _) | some (.real _) | some (.moment _) | some (.text _)
    | some (.list _) => exact .inr ⟨.inr rfl, by rw [overlayOn]; exact fun _ h => by cases h⟩
  | _ => exact .inr ⟨.inl rfl, by rw [overlayOn]; exact fun _ h => by cases h⟩

theorem Value.overlayOn_none (v : Value) : v.overlayOn none = v := by
  obtain ⟨_, _, h, -⟩ | ⟨-, h⟩ := overlayOn_cases none v
  · cases h
  · exact h

theorem Value.overlayOn_of_not_table {v : Value} (h : v.table? = none) (old : Option Value) : v.overlayOn old = v := by
  obtain ⟨_, _, -, rfl, -⟩ | ⟨-, hself⟩ := overlayOn_cases old v
  · cases h
  · exact hself

theorem Value.overlayOn_table (base fields : Table) :
    (Value.table fields).overlayOn (some (.table base)) = .table (base.overlay fields) := by
  rw [overlayOn, Table.overlay]

namespace Table

theorem overlay_nil (base : Table) : base.overlay [] = base := by
  rw [overlay, Value.overlayOn.overlayFields]

theorem overlay_cons (base : Table) (k : Text) (v : Value) (rest : Table) :
    base.overlay ((k, v) :: rest) = (base.put k (v.overlayOn (base.get? k))).overlay rest := by
  rw [overlay, Value.overlayOn.overlayFields, overlay]

/-- Under a name stands what stood there with the value of that name laid over it. -/
theorem get?_overlay (hnames : override.names.Nodup) (base : Table) (k : Text) :
    (base.overlay override).get? k =
      match override.get? k with
      | none => base.get? k
      | some v => some (v.overlayOn (base.get? k)) := by
  induction override generalizing base with
  | nil => rw [overlay_nil, get?]
  | cons e rest ih =>
    obtain ⟨key, v⟩ := e
    obtain ⟨hnew, hrest⟩ := List.nodup_cons.1 hnames
    rw [overlay_cons, ih hrest, get?]
    by_cases hk : key = k
    · subst hk
      rw [get?_eq_none hnew, if_pos rfl]
      exact get?_put_self base key _
    · rw [if_neg hk, get?_put_of_ne base _ (Ne.symm hk)]

/-- A table under a name keeps its names when another is laid over it, if there is a table then. -/
theorem exists_get?_of_overlay {b m : Table} {n : Text} (h : (Value.table override).HasDistinctNames)
    (hbase : base.get? n = some (.table b)) (hm : (base.overlay override).get? n = some (.table m))
    (hk : ∃ v, b.get? k = some v) : ∃ v, m.get? k = some v := by
  rw [get?_overlay h.nodup, hbase] at hm
  cases hover : override.get? n with
  | none =>
    rw [hover] at hm
    cases hm
    exact hk
  | some v =>
    rw [hover] at hm
    simp only [Option.some.injEq] at hm
    obtain ⟨_, fields, hb, rfl, hmerged⟩ | ⟨hplain, hself⟩ := Value.overlayOn_cases (some (.table b)) v
    · cases hb
      rw [hmerged] at hm
      cases hm
      rw [get?_overlay (h.of_get? hover).nodup]
      cases fields.get? k with
      | none => exact hk
      | some w => exact ⟨_, rfl⟩
    · rw [hself] at hm
      cases hm
      obtain h | h := hplain <;> cases h

/-- What holds every value of a table already stays as it is when the table is laid over it. -/
theorem overlay_eq_self
    (h : ∀ e ∈ override, ∃ v, t.get? e.1 = some v ∧ e.2.overlayOn (some v) = v) : t.overlay override = t := by
  induction override with
  | nil => exact overlay_nil t
  | cons e rest ih =>
    obtain ⟨hfirst, hrest⟩ := List.forall_mem_cons.1 h
    obtain ⟨v, hget, hv⟩ := hfirst
    rw [overlay_cons, hget, hv, put_eq_self hget]
    exact ih hrest

end Table

theorem Value.overlayOn_idem (h : v.HasDistinctNames) (old : Option Value) :
    v.overlayOn (some (v.overlayOn old)) = v.overlayOn old := by
  induction h generalizing old with
  | other h => rw [overlayOn_of_not_table h, overlayOn_of_not_table h]
  | @table fields hnames _ ih =>
    obtain ⟨base, _, -, hfields, hover⟩ | ⟨-, hself⟩ := overlayOn_cases old (.table fields)
    · cases hfields
      rw [hover, overlayOn_table]
      refine congrArg Value.table (Table.overlay_eq_self fun e he => ?_)
      refine ⟨e.2.overlayOn (Table.get? base e.1), ?_, ih e he _⟩
      rw [Table.get?_overlay hnames, Table.get?_of_mem hnames he]
    · rw [hself, overlayOn_table]
      refine congrArg Value.table (Table.overlay_eq_self fun e he => ⟨e.2, Table.get?_of_mem hnames he, ?_⟩)
      have hfield := ih e he none
      rwa [overlayOn_none] at hfield

theorem Table.overlay_idem (h : (Value.table override).HasDistinctNames) (base : Table) :
    (base.overlay override).overlay override = base.overlay override := by
  have hvalue := Value.overlayOn_idem h (some (.table base))
  rw [Value.overlayOn_table, Value.overlayOn_table] at hvalue
  exact Value.table.inj hvalue

end SdkGraft
