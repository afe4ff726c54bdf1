import Mathlib
import SdkGraft.Proofs.Settings.Checks
import SdkGraft.Proofs.Toml.DistinctNames
import SdkGraft.Proofs.Text.Lines

/-!
# Which layer a setting comes from

* `Value.atNames_append` : names lead on from where the first of them lead to;
* `Value.atNames_overlayOn`, `Value.atNames_overlay` : what names lead to in a table laid over another;
* `LaidOver` : what such a table holds, by what its layers hold;
* `Value.Misses` : tables lead to one that lacks the next name;
* `layers_leafwise` : so it is with every table laid over another, and with the settings of a run.
-/

namespace SdkGraft

variable {base override : Table} {v w : Value} {p : List Text}

/-! ## Paths -/

theorem Value.atNames_cons (fields : Table) (n : Text) (rest : List Text) :
    (Value.table fields).atNames (n :: rest) = (fields.get? n).bind (·.atNames rest) := rfl

theorem Value.atNames_cons_of_not_table (h : v.table? = none) (n : Text) (rest : List Text) :
    v.atNames (n :: rest) = none := by
  cases v with
  | table fields => cases h
  | _ => rfl

theorem Value.exists_of_atNames_cons {n : Text} {rest : List Text} (h : v.atNames (n :: rest) = some w) :
    ∃ (fields : Table) (inner : Value), v = .table fields ∧ fields.get? n = some inner ∧
      inner.atNames rest = some w := by
  cases v with
  | table fields =>
    obtain ⟨inner, hinner, h⟩ := Option.bind_eq_some_iff.1 h
    exact ⟨fields, inner, rfl, hinner, h⟩
  | _ => cases h

theorem Value.atNames_append (v : Value) (p q : List Text) :
    v.atNames (p ++ q) = (v.atNames p).bind (·.atNames q) := by
  induction p generalizing v with
  | nil => rfl
  | cons n rest ih =>
    cases htable : v.table? with
    | none =>
      rw [List.cons_append, atNames_cons_of_not_table htable, atNames_cons_of_not_table htable]
      rfl
    | some fields =>
      cases v with
      | table fields =>
        rw [List.cons_append, atNames_cons, atNames_cons, Option.bind_assoc]
        exact congrArg _ (funext ih)
      | _ => cases htable

theorem Value.HasDistinctNames.atNames (hv : v.HasDistinctNames) (h : v.atNames p = some w) :
    w.HasDistinctNames := by
  induction p generalizing v with
  | nil =>
    cases h
    exact hv
  | cons n rest ih =>
    obtain ⟨fields, inner, rfl, hinner, hrest⟩ := exists_of_atNames_cons h
    exact ih (hv.of_get? hinner) hrest

/-- Where names lead somewhere in the upper value, they lead to that, laid over what they lead to in the lower
one. -/
theorem Value.atNames_overlayOn (hv : v.HasDistinctNames) (old : Option Value) (h : v.atNames p = some w) :
    (v.overlayOn old).atNames p = some (w.overlayOn (old.bind (·.atNames p))) := by
  induction p generalizing v old with
  | nil =>
    cases h
    cases old <;> rfl
  | cons n rest ih =>
    obtain ⟨fields, inner, rfl, hinner, hrest⟩ := exists_of_atNames_cons h
    obtain ⟨base, _, rfl, hfields, hover⟩ | ⟨hold, hself⟩ := overlayOn_cases old (.table fields)
    · cases hfields
      rw [hover, atNames_cons, Table.get?_overlay hv.nodup, hinner]
      simp only [Option.bind_some]
      rw [atNames_cons]
      exact ih (hv.of_get? hinner) _ hrest
    · have hnone : old.bind (·.atNames (n :: rest)) = none := by
        cases old with
        | none => rfl
        | some old => exact atNames_cons_of_not_table (hold.resolve_left (by simp [table?])) n rest
      rw [hself, h, hnone, overlayOn_none]

theorem Value.atNames_overlay (h : (Value.table override).HasDistinctNames) (base : Table)
    (hp : (Value.table override).atNames p = some w) :
    (Value.table (base.overlay override)).atNames p = some (w.overlayOn ((Value.table base).atNames p)) := by
  rw [← overlayOn_table]
  exact atNames_overlayOn h _ hp

/-! ## What a table laid over another holds -/

/-- What a table holds that has come of laying one over another. -/
structure LaidOver (base override merged : Table) : Prop where
  /-- What is no table in the upper layer stands there. -/
  leaf : ∀ p v, (Value.table override).atNames p = some v → v.table? = none →
    (Value.table merged).atNames p = some v
  /-- Where the tables of the upper layer lead to one that lacks the next name, and the lower layer has tables as
  far, it is as in the lower layer, be there a value or none. -/
  kept : ∀ p n rest (fields below : Table), (Value.table override).atNames p = some (.table fields) →
    fields.get? n = none → (Value.table base).atNames p = some (.table below) →
      (Value.table merged).atNames (p ++ n :: rest) = (Value.table base).atNames (p ++ n :: rest)
  /-- A table of the upper layer stands where the lower layer has none. -/
  subtree : ∀ p fields, (Value.table override).atNames p = some (.table fields) →
    (∀ below, (Value.table base).atNames p ≠ some (.table below)) →
      (Value.table merged).atNames p = some (.table fields)

theorem laidOver_overlay (h : (Value.table override).HasDistinctNames) (base : Table) :
    LaidOver base override (base.overlay override) where
  leaf p v hp hv := by rw [Value.atNames_overlay h base hp, Value.overlayOn_of_not_table hv]
  kept p n rest fields below hp hn hbase := by
    rw [Value.atNames_append, Value.atNames_append, Value.atNames_overlay h base hp, hbase, Value.overlayOn_table]
    simp only [Option.bind_some]
    have hfields := h.atNames hp
    rw [Value.atNames_cons, Value.atNames_cons, Table.get?_overlay hfields.nodup, hn]
  subtree p fields hp hbase := by
    rw [Value.atNames_overlay h base hp]
    obtain ⟨below, _, hbelow, -, -⟩ | ⟨-, hself⟩ :=
      Value.overlayOn_cases ((Value.table base).atNames p) (.table fields)
    · exact absurd hbelow (hbase below)
    · rw [hself]

/-! ## Settings -/

/-- The tables that the names lead to come to one that lacks the next name. -/
def Value.Misses (v : Value) (p : List Text) : Prop :=
  ∃ (before : List Text) (n : Text) (after : List Text) (fields : Table),
    p = before ++ n :: after ∧ v.atNames before = some (.table fields) ∧ fields.get? n = none

theorem exists_atNames_of_configValue {configuration : Option Table} {key : Text}
    (h : ∀ default, configValue configuration key default = v) :
    ∃ file, configuration = some file ∧ (Value.table file).atNames (Text.splitAt '.' key) = some v := by
  have hdefaults : configValue configuration key .null = configValue configuration key (.bool true) :=
    (h _).trans (h _).symm
  unfold configValue at h hdefaults
  cases configuration with
  | none => cases hdefaults
  | some file =>
    simp only at h hdefaults
    cases hfound : (Value.table file).atNames (Text.splitAt '.' key) with
    | none =>
      rw [hfound] at hdefaults
      cases hdefaults
    | some found =>
      rw [hfound] at h
      exact ⟨file, rfl, hfound.trans (congrArg some (h .null))⟩

/-- Where nobody overrides anything, the settings are the configuration laid over the defaults. -/
theorem table_of_settings {t : Tree} {around : Surroundings} {configuration : Option Table} {s : Settings}
    (hfile : t.configuration around = .ok configuration) (hs : t.settings around .null = .ok s) :
    s.table = Settings.configured configuration := by
  rw [Tree.settings, hfile, Except.ok_bind] at hs
  obtain ⟨merged, hlayers, hread, -⟩ := Settings.ofLayers_eq_ok_iff.1 hs
  rw [hread.table]
  cases hlayers
  rfl

theorem hasDistinctNames_getD {t : Tree} {around : Surroundings} {configuration : Option Table}
    (hfile : t.configuration around = .ok configuration) :
    (Value.table (configuration.getD [])).HasDistinctNames := by
  cases configuration with
  | none => exact .empty
  | some file => exact t.hasDistinctNames_of_configuration hfile

/-- A table laid over another overrides leaf by leaf, and once is as good as twice. So the settings of a run, where
nobody overrides anything, hold every value of the configuration that is no table under its dotted name, and every
default that the configuration does not touch. -/
theorem layers_leafwise :
    (∀ base override : Table, (Value.table override).HasDistinctNames →
      LaidOver base override (base.overlay override) ∧
        (base.overlay override).overlay override = base.overlay override) ∧
    ∀ (t : Tree) (around : Surroundings) (configuration : Option Table) (s : Settings),
      t.configuration around = .ok configuration → t.settings around .null = .ok s →
        (∀ key v, (∀ default, configValue configuration key default = v) → v.table? = none →
          (Value.table s.table).atNames (Text.splitAt '.' key) = some v) ∧
        ∀ p v, (Value.table Settings.defaults).atNames p = some v →
          (Value.table (configuration.getD [])).Misses p → (Value.table s.table).atNames p = some v := by
  refine ⟨fun base override h => ⟨laidOver_overlay h base, Table.overlay_idem h base⟩, ?_⟩
  intro t around configuration s hfile hs
  have hlaid := laidOver_overlay (hasDistinctNames_getD hfile) Settings.defaults
  rw [table_of_settings hfile hs]
  refine ⟨fun key v hv htable => ?_, fun p v hv hmisses => ?_⟩
  · obtain ⟨file, rfl, hat⟩ := exists_atNames_of_configValue hv
    exact hlaid.leaf _ v hat htable
  · obtain ⟨before, n, after, fields, rfl, hfields, hn⟩ := hmisses
    -- the defaults lead on behind `before`, so they have a table there
    have hbelow := hv
    rw [Value.atNames_append] at hbelow
    obtain ⟨lower, hlower, hrest⟩ := Option.bind_eq_some_iff.1 hbelow
    obtain ⟨below, inner, rfl, -, -⟩ := Value.exists_of_atNames_cons hrest
    exact (hlaid.kept before n after fields below hfields hn hlower).trans hv

/-- A working directory with a file that names another module and other directories to leave out. -/
def configuredPlace : Tree where
  top := .dir [("plengi.toml".toList,
    .file (Utf8.encode "[project]\nskip_dirs = [\".git\", \"Pods\"]\n[sdk]\nmodule = \"Loplat\"\n".toList) 0o644)] 0o755
  here := []
  home := []

def plainSurroundings : Surroundings := ⟨[], [], .plenty⟩

def otherModule : Table :=
  [("project".toList, .table [("skip_dirs".toList, .list [.text ".git".toList, .text "Pods".toList])]),
    ("sdk".toList, .table [("module".toList, .text "Loplat".toList)])]

/-- The module is the file's; how it is called, which stands in the same section, is as by default. -/
theorem layers_leafwise_of_other_module : ∃ s : Settings,
    (Value.table otherModule).HasDistinctNames ∧
    configuredPlace.configuration plainSurroundings = .ok (some otherModule) ∧
    configuredPlace.settings plainSurroundings .null = .ok s ∧
    (∀ default, configValue (some otherModule) "sdk.module".toList default = .text "Loplat".toList) ∧
    (Value.table otherModule).Misses ["sdk".toList, "init_call".toList] ∧
    (Settings.defaults.overlay otherModule).overlay otherModule = Settings.defaults.overlay otherModule ∧
    (Value.table s.table).atNames ["sdk".toList, "module".toList] = some (.text "Loplat".toList) ∧
    (Value.table s.table).atNames ["sdk".toList, "init_call".toList] = some (.text "Plengi.initialize".toList) := by
  have hfile : configuredPlace.configuration plainSurroundings = .ok (some otherModule) := by cbv
  have hsettings : (configuredPlace.settings plainSurroundings .null).toOption.isSome = true := by decide +kernel
  obtain ⟨s, hs⟩ := Option.isSome_iff_exists.1 hsettings
  have hs := Except.of_toOption_eq_some hs
  have hdistinct := Tree.hasDistinctNames_of_configuration hfile
  have hvalue : ∀ default, configValue (some otherModule) "sdk.module".toList default = .text "Loplat".toList :=
    fun _ => rfl
  have hmisses : (Value.table otherModule).Misses ["sdk".toList, "init_call".toList] :=
    ⟨["sdk".toList], "init_call".toList, [], _, rfl, rfl, rfl⟩
  obtain ⟨hlayers, hrun⟩ := layers_leafwise
  obtain ⟨hheld, hdefault⟩ := hrun configuredPlace plainSurroundings (some otherModule) s hfile hs
  exact ⟨s, hdistinct, hfile, hs, hvalue, hmisses, (hlayers Settings.defaults otherModule hdistinct).2,
    hheld _ _ hvalue rfl, hdefault _ _ rfl hmisses⟩

end SdkGraft
