import SdkGraft.Proofs.Ignore.Names
import SdkGraft.Proofs.Install.Contents
import SdkGraft.Proofs.Settings.Checks
import SdkGraft.Proofs.Value.Overlay

/-!
# What settings have to say to be of use

* `HasUsableExclusions`, `CanEdit`, `CanInsert` : what a walk, an edit and an insertion need of settings;
* `exists_exclusions_iff`, `exists_editor_iff`, `canInsert_iff` : they need that and no more;
* `IsUsable` : settings that have all of it;
* `isUsable_iff_of_no_file` : which settings do that a caller alone gives.
-/

namespace SdkGraft.Settings

variable {stack : Stack} {s : Settings}

/-! ## What is needed -/

def Has (s : Settings) (key : Text) : Prop := ∃ text, s.entry key = .ok text

/-- No ending is a dot alone, and the line of every exclusion is one that patterns are read from. -/
structure HasUsableExclusions (s : Settings) : Prop where
  endings : ['.'] ∉ s.bundleSuffixes
  lines : ∀ line ∈ s.skipDirs.map Ignore.skipDirPattern ++ s.bundleSuffixes.map Ignore.suffixPattern,
    ∃ found, Ignore.Pattern.parse? line = .ok found

def patternKeys : List Text :=
  ["delegate_keyword".toList, "launch_options".toList, "root_marker".toList, "root_type_keyword".toList,
    "root_type_fragment".toList]

/-- Everything is said that an edit goes by. -/
structure CanEdit (s : Settings) : Prop where
  answer : ∃ v, s.sdk.get? "success_case".toList = some v
  preserve : ∃ v, s.editingSetting "preserve_line_endings".toList = .ok v
  indent : ∃ v, s.editingSetting "default_indent".toList = .ok v
  patterns : ∀ key ∈ patternKeys, s.Has key

/-- The answer that means success can be written into code, and the unit of indentation of the lines is known. -/
structure CanInsert (s : Settings) (lines : List Text) : Prop where
  answer : ∃ v, s.sdk.get? "success_case".toList = some v ∧ v.showFault? s.showing = none
  indent : Source.detectUnit lines = none → ∃ unit, s.editingSetting "default_indent".toList = .ok (.text unit)

/-! ## It is enough -/

theorem length_of_dotted {ending : Text} (h : ending.head? = some '.') : 2 ≤ ending.length ↔ ending ≠ ['.'] := by
  match ending with
  | [] => cases h
  | [c] =>
    cases h
    simp
  | c :: d :: ending => simp

theorem exists_exclusions_iff (hs : s.IsSound) : (∃ spec, s.exclusions = .ok spec) ↔ s.HasUsableExclusions := by
  have hspec : (∃ spec, s.exclusions = .ok spec) ↔ ∃ spec,
      Ignore.exclusions (.list (s.skipDirs.map .text)) (.list (s.bundleSuffixes.map .text)) = .ok spec := by
    rw [exclusions]
    cases Ignore.exclusions (.list (s.skipDirs.map .text)) (.list (s.bundleSuffixes.map .text)) with
    | error f => simp [Except.mapError]
    | ok spec => simp [Except.mapError]
  rw [hspec, Ignore.exists_exclusions_iff]
  constructor
  · rintro ⟨names, endings, hnames, hendings, hlines⟩
    cases Ignore.map_text_inj.1 (Ignore.checkSkipDirs_eq_ok_iff.1 hnames).1
    obtain ⟨hlist, hdotted⟩ := Ignore.checkSuffixes_eq_ok_iff.1 hendings
    cases Ignore.map_text_inj.1 hlist
    exact ⟨fun hdot => absurd (hdotted _ hdot).2 (by decide), hlines⟩
  · rintro ⟨hendings, hlines⟩
    refine ⟨s.skipDirs, s.bundleSuffixes, Ignore.checkSkipDirs_eq_ok_iff.2 ⟨rfl, hs.skipDirs⟩,
      Ignore.checkSuffixes_eq_ok_iff.2 ⟨rfl, fun e he => ⟨hs.dotted e he, ?_⟩⟩, hlines⟩
    exact (length_of_dotted (hs.dotted e he)).2 fun hdot => hendings (hdot ▸ he)

theorem exists_editor_iff : (∃ e, s.editor = .ok e) ↔ s.CanEdit := by
  constructor
  · rintro ⟨e, he⟩
    have hstates := states_of_editor he
    obtain ⟨v, hanswer, -⟩ := hstates.answer
    obtain ⟨preserve, hpreserve, -⟩ := hstates.preserve
    obtain ⟨indent, hindent, -⟩ := hstates.indent
    refine ⟨⟨v, hanswer⟩, ⟨preserve, hpreserve⟩, ⟨indent, hindent⟩, ?_⟩
    obtain ⟨_, -, he⟩ := Except.exists_of_bind_eq_ok he
    obtain ⟨_, hpatterns, -⟩ := Except.exists_of_bind_eq_ok he
    simp only [patterns, Except.bind_eq_ok_iff] at hpatterns
    obtain ⟨keyword, hkeyword, options, hoptions, marker, hmarker, type, htype, fragment, hfragment, -⟩ := hpatterns
    simp only [patternKeys, List.forall_mem_cons]
    exact ⟨⟨_, hkeyword⟩, ⟨_, hoptions⟩, ⟨_, hmarker⟩, ⟨_, htype⟩, ⟨_, hfragment⟩, fun key hkey => by cases hkey⟩
  · rintro ⟨⟨v, hanswer⟩, ⟨preserve, hpreserve⟩, ⟨indent, hindent⟩, hpatterns⟩
    simp only [patternKeys, List.forall_mem_cons] at hpatterns
    obtain ⟨⟨keyword, hkeyword⟩, ⟨options, hoptions⟩, ⟨marker, hmarker⟩, ⟨type, htype⟩, ⟨fragment, hfragment⟩, -⟩ :=
      hpatterns
    have hplan : ∃ plan, s.plan = .ok plan := by
      rw [plan, sdkNames, hanswer]
      simp only
      rw [Except.ok_bind, hpreserve, Except.ok_bind, hindent]
      exact ⟨_, rfl⟩
    have hread : ∃ p, s.patterns = .ok p := by
      rw [patterns, hkeyword, Except.ok_bind, hoptions, Except.ok_bind, rootMarker, hmarker, Except.ok_bind, htype,
        Except.ok_bind, hfragment]
      exact ⟨_, rfl⟩
    obtain ⟨plan, hplan⟩ := hplan
    obtain ⟨p, hread⟩ := hread
    rw [editor, hplan, Except.ok_bind, hread]
    exact ⟨_, rfl⟩

theorem canInsert_iff {e : Editor} (h : s.editor = .ok e) {lines : List Text} :
    s.CanInsert lines ↔ (Source.detectUnit lines).or e.plan.defaultIndent ≠ none ∧ e.plan.isWritable = true := by
  have hstates := states_of_editor h
  obtain ⟨v, hanswer, -, hfault⟩ := hstates.answer
  obtain ⟨w, hindent, hdefault⟩ := hstates.indent
  rw [Source.Plan.isWritable, hfault, hdefault, Option.isNone_iff_eq_none]
  constructor
  · rintro ⟨⟨v', hanswer', hdisplayable⟩, hunit⟩
    rw [hanswer] at hanswer'
    cases hanswer'
    refine ⟨fun hnone => ?_, hdisplayable⟩
    obtain ⟨hdetect, htext⟩ := Option.or_eq_none_iff.1 hnone
    obtain ⟨unit, hunit⟩ := hunit hdetect
    rw [hindent] at hunit
    cases hunit
    cases htext
  · rintro ⟨hsome, hdisplayable⟩
    refine ⟨⟨v, hanswer, hdisplayable⟩, fun hdetect => ?_⟩
    rw [hdetect, Option.none_or] at hsome
    cases w with
    | text unit => exact ⟨unit, hindent⟩
    | _ => exact absurd rfl hsome

/-! ## Usable settings -/

def entryKeys : List Text := "delegate_file".toList :: "source_suffix".toList :: patternKeys

/-- Every exclusion is a pattern, nothing is missing that an installation uses, and the code can be written whatever the
document looks like. -/
structure IsUsable (s : Settings) : Prop where
  exclusions : s.HasUsableExclusions
  entries : ∀ key ∈ entryKeys, s.Has key
  answer : ∃ v, s.sdk.get? "success_case".toList = some v ∧ v.showFault? s.showing = none
  preserve : ∃ v, s.editingSetting "preserve_line_endings".toList = .ok v
  indent : ∃ unit, s.editingSetting "default_indent".toList = .ok (.text unit)

theorem IsUsable.canEdit (h : s.IsUsable) : s.CanEdit where
  answer := h.answer.imp fun _ hv => hv.1
  preserve := h.preserve
  indent := h.indent.imp' _ fun _ hunit => hunit
  patterns key hkey := h.entries key (List.mem_cons_of_mem _ (List.mem_cons_of_mem _ hkey))

theorem IsUsable.canInsert (h : s.IsUsable) (lines : List Text) : s.CanInsert lines := ⟨h.answer, fun _ => h.indent⟩

/-! ## Settings that a caller alone gives -/

theorem editingSetting_eq_ok_iff {key : Text} {v : Value} :
    s.editingSetting key = .ok v ↔ ∃ fields, s.editing = .table fields ∧ Table.get? fields key = some v := by
  rw [editingSetting]
  cases s.editing with
  | table fields =>
    simp only [Value.table.injEq, exists_eq_left']
    cases Table.get? fields key <;> simp
  | _ => simp

theorem get?_map_text (entries : List (Text × Text)) (key : Text) :
    Table.get? (entries.map fun e => (e.1, .text e.2)) key = (entries.lookup key).map .text := by
  induction entries with
  | nil => rfl
  | cons e rest ih =>
    obtain ⟨k, text⟩ := e
    rw [List.map_cons, Table.get?, List.lookup_cons, ih]
    by_cases hk : k = key
    · rw [if_pos hk, hk, beq_self_eq_true]
      rfl
    · rw [if_neg hk, beq_eq_false_iff_ne.2 (Ne.symm hk)]

theorem IsReadFrom.has_iff {showing : Nat} {t : Table} (h : s.IsReadFrom showing t) {entries : Table}
    (hentries : t.get? "entry_point".toList = some (.table entries)) (key : Text) :
    s.Has key ↔ ∃ v, entries.get? key = some v := by
  rw [h.entryPoint] at hentries
  cases hentries
  rw [get?_map_text, Has, entry]
  cases s.entryPoint.lookup key with
  | none => simp
  | some text => simp

theorem exists_of_layers_none {copying : Nat} {overrides : Value} {t : Table} (h : Layers copying none overrides t)
    (hnames : overrides.HasDistinctNames) :
    ∃ fields, (Value.table fields).HasDistinctNames ∧ t = defaults.overlay fields := by
  cases h with
  | alone => exact ⟨[], .empty, rfl⟩
  | @overridden fields => exact ⟨fields, hnames, rfl⟩

/-- Where there is no file, nothing that an installation uses can be missing, but the answer that means success may be
one that cannot be shown, and the unit of indentation may be no text. -/
theorem isUsable_iff_of_no_file {overrides : Value} (hs : ofLayers stack none overrides = .ok s)
    (hnames : overrides.HasDistinctNames) :
    s.IsUsable ↔ s.HasUsableExclusions ∧
      (∀ v, s.sdk.get? "success_case".toList = some v → v.showFault? s.showing = none) ∧
      ∃ unit, s.editingSetting "default_indent".toList = .ok (.text unit) := by
  obtain ⟨t, hlayers, hread, -⟩ := ofLayers_eq_ok_iff.1 hs
  obtain ⟨fields, hfields, rfl⟩ := exists_of_layers_none hlayers hnames
  have hkept : ∀ {name : Text} {b m : Table}, defaults.get? name = some (.table b) →
      (defaults.overlay fields).get? name = some (.table m) → ∀ key, (∃ v, b.get? key = some v) →
        ∃ v, m.get? key = some v := fun hb hm _ => Table.exists_get?_of_overlay hfields hb hm
  obtain ⟨answer, hanswer⟩ := hkept rfl hread.sdk "success_case".toList ⟨_, rfl⟩
  constructor
  · intro h
    refine ⟨h.exclusions, fun v hv => ?_, h.indent⟩
    obtain ⟨v', hv', hdisplayable⟩ := h.answer
    rw [hv] at hv'
    cases hv'
    exact hdisplayable
  · rintro ⟨hexclusions, hdisplayable, unit, hindent⟩
    refine ⟨hexclusions, fun key hkey => ?_, ⟨answer, hanswer, hdisplayable answer hanswer⟩, ?_, unit, hindent⟩
    · refine (hread.has_iff hread.entryPoint key).2 (hkept rfl hread.entryPoint key ?_)
      revert key
      simp only [entryKeys, patternKeys, List.forall_mem_cons]
      exact ⟨⟨_, rfl⟩, ⟨_, rfl⟩, ⟨_, rfl⟩, ⟨_, rfl⟩, ⟨_, rfl⟩, ⟨_, rfl⟩, ⟨_, rfl⟩, fun key hkey => by cases hkey⟩
    · -- the section on editing is a table, for it holds the unit of indentation
      obtain ⟨editing, htable, -⟩ := editingSetting_eq_ok_iff.1 hindent
      have hediting := hread.editing
      rw [htable] at hediting
      cases hget : (defaults.overlay fields).get? "editing".toList with
      | none =>
        rw [hget] at hediting
        cases hediting
      | some v =>
        rw [hget] at hediting
        cases hediting
        obtain ⟨preserve, hpreserve⟩ := hkept rfl hget "preserve_line_endings".toList ⟨_, rfl⟩
        exact ⟨preserve, editingSetting_eq_ok_iff.2 ⟨editing, htable, hpreserve⟩⟩

end SdkGraft.Settings
