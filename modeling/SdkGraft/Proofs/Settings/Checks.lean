import SdkGraft.Proofs.Bind
import SdkGraft.Settings.Basic

/-!
# What the checks of settings let through and what they tell

* `IsReadFrom`, `IsSound` : settings that say what a table says, and that pass the checks;
* `check_eq_ok_iff` : exactly these come of a check;
* `Untold` : a table whose check ends with a fault that is no problem of the configuration;
* `check_eq_error_iff` : exactly so do these;
* `Layers`, `Escapes`, `layered_eq_ok_iff` : the same for layers that are laid over one another;
* `ofLayers_answers` : how reading the settings ends, whatever the layers hold.
-/

namespace SdkGraft.Settings

variable {stack : Stack} {showing copying : Nat} {t : Table} {s : Settings} {f : Fault}

/-! ## What passes -/

/-- The settings are those that the table holds, to be shown up to some depth. -/
structure IsReadFrom (s : Settings) (showing : Nat) (t : Table) : Prop where
  table : s.table = t
  sdk : t.get? "sdk".toList = some (.table s.sdk)
  moduleName : s.sdk.get? "module".toList = some (.text s.moduleName)
  initCall : s.sdk.get? "init_call".toList = some (.text s.initCall)
  project : ∃ project : Table, t.get? "project".toList = some (.table project) ∧
    project.get? "bundle_suffixes".toList = some (.list (s.bundleSuffixes.map .text)) ∧
    project.get? "skip_dirs".toList = some (.list (s.skipDirs.map .text))
  entryPoint : t.get? "entry_point".toList = some (.table (s.entryPoint.map fun e => (e.1, .text e.2)))
  editing : s.editing = (t.get? "editing".toList).getD .null
  showing : s.showing = showing

/-- There is a bundle ending, every one begins with a dot, and all other texts have something in them. -/
structure IsSound (s : Settings) : Prop where
  moduleName : Text.isAllBlank s.moduleName = false
  initCall : Text.isAllBlank s.initCall = false
  bundleSuffixes : s.bundleSuffixes ≠ []
  dotted : ∀ e ∈ s.bundleSuffixes, e.head? = some '.'
  skipDirs : ∀ name ∈ s.skipDirs, Text.isAllBlank name = false
  entryPoint : ∀ e ∈ s.entryPoint, Text.isAllBlank e.2 = false

/-! ## The single checks -/

theorem section?_eq_ok_iff {name : Text} {fields : Table} : section? t name = .ok fields ↔
    t.get? name = some (.table fields) := by
  rw [section?]
  cases t.get? name with
  | none => simp
  | some v => cases v <;> simp [Value.table?]

theorem section?_eq_error_iff {name : Text} : section? t name = .error f ↔
    f = .notATable ∧ ∀ fields, t.get? name ≠ some (.table fields) := by
  rw [section?]
  cases t.get? name with
  | none => simp [eq_comm]
  | some v => cases v <;> simp [Value.table?, eq_comm]

theorem checkText_eq_ok_iff {part key text : Text} {v : Option Value} :
    checkText part key v = .ok text ↔ v = some (.text text) ∧ Text.isAllBlank text = false := by
  unfold checkText
  split
  · split
    · rename_i hblank
      constructor
      · intro h
        cases h
      · rintro ⟨h, hfilled⟩
        cases h
        rw [hblank] at hfilled
        cases hfilled
    · rename_i hfilled
      constructor
      · intro h
        cases h
        exact ⟨rfl, Bool.eq_false_iff.2 hfilled⟩
      · rintro ⟨h, -⟩
        cases h
        rfl
  · rename_i hother
    constructor
    · intro h
      cases h
    · rintro ⟨rfl, -⟩
      exact absurd rfl (hother text)

/-- A setting without a text is a problem that is told. -/
theorem problem_of_checkText {part key : Text} {v : Option Value} (h : checkText part key v = .error f) :
    ∃ p, f = .config p := by
  unfold checkText at h
  split at h
  · split at h <;> cases h
    exact ⟨_, rfl⟩
  · cases h
    exact ⟨_, rfl⟩

theorem checkSuffix_eq_ok_iff (v : Value) (ending : Text) :
    checkSuffix showing v = .ok ending ↔ v = .text ending ∧ ending.head? = some '.' := by
  cases v with
  | text t =>
    rw [checkSuffix]
    split
    · rename_i hdot
      simp only [Except.ok.injEq, Value.text.injEq]
      exact ⟨fun h => ⟨h, h ▸ hdot⟩, fun h => h.1⟩
    · rename_i hdot
      simp only [reduceCtorEq, Value.text.injEq, false_iff, not_and]
      rintro rfl
      exact hdot
  | _ =>
    unfold checkSuffix
    simp only
    split <;> simp

theorem checkSuffix_of_not_text {v : Value} (h : v.text? = none) :
    checkSuffix showing v = .error (((v.showFault? showing).map Value.ShowFault.fault).getD
      (.config (.suffixWithoutDot v))) := by
  cases v with
  | text t => cases h
  | _ =>
    simp only [checkSuffix]
    split <;> rename_i hshow <;> rw [hshow] <;> rfl

theorem checkSuffix_untold_iff (v : Value) (hf : ∀ p, f ≠ .config p) :
    checkSuffix showing v = .error f ↔ ∃ fault, v.showFault? showing = some fault ∧ f = fault.fault := by
  cases htext : v.text? with
  | none =>
    rw [checkSuffix_of_not_text htext]
    cases v.showFault? showing with
    | none => simpa using (hf _).symm
    | some fault => simp [eq_comm]
  | some t =>
    cases v with
    | text t =>
      have hshow : (Value.text t).showFault? showing = none := rfl
      rw [checkSuffix, hshow]
      simp only [reduceCtorEq, false_and, exists_false, iff_false]
      split
      · simp
      · simpa using (hf _).symm
    | _ => cases htext

theorem checkSuffixes_eq_ok_iff {v : Option Value} {endings : List Text} :
    checkSuffixes showing v = .ok endings ↔
      v = some (.list (endings.map .text)) ∧ endings ≠ [] ∧ ∀ e ∈ endings, e.head? = some '.' := by
  unfold checkSuffixes
  split
  · rename_i first rest
    rw [Except.mapM_eq_ok_iff checkSuffix_eq_ok_iff, Option.some.injEq, Value.list.injEq]
    refine and_congr_right fun h => (and_iff_right ?_).symm
    rintro rfl
    cases h
  · rename_i hother
    simp only [reduceCtorEq, false_iff, not_and]
    rintro rfl hne
    obtain ⟨e, endings, rfl⟩ := List.exists_cons_of_ne_nil hne
    exact absurd rfl (hother _ _)

theorem checkSuffixes_untold_iff {v : Option Value} (hf : ∀ p, f ≠ .config p) :
    checkSuffixes showing v = .error f ↔ ∃ before w after fault, v = some (.list (before ++ w :: after)) ∧
      (∀ x ∈ before, ∃ e : Text, x = .text e ∧ e.head? = some '.') ∧ w.showFault? showing = some fault ∧
      f = fault.fault := by
  unfold checkSuffixes
  split
  · rw [Except.mapM_eq_error_iff]
    simp only [checkSuffix_eq_ok_iff, checkSuffix_untold_iff _ hf, Option.some.injEq, Value.list.injEq]
    constructor
    · rintro ⟨before, w, after, hitems, hbefore, fault, hw, rfl⟩
      exact ⟨before, w, after, fault, hitems, hbefore, hw, rfl⟩
    · rintro ⟨before, w, after, fault, hitems, hbefore, hw, rfl⟩
      exact ⟨before, w, after, hitems, hbefore, fault, hw, rfl⟩
  · rename_i hother
    constructor
    · intro h
      cases h
      exact absurd rfl (hf _)
    · rintro ⟨before, w, after, fault, rfl, -⟩
      cases before with
      | nil => exact absurd rfl (hother _ _)
      | cons x before => exact absurd rfl (hother _ _)

theorem mapM_name?_eq_some_iff {items : List Value} {names : List Text} :
    items.mapM name? = some names ↔
      items = names.map .text ∧ ∀ name ∈ names, Text.isAllBlank name = false := by
  induction items generalizing names with
  | nil => cases names <;> simp
  | cons v items ih =>
    rw [List.mapM_cons, Option.bind_eq_bind, Option.bind_eq_some_iff]
    simp only [Option.bind_eq_bind, Option.bind_eq_some_iff, ih]
    constructor
    · rintro ⟨name, hname, names, ⟨rfl, hnames⟩, h⟩
      cases h
      unfold name? at hname
      split at hname
      · split at hname <;> cases hname
        exact ⟨rfl, List.forall_mem_cons.2 ⟨Bool.eq_false_iff.2 ‹_›, hnames⟩⟩
      · cases hname
    · rintro ⟨h, hnames⟩
      cases names with
      | nil => cases h
      | cons name names =>
        obtain ⟨rfl, rfl⟩ := List.cons.inj h
        obtain ⟨hname, hnames⟩ := List.forall_mem_cons.1 hnames
        refine ⟨name, ?_, names, ⟨rfl, hnames⟩, rfl⟩
        rw [name?, hname]
        rfl

theorem checkSkipDirs_eq_ok_iff {v : Option Value} {names : List Text} :
    checkSkipDirs v = .ok names ↔
      v = some (.list (names.map .text)) ∧ ∀ name ∈ names, Text.isAllBlank name = false := by
  unfold checkSkipDirs
  constructor
  · intro h
    split at h
    · rename_i found hfound
      cases h
      obtain ⟨items, hitems, hnames⟩ := Option.bind_eq_some_iff.1 hfound
      obtain ⟨v, rfl, hlist⟩ := Option.bind_eq_some_iff.1 hitems
      obtain ⟨rfl, hfilled⟩ := mapM_name?_eq_some_iff.1 hnames
      cases v with
      | list items =>
        cases hlist
        exact ⟨rfl, hfilled⟩
      | _ => cases hlist
    · cases h
  · rintro ⟨rfl, hfilled⟩
    rw [Option.bind_some, Value.list?, Option.bind_some, mapM_name?_eq_some_iff.2 ⟨rfl, hfilled⟩]

theorem problem_of_checkSkipDirs {v : Option Value} (h : checkSkipDirs v = .error f) : ∃ p, f = .config p := by
  unfold checkSkipDirs at h
  split at h
  · cases h
  · cases h
    exact ⟨_, rfl⟩

theorem checkEntry_eq_ok_iff (e : Text × Value) (entry : Text × Text) :
    checkEntry e = .ok entry ↔ e = (entry.1, .text entry.2) ∧ Text.isAllBlank entry.2 = false := by
  unfold checkEntry
  constructor
  · intro h
    obtain ⟨text, htext, rfl⟩ := Except.exists_of_map_eq_ok h
    obtain ⟨hv, hfilled⟩ := checkText_eq_ok_iff.1 htext
    exact ⟨Prod.ext rfl (Option.some.inj hv), hfilled⟩
  · rintro ⟨rfl, hfilled⟩
    rw [checkText_eq_ok_iff.2 ⟨rfl, hfilled⟩]
    rfl

theorem problem_of_checkEntries {entries : Table} (h : entries.mapM checkEntry = .error f) :
    ∃ p, f = .config p := by
  obtain ⟨_, e, _, -, -, he⟩ := Except.mapM_eq_error_iff.1 h
  unfold checkEntry at he
  cases htext : checkText "entry_point".toList e.1 (some e.2) with
  | ok text =>
    rw [htext] at he
    cases he
  | error f' =>
    rw [htext] at he
    cases he
    exact problem_of_checkText htext

/-! ## All checks -/

/-- The checks let exactly the sound settings of a table through. -/
theorem check_eq_ok_iff : check showing t = .ok s ↔ s.IsReadFrom showing t ∧ s.IsSound := by
  unfold check
  simp only [Except.bind_eq_ok_iff, section?_eq_ok_iff, checkText_eq_ok_iff, checkSuffixes_eq_ok_iff,
    checkSkipDirs_eq_ok_iff, Except.mapM_eq_ok_iff checkEntry_eq_ok_iff]
  constructor
  · rintro ⟨sdk, hsdk, moduleName, ⟨hmodule, hmodule'⟩, initCall, ⟨hinit, hinit'⟩, project, hproject, endings,
      ⟨hendings, hne, hdotted⟩, names, ⟨hnames, hnames'⟩, entries, hentries, entryPoint, ⟨rfl, hfilled⟩, h⟩
    cases h
    exact ⟨⟨rfl, hsdk, hmodule, hinit, ⟨project, hproject, hendings, hnames⟩, hentries, rfl, rfl⟩,
      ⟨hmodule', hinit', hne, hdotted, hnames', hfilled⟩⟩
  · rintro ⟨hread, hsound⟩
    obtain ⟨project, hproject, hendings, hnames⟩ := hread.project
    refine ⟨s.sdk, hread.sdk, s.moduleName, ⟨hread.moduleName, hsound.moduleName⟩, s.initCall,
      ⟨hread.initCall, hsound.initCall⟩, project, hproject, s.bundleSuffixes,
      ⟨hendings, hsound.bundleSuffixes, hsound.dotted⟩, s.skipDirs, ⟨hnames, hsound.skipDirs⟩, _, hread.entryPoint,
      s.entryPoint, ⟨rfl, hsound.entryPoint⟩, ?_⟩
    rw [← hread.editing, ← hread.table, ← hread.showing]
    rfl

/-! ## Faults that are not told -/

/-- The section on the library is a table and names the library. -/
def NamesLibrary (t : Table) : Prop :=
  ∃ (sdk : Table) (moduleName initCall : Text), t.get? "sdk".toList = some (.table sdk) ∧
    sdk.get? "module".toList = some (.text moduleName) ∧ Text.isAllBlank moduleName = false ∧
    sdk.get? "init_call".toList = some (.text initCall) ∧ Text.isAllBlank initCall = false

def NamesExclusions (t : Table) : Prop :=
  ∃ (project : Table) (endings names : List Text), t.get? "project".toList = some (.table project) ∧
    project.get? "bundle_suffixes".toList = some (.list (endings.map .text)) ∧ endings ≠ [] ∧
    (∀ e ∈ endings, e.head? = some '.') ∧
    project.get? "skip_dirs".toList = some (.list (names.map .text)) ∧
    ∀ name ∈ names, Text.isAllBlank name = false

/-- What is wrong with the table is not told as a problem of the configuration: a section is no table, or an ending
is refused that no message can hold. What stands before it is in order. -/
inductive Untold (showing : Nat) (t : Table) : Fault → Prop where
  | sdk (h : ∀ fields, t.get? "sdk".toList ≠ some (.table fields)) : Untold showing t .notATable
  | project (hsdk : NamesLibrary t) (h : ∀ fields, t.get? "project".toList ≠ some (.table fields)) :
      Untold showing t .notATable
  | ending (hsdk : NamesLibrary t) {project : Table} (hproject : t.get? "project".toList = some (.table project))
      {before : List Value} {v : Value} {after : List Value}
      (hendings : project.get? "bundle_suffixes".toList = some (.list (before ++ v :: after)))
      (hbefore : ∀ x ∈ before, ∃ e : Text, x = .text e ∧ e.head? = some '.') {fault : Value.ShowFault}
      (hv : v.showFault? showing = some fault) : Untold showing t fault.fault
  | entryPoint (hsdk : NamesLibrary t) (hproject : NamesExclusions t)
      (h : ∀ fields, t.get? "entry_point".toList ≠ some (.table fields)) : Untold showing t .notATable

/-- Every other fault of a check is a problem that is told. -/
theorem check_eq_error_iff (hf : ∀ p, f ≠ .config p) : check showing t = .error f ↔ Untold showing t f := by
  have htold : ∀ {P : Prop}, (P → ∃ p, f = .config p) → ¬ P := fun h hP => (h hP).elim hf
  unfold check
  simp only [Except.bind_eq_error_iff, section?_eq_ok_iff, section?_eq_error_iff, checkText_eq_ok_iff,
    checkSuffixes_eq_ok_iff, checkSuffixes_untold_iff hf, checkSkipDirs_eq_ok_iff,
    htold problem_of_checkText, htold problem_of_checkSkipDirs, htold problem_of_checkEntries, false_or]
  constructor
  · rintro (⟨rfl, h⟩ | ⟨sdk, hsdk, moduleName, ⟨hmodule, hmodule'⟩, initCall, ⟨hinit, hinit'⟩, hrest⟩)
    · exact .sdk h
    have hlibrary : NamesLibrary t := ⟨sdk, moduleName, initCall, hsdk, hmodule, hmodule', hinit, hinit'⟩
    rcases hrest with ⟨rfl, h⟩ | ⟨project, hproject, hrest⟩
    · exact .project hlibrary h
    rcases hrest with ⟨before, v, after, fault, hendings, hbefore, hv, rfl⟩ |
      ⟨endings, ⟨hendings, hne, hdotted⟩, names, ⟨hnames, hfilled⟩, hrest⟩
    · exact .ending hlibrary hproject hendings hbefore hv
    rcases hrest with ⟨rfl, h⟩ | ⟨entries, -, entryPoint, -, hdone⟩
    · exact .entryPoint hlibrary ⟨project, endings, names, hproject, hendings, hne, hdotted, hnames, hfilled⟩ h
    · cases hdone
  · intro h
    cases h with
    | sdk h => exact .inl ⟨rfl, h⟩
    | project hsdk h =>
      obtain ⟨sdk, moduleName, initCall, hsdk, hmodule, hmodule', hinit, hinit'⟩ := hsdk
      exact .inr ⟨sdk, hsdk, moduleName, ⟨hmodule, hmodule'⟩, initCall, ⟨hinit, hinit'⟩, .inl ⟨rfl, h⟩⟩
    | ending hsdk hproject hendings hbefore hv =>
      obtain ⟨sdk, moduleName, initCall, hsdk, hmodule, hmodule', hinit, hinit'⟩ := hsdk
      exact .inr ⟨sdk, hsdk, moduleName, ⟨hmodule, hmodule'⟩, initCall, ⟨hinit, hinit'⟩,
        .inr ⟨_, hproject, .inl ⟨_, _, _, _, hendings, hbefore, hv, rfl⟩⟩⟩
    | entryPoint hsdk hproject h =>
      obtain ⟨sdk, moduleName, initCall, hsdk, hmodule, hmodule', hinit, hinit'⟩ := hsdk
      obtain ⟨project, endings, names, hproject, hendings, hne, hdotted, hnames, hfilled⟩ := hproject
      exact .inr ⟨sdk, hsdk, moduleName, ⟨hmodule, hmodule'⟩, initCall, ⟨hinit, hinit'⟩, .inr ⟨project, hproject,
        .inr ⟨endings, ⟨hendings, hne, hdotted⟩, names, ⟨hnames, hfilled⟩, .inl ⟨rfl, h⟩⟩⟩⟩

/-! ## Layers -/

def configured (file : Option Table) : Table := defaults.overlay (file.getD [])

/-- The table that the layers come to: what a caller gives lies on top, unless it counts as not given. A table that
something is laid over is not too deep to be copied. -/
inductive Layers (copying : Nat) (file : Option Table) : Value → Table → Prop where
  | alone {overrides : Value} (hdefaults : (Value.table defaults).depth ≤ copying) (h : overrides.isSet = false) :
      Layers copying file overrides (configured file)
  | overridden {fields : Table} (hdefaults : (Value.table defaults).depth ≤ copying) (h : fields ≠ [])
      (hdepth : (Value.table (configured file)).depth ≤ copying) :
      Layers copying file (.table fields) ((configured file).overlay fields)

/-- Reading the layers ends with a fault that is no problem of the configuration: too many values stand in one
another to lay something over them, what is to be laid over them is no table, or so it is with the table that they
come to. -/
inductive Escapes (stack : Stack) (file : Option Table) (overrides : Value) : Fault → Prop where
  | defaultsTooDeep (h : stack.copying < (Value.table defaults).depth) : Escapes stack file overrides .tooDeep
  | tooDeep (hset : overrides.isSet = true) (h : stack.copying < (Value.table (configured file)).depth) :
      Escapes stack file overrides .tooDeep
  | notATable (hdefaults : (Value.table defaults).depth ≤ stack.copying) (hset : overrides.isSet = true)
      (hdepth : (Value.table (configured file)).depth ≤ stack.copying) (h : overrides.table? = none) :
      Escapes stack file overrides .notATable
  | untold {t : Table} (ht : Layers stack.copying file overrides t) {f : Fault} (h : Untold stack.showing t f) :
      Escapes stack file overrides f

theorem merged_eq_ok_iff {base : Table} {override : Value} : merged copying base override = .ok t ↔
    (Value.table base).depth ≤ copying ∧ ∃ fields, override = .table fields ∧ t = base.overlay fields := by
  unfold merged
  split
  · rename_i hdepth
    simp [Nat.not_le.2 hdepth]
  · rename_i hdepth
    cases override <;> simp [Nat.not_lt.1 hdepth, eq_comm]

theorem merged_eq_error_iff {base : Table} {override : Value} : merged copying base override = .error f ↔
    (f = .tooDeep ∧ copying < (Value.table base).depth) ∨
      f = .notATable ∧ (Value.table base).depth ≤ copying ∧ override.table? = none := by
  unfold merged
  split
  · rename_i hdepth
    simp [hdepth, Nat.not_le.2 hdepth, eq_comm]
  · rename_i hdepth
    cases override <;> simp [hdepth, Nat.not_lt.1 hdepth, Value.table?, eq_comm]

theorem isSet_table {fields : Table} : (Value.table fields).isSet = true ↔ fields ≠ [] := by
  rw [Value.isSet, Bool.not_eq_true', List.isEmpty_eq_false_iff]

theorem layered_eq_ok_iff {file : Option Table} {overrides : Value} :
    layered copying file overrides = .ok t ↔ Layers copying file overrides t := by
  rw [layered, Except.bind_eq_ok_iff]
  simp only [merged_eq_ok_iff, Value.table.injEq]
  constructor
  · rintro ⟨_, ⟨hdefaults, _, rfl, rfl⟩, h⟩
    split at h
    · rename_i hset
      obtain ⟨hdepth, fields, rfl, rfl⟩ := merged_eq_ok_iff.1 h
      exact .overridden hdefaults (isSet_table.1 hset) hdepth
    · rename_i hset
      cases h
      exact .alone hdefaults (Bool.eq_false_iff.2 hset)
  · intro h
    refine ⟨configured file, ?_, ?_⟩
    · cases h <;> exact ⟨‹_›, _, rfl, rfl⟩
    · cases h with
      | alone _ h =>
        rw [h]
        rfl
      | overridden _ h hdepth =>
        rw [if_pos (isSet_table.2 h)]
        exact merged_eq_ok_iff.2 ⟨hdepth, _, rfl, rfl⟩

theorem layered_eq_error_iff {file : Option Table} {overrides : Value} :
    layered copying file overrides = .error f ↔
      (f = .tooDeep ∧ copying < (Value.table defaults).depth) ∨
        (Value.table defaults).depth ≤ copying ∧ overrides.isSet = true ∧
          (f = .tooDeep ∧ copying < (Value.table (configured file)).depth ∨
            f = .notATable ∧ (Value.table (configured file)).depth ≤ copying ∧ overrides.table? = none) := by
  have hfirst : merged copying defaults (.table (file.getD [])) = .error f ↔
      f = .tooDeep ∧ copying < (Value.table defaults).depth := by
    rw [merged_eq_error_iff]
    simp [Value.table?]
  rw [layered, Except.bind_eq_error_iff, hfirst]
  refine or_congr_right ⟨?_, ?_⟩
  · rintro ⟨_, hdone, h⟩
    obtain ⟨hdefaults, _, hfields, rfl⟩ := merged_eq_ok_iff.1 hdone
    cases hfields
    split at h
    · exact ⟨hdefaults, ‹_›, merged_eq_error_iff.1 h⟩
    · cases h
  · rintro ⟨hdefaults, hset, h⟩
    refine ⟨configured file, merged_eq_ok_iff.2 ⟨hdefaults, _, rfl, rfl⟩, ?_⟩
    rw [if_pos hset]
    exact merged_eq_error_iff.2 h

theorem Untold.ne_config (h : Untold showing t f) (p : ConfigProblem) : f ≠ .config p := by
  cases h with
  | ending => exact Value.ShowFault.fault_ne_config _ p
  | _ => exact fun h => by cases h

theorem Escapes.ne_config {file : Option Table} {overrides : Value} (h : Escapes stack file overrides f)
    (p : ConfigProblem) : f ≠ .config p := by
  cases h with
  | untold _ h => exact h.ne_config p
  | _ => exact fun h => by cases h

theorem ofLayers_eq_ok_iff {file : Option Table} {overrides : Value} : ofLayers stack file overrides = .ok s ↔
    ∃ t, Layers stack.copying file overrides t ∧ s.IsReadFrom stack.showing t ∧ s.IsSound := by
  rw [ofLayers, Except.bind_eq_ok_iff]
  simp only [layered_eq_ok_iff, check_eq_ok_iff]

theorem ofLayers_eq_error_iff {file : Option Table} {overrides : Value} (hf : ∀ p, f ≠ .config p) :
    ofLayers stack file overrides = .error f ↔ Escapes stack file overrides f := by
  rw [ofLayers, Except.bind_eq_error_iff, layered_eq_error_iff]
  simp only [layered_eq_ok_iff, check_eq_error_iff hf]
  constructor
  · rintro ((⟨rfl, hdefaults⟩ | ⟨hdefaults, hset, ⟨rfl, hdepth⟩ | ⟨rfl, hdepth, htable⟩⟩) | ⟨t, ht, huntold⟩)
    · exact .defaultsTooDeep hdefaults
    · exact .tooDeep hset hdepth
    · exact .notATable hdefaults hset hdepth htable
    · exact .untold ht huntold
  · intro h
    cases h with
    | defaultsTooDeep h => exact .inl (.inl ⟨rfl, h⟩)
    | tooDeep hset hdepth =>
      by_cases hdefaults : stack.copying < (Value.table defaults).depth
      · exact .inl (.inl ⟨rfl, hdefaults⟩)
      · exact .inl (.inr ⟨Nat.not_lt.1 hdefaults, hset, .inl ⟨rfl, hdepth⟩⟩)
    | notATable hdefaults hset hdepth htable => exact .inl (.inr ⟨hdefaults, hset, .inr ⟨rfl, hdepth, htable⟩⟩)
    | untold ht huntold => exact .inr ⟨_, ht, huntold⟩

/-- Reading the settings gives exactly the sound settings of the table that the layers come to. Otherwise it tells a
problem of the configuration, unless the layers are such that another fault escapes; then it ends with that fault. -/
theorem ofLayers_answers (stack : Stack) (file : Option Table) (overrides : Value) :
    (∀ s, ofLayers stack file overrides = .ok s ↔
      ∃ t, Layers stack.copying file overrides t ∧ s.IsReadFrom stack.showing t ∧ s.IsSound) ∧
    (∀ f, (∀ p, f ≠ .config p) → (ofLayers stack file overrides = .error f ↔ Escapes stack file overrides f)) ∧
    (((∃ s, ofLayers stack file overrides = .ok s) ∨ ∃ p, ofLayers stack file overrides = .error (.config p)) ↔
      ¬ ∃ f, Escapes stack file overrides f) := by
  refine ⟨fun s => ofLayers_eq_ok_iff, fun f hf => ofLayers_eq_error_iff hf, ?_⟩
  constructor
  · rintro hanswer ⟨f, hescapes⟩
    have hfault := (ofLayers_eq_error_iff hescapes.ne_config).2 hescapes
    rcases hanswer with ⟨s, hs⟩ | ⟨p, hp⟩
    · rw [hs] at hfault
      cases hfault
    · rw [hp] at hfault
      exact hescapes.ne_config p (Except.error.inj hfault).symm
  · intro hnone
    cases hdone : ofLayers stack file overrides with
    | ok s => exact .inl ⟨s, rfl⟩
    | error f =>
      by_cases htold : ∃ p, f = .config p
      · obtain ⟨p, rfl⟩ := htold
        exact .inr ⟨p, rfl⟩
      · exact absurd ⟨f, (ofLayers_eq_error_iff fun p hp => htold ⟨p, hp⟩).1 hdone⟩ hnone

/-- A file whose second bundle ending is a number that no message can hold. -/
def longEnding : Table :=
  [("project".toList, .table [("bundle_suffixes".toList,
    .list [.text ".xcodeproj".toList, .int (.ofNat (Nat.pow 10 Value.mostDigits))])])]

/-- Such an ending is no problem that is told. -/
theorem ofLayers_answers_of_long_ending :
    (∀ p, Fault.tooManyDigits ≠ .config p) ∧
      ofLayers .plenty (some longEnding) .null = .error .tooManyDigits := by
  have hf : ∀ p, Fault.tooManyDigits ≠ .config p := fun p hp => by cases hp
  refine ⟨hf, ((ofLayers_answers .plenty (some longEnding) .null).2.1 .tooManyDigits hf).2
    (.untold (.alone (by decide) rfl) ?_)⟩
  have hlibrary : NamesLibrary (configured (some longEnding)) := ⟨_, _, _, rfl, rfl, rfl, rfl, rfl⟩
  refine @Untold.ending _ _ hlibrary _ rfl [.text ".xcodeproj".toList] _ [] rfl ?_ .tooManyDigits (by decide +kernel)
  exact List.forall_mem_singleton.2 ⟨_, rfl, rfl⟩

/-- A number in the place of the section on the library is no problem that is told. -/
theorem ofLayers_of_number_for_section :
    ofLayers .plenty none (.table [("sdk".toList, .int 5)]) = .error .notATable := rfl

end SdkGraft.Settings
