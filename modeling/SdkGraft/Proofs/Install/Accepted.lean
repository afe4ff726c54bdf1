import SdkGraft.Proofs.Install.Faults
import SdkGraft.Proofs.Install.Locate
import SdkGraft.Proofs.Install.Stages
import SdkGraft.Proofs.Settings.Usable

/-!
# Installations under settings that are accepted

* `Editor.exists_edit_iff` : when an edit can be worked out;
* `Tree.Suits` : the settings have what an installation in a project gets to use; `Tree.Encodes` : what it is to write
  can be encoded;
* `exists_locate_iff`, `exists_complete_iff` : the search for a file to edit, and the step that edits it, come to their
  end exactly then;
* `install_returns_iff` : which installations end with a report under settings that are accepted.
-/

namespace SdkGraft

/-! ## Edits -/

namespace Editor

variable (e : Editor) (kind : Option Source.EntryKind) (d : Source.Document) (c : Credentials)

theorem exists_edit_iff_graft :
    (∃ done, e.edit kind d c = .ok done) ↔ ∃ done, Source.graft e.plan d (e.target? kind d) c = .ok done := by
  rw [Editor.edit, Source.graftInto]
  cases Source.graft e.plan d (e.target? kind d) c with
  | ok done => exact ⟨fun _ => ⟨done, rfl⟩, fun _ => ⟨_, rfl⟩⟩
  | error f =>
    constructor
    · rintro ⟨_, h⟩
      cases h
    · rintro ⟨_, h⟩
      cases h

/-- An edit can be worked out unless there is a target and no code to put there. -/
theorem exists_edit_iff :
    (∃ done, e.edit kind d c = .ok done) ↔ ∀ target, e.target? kind d = some target →
      (Source.detectUnit d.lines).or e.plan.defaultIndent ≠ none ∧ e.plan.isWritable = true := by
  rw [exists_edit_iff_graft, target?]
  cases hinstalled : Source.isInstalled e.plan.sdk d with
  | true => simp [Source.graft_of_isInstalled hinstalled]
  | false =>
    cases hclassify : Source.classify e.patterns kind d.lines with
    | none =>
      have hgraft : Source.graft e.plan d none c = .ok (d, .nothing .noAnchor) :=
        Source.graft_of_anchorIn?_eq_none hinstalled rfl c
      simp [hgraft]
    | some target =>
      obtain ⟨hstart, hend⟩ := Source.anchor_of_classify hclassify
      have hanchor : target.anchor = (target.anchor.toNat : Nat) := (Int.toNat_of_nonneg hstart).symm
      have hgraft := Source.graft_of_anchor hinstalled hanchor (by omega) c
      simp only [Bool.false_eq_true, if_false, hgraft, Option.some.injEq, forall_eq']
      cases (Source.detectUnit d.lines).or e.plan.defaultIndent with
      | none => simp
      | some unit => cases e.plan.isWritable <;> simp

theorem failsByLooking_edit : FailsByLooking (e.edit kind d c) := by
  rw [Editor.edit, Source.graftInto]
  cases Source.graft e.plan d (e.target? kind d) c with
  | ok done => exact failsByLooking_ok _
  | error f =>
    cases f with
    | indentNotText => exact failsByLooking_error trivial
    | unwritable => exact failsByLooking_error (Value.ShowFault.isOfLooking _)

end Editor

/-! ## Stages -/

namespace Tree

open Install

variable {t : Tree} {s : Settings} {r : Request} {root : Text}

/-- The settings have what an installation in the project gets to use: the search for a file to edit its exclusions and
names, the edit of what is found its own, and an insertion what it writes. -/
structure Suits (t : Tree) (s : Settings) (root : Text) : Prop where
  exclusions : s.HasUsableExclusions
  delegateFile : s.Has "delegate_file".toList
  marked : (∀ path, ¬ t.Located s root ⟨path, .delegateCallback⟩) →
    s.Has "root_marker".toList ∧ s.Has "source_suffix".toList
  edits : ∀ file, t.Located s root file → s.CanEdit
  inserts : ∀ file e d target, t.Located s root file → s.editor = .ok e → t.readDocument file.path = .ok d →
    e.target? (some file.kind) d = some target → s.CanInsert d.lines

/-- The search comes to its end exactly if the settings have what it uses. -/
theorem exists_locate_iff (hs : s.IsSound) (hnull : '\x00' ∉ root) :
    (∃ located, t.locate s root = .ok located) ↔ s.HasUsableExclusions ∧ s.Has "delegate_file".toList ∧
      ((∀ path, ¬ t.Located s root ⟨path, .delegateCallback⟩) →
        s.Has "root_marker".toList ∧ s.Has "source_suffix".toList) := by
  rw [← Settings.exists_exclusions_iff hs]
  constructor
  · rintro ⟨located, h⟩
    rw [locate] at h
    obtain ⟨name, hname, h⟩ := Except.exists_of_bind_eq_ok h
    obtain ⟨path?, hfile, h⟩ := Except.exists_of_bind_eq_ok h
    rw [findFile] at hfile
    obtain ⟨places, hplaces, rfl⟩ := Except.exists_of_map_eq_ok hfile
    obtain ⟨-, spec, hspec, -⟩ := sources_eq_ok_iff.1 hplaces
    refine ⟨⟨spec, hspec⟩, ⟨name, hname⟩, fun hnone => ?_⟩
    cases hfind : places.find? (fun place => place.getLast? == some name) with
    | some place => exact absurd (.delegate hname hplaces hfind) (hnone _)
    | none =>
      rw [hfind, Option.map_none] at h
      obtain ⟨marker, hmarker, h⟩ := Except.exists_of_bind_eq_ok h
      obtain ⟨path?, hpath, -⟩ := Except.exists_of_bind_eq_ok h
      rw [findMarked_eq hmarker] at hpath
      obtain ⟨suffix, hsuffix, -⟩ := Except.exists_of_bind_eq_ok hpath
      exact ⟨⟨marker, hmarker⟩, suffix, hsuffix⟩
  · rintro ⟨⟨spec, hspec⟩, ⟨name, hname⟩, hmarked⟩
    have hplaces : t.sources s root = .ok (t.walk (isLeftOut spec) (Path.tidy root)) :=
      sources_eq_ok_iff.2 ⟨hnull, spec, hspec, rfl⟩
    generalize t.walk (isLeftOut spec) (Path.tidy root) = places at hplaces
    cases hfind : places.find? (fun place => place.getLast? == some name) with
    | some place => exact ⟨_, locate_of_delegate hname hplaces hfind⟩
    | none =>
      have hnone : ∀ path, ¬ t.Located s root ⟨path, .delegateCallback⟩ := by
        rintro path (⟨hname', hplaces', hfind'⟩ | _)
        rw [show s.delegateFile = .ok name from hname] at hname'
        cases hname'
        rw [hplaces] at hplaces'
        cases hplaces'
        rw [hfind] at hfind'
        cases hfind'
      obtain ⟨⟨marker, hmarker⟩, suffix, hsuffix⟩ := hmarked hnone
      exact ⟨_, locate_of_lacksFile hname hplaces hfind hmarker hsuffix⟩

/-- It ends well, or a source file is to blame. -/
def EndsForFile {α : Type} (x : Except Fault α) : Prop := (∃ a, x = .ok a) ∨ ∃ d, x = .error (.document d)

/-- There are bytes for all of a text, or a write of it fails before that matters. -/
def CanEncode (t : Tree) (mishaps : Mishaps) (path text : Text) : Prop :=
  (∀ c ∈ text, mishaps.isLone c = false) ∨ ∃ e, t.create mishaps path = .error e

/-- What an installation writes into the file that it finds can be encoded, if it gets to write something. -/
def Encodes (t : Tree) (mishaps : Mishaps) (s : Settings) (r : Request) (c : Credentials) (root : Text) : Prop :=
  ∀ file e d m, t.Located s root file → s.editor = .ok e → t.edit e file.path (some file.kind) c = .ok (d, m) →
    m.outcome = .inserted → r.dryRun.isSet = false → t.CanEncode mishaps file.path (d.render e.plan.preserveEndings)

theorem endsForFile_writeText_iff {path : Text} (hnull : '\x00' ∉ path) (mishaps : Mishaps) (text : Text) :
    EndsForFile (t.writeText mishaps path text).2 ↔ t.CanEncode mishaps path text := by
  rw [writeText, if_neg (by simpa using hnull), CanEncode]
  split
  · rename_i hlone
    have hnot : ¬ ∀ c ∈ text, mishaps.isLone c = false := by
      obtain ⟨c, hc, hlone⟩ := List.any_eq_true.1 hlone
      intro h
      rw [h c hc] at hlone
      cases hlone
    rw [abandonText]
    cases t.create mishaps path with
    | error e => exact iff_of_true (.inr ⟨_, rfl⟩) (.inr ⟨e, rfl⟩)
    | ok spare =>
      refine iff_of_false ?_ ?_
      · rintro (⟨u, h⟩ | ⟨d, h⟩) <;> cases h
      · rintro (h | ⟨e, h⟩)
        · exact hnot h
        · cases h
  · rename_i hlone
    refine iff_of_true ?_ (.inl fun c hc => ?_)
    · simp only
      cases (t.replaceFile mishaps path (Utf8.encode text)).2 with
      | ok u => exact .inl ⟨u, rfl⟩
      | error f => exact .inr ⟨_, rfl⟩
    · rw [List.any_eq_true, not_exists] at hlone
      exact Bool.eq_false_iff.2 fun h => hlone c ⟨hc, h⟩

theorem endsForFile_readDocument (t : Tree) {path : Text} (hnull : '\x00' ∉ path) :
    EndsForFile (t.readDocument path) := by
  rw [readDocument, if_neg (by simpa using hnull)]
  split
  · exact .inr ⟨_, rfl⟩
  split
  · exact .inr ⟨_, rfl⟩
  · exact .inl ⟨_, rfl⟩

section
variable {mishaps : Mishaps} {e : Editor} {path : Text} {kind : Option Source.EntryKind} {c : Credentials}
  {dryRun : Bool} (hnull : '\x00' ∉ path)
include hnull

theorem endsForFile_mutate_of_edit {d : Source.Document} {m : Mutation} (h : t.edit e path kind c = .ok (d, m)) :
    EndsForFile (t.mutate mishaps e path kind c dryRun).2 ↔ (m.outcome = .inserted → dryRun = false →
      t.CanEncode mishaps path (d.render e.plan.preserveEndings)) := by
  obtain ⟨_, _, -, hpath, -⟩ := exists_graft_of_edit h
  have hwrite := endsForFile_writeText_iff (t := t) hnull mishaps (d.render e.plan.preserveEndings)
  rw [mutate, h]
  simp only
  split
  · rename_i hinserts
    rw [← hwrite, writeDocument, hpath]
    simp only [hinserts, true_implies]
    generalize t.writeText mishaps path _ = done
    obtain ⟨t', result⟩ := done
    cases result with
    | ok u => exact iff_of_true (.inl ⟨_, rfl⟩) (.inl ⟨u, rfl⟩)
    | error f => simp [EndsForFile]
  · rename_i hnot
    exact iff_of_true (.inl ⟨m, rfl⟩) fun hinserted hdry => absurd ⟨hinserted, hdry⟩ hnot

/-- A file that cannot be read or written is to blame itself; otherwise its edit has to be worked out, and to be
encoded. -/
theorem endsForFile_mutate_iff :
    EndsForFile (t.mutate mishaps e path kind c dryRun).2 ↔
      (∀ d, t.readDocument path = .ok d → ∃ done, e.edit kind d c = .ok done) ∧
        ∀ d m, t.edit e path kind c = .ok (d, m) → m.outcome = .inserted → dryRun = false →
          t.CanEncode mishaps path (d.render e.plan.preserveEndings) := by
  have hread := t.endsForFile_readDocument hnull
  cases hdocument : t.readDocument path with
  | error f =>
    have hnone : ∀ done, t.edit e path kind c ≠ .ok done := by
      intro done h
      rw [edit, hdocument] at h
      cases h
    refine iff_of_true ?_ ⟨fun d h => (by cases h), fun d m h => absurd h (hnone _)⟩
    rw [hdocument] at hread
    obtain ⟨_, h⟩ | ⟨d, h⟩ := hread
    · cases h
    · cases h
      rw [mutate, edit, hdocument]
      exact .inr ⟨d, rfl⟩
  | ok d =>
    cases hedit : e.edit kind d c with
    | error f =>
      refine iff_of_false ?_ ?_
      · rw [mutate, edit, hdocument]
        simp only [hedit]
        rintro (⟨m, h⟩ | ⟨error, h⟩)
        · cases h
        · cases h
          exact e.failsByLooking_edit kind d c _ hedit
      · rintro ⟨h, -⟩
        obtain ⟨done, h⟩ := h d rfl
        rw [hedit] at h
        cases h
    | ok done =>
      obtain ⟨d', m⟩ := done
      have hdone : t.edit e path kind c = .ok (d', m) := by
        rw [edit, hdocument]
        exact hedit
      rw [endsForFile_mutate_of_edit hnull hdone, hdone]
      simp [hedit]

end

section
variable {dryRun : Bool} (hdry : r.dryRun.flag? = some dryRun)
include hdry

theorem exists_editReport_iff (workspace : Text) (file : EntryFile) (result : Except Fault Mutation) :
    (∃ report, editReport r (.atInsertion workspace file) file result = .ok report) ↔ EndsForFile result := by
  cases result with
  | ok m =>
    refine iff_of_true ?_ (.inl ⟨m, rfl⟩)
    by_cases hm : m.outcome = .noAnchor
    · obtain ⟨report, hreport, -⟩ := exists_report_of_noAnchor hdry workspace file hm
      exact ⟨report, hreport⟩
    · obtain ⟨report, hreport, -⟩ := exists_report_of_edited hdry workspace file hm
      exact ⟨report, hreport⟩
  | error f =>
    cases f with
    | document d =>
      obtain ⟨report, hreport, -⟩ := exists_report_of_failed hdry (.atInsertion workspace file) .insertion d.message rfl
        .ioError (some file)
      exact iff_of_true ⟨report, hreport⟩ (.inr ⟨d, rfl⟩)
    | _ =>
      refine iff_of_false ?_ ?_
      · rintro ⟨report, h⟩
        cases h
      · rintro (⟨m, h⟩ | ⟨d, h⟩) <;> cases h

/-- The step that edits ends with a report exactly if the settings have what the edit uses. -/
theorem exists_complete_iff (mishaps : Mishaps) (s : Settings) (c : Credentials) (workspace : Text) {file : EntryFile}
    (hnull : '\x00' ∉ file.path) :
    (∃ report, (t.complete mishaps s r (.atInsertion workspace file) c file).2 = .ok report) ↔
      (s.CanEdit ∧ ∀ e d target, s.editor = .ok e → t.readDocument file.path = .ok d →
        e.target? (some file.kind) d = some target → s.CanInsert d.lines) ∧
      ∀ e d m, s.editor = .ok e → t.edit e file.path (some file.kind) c = .ok (d, m) → m.outcome = .inserted →
        r.dryRun.isSet = false → t.CanEncode mishaps file.path (d.render e.plan.preserveEndings) := by
  rw [complete_eq, ← Settings.exists_editor_iff]
  cases heditor : s.editor with
  | error f =>
    refine iff_of_false ?_ ?_
    · rintro ⟨report, h⟩
      cases h
    · rintro ⟨⟨⟨e, h⟩, -⟩, -⟩
      cases h
  | ok e =>
    simp only
    rw [exists_editReport_iff hdry, endsForFile_mutate_iff hnull]
    constructor
    · rintro ⟨h, hencodes⟩
      refine ⟨⟨⟨e, rfl⟩, fun e' d target he hread htarget => ?_⟩, fun e' d m he => ?_⟩
      · cases he
        exact (Settings.canInsert_iff heditor).2 ((e.exists_edit_iff _ d c).1 (h d hread) target htarget)
      · cases he
        exact hencodes d m
    · rintro ⟨⟨-, h⟩, hencodes⟩
      refine ⟨fun d hread => (e.exists_edit_iff _ d c).2 fun target htarget => ?_, fun d m => hencodes e d m rfl⟩
      exact (Settings.canInsert_iff heditor).1 (h e d target rfl hread htarget)

end

theorem no_null_of_workspaceAt? {root : Value} {workspace : Text} (h : t.workspaceAt? root = .ok (some workspace)) :
    '\x00' ∉ workspace := by
  unfold workspaceAt? at h
  split at h
  · cases h
  · rename_i path
    rw [workspace?] at h
    split at h
    · cases h
    obtain ⟨is, hasks, hsome⟩ := Except.exists_of_map_eq_ok h
    cases is with
    | false => cases hsome
    | true =>
      cases hsome
      rw [asksDirectory] at hasks
      split at hasks
      · cases hasks
      · rename_i hnull
        simpa using hnull
  · cases h

theorem exists_isProject {workspace : Text} (hnull : '\x00' ∉ workspace) : ∃ is, t.isProject s workspace = .ok is := by
  rw [isProject, if_neg (by simpa using hnull)]
  split
  · exact ⟨false, rfl⟩
  · exact ⟨_, rfl⟩

theorem exists_install_of_failed {mishaps : Mishaps} {dryRun : Bool} (hdry : r.dryRun.flag? = some dryRun)
    {p p' : Progress} {step : Step} {outcome : InstallOutcome} {message : Text}
    (hp : p.fail step (some message) = .ok p')
    (hprepare : t.prepare s r = (r.failed p step outcome message none).map .ended) :
    ∃ report, (t.install mishaps s r).2 = .ok report := by
  obtain ⟨report, hreport, -⟩ := exists_report_of_failed hdry p step message hp outcome none
  rw [install, hprepare, hreport]
  exact ⟨report, rfl⟩

theorem suits_iff : t.Suits s root ↔
    (s.HasUsableExclusions ∧ s.Has "delegate_file".toList ∧
      ((∀ path, ¬ t.Located s root ⟨path, .delegateCallback⟩) →
        s.Has "root_marker".toList ∧ s.Has "source_suffix".toList)) ∧
    ∀ file, t.Located s root file → s.CanEdit ∧ ∀ e d target, s.editor = .ok e → t.readDocument file.path = .ok d →
      e.target? (some file.kind) d = some target → s.CanInsert d.lines := by
  constructor
  · intro h
    exact ⟨⟨h.exclusions, h.delegateFile, h.marked⟩, fun file hfile =>
      ⟨h.edits file hfile, fun e d target => h.inserts file e d target hfile⟩⟩
  · rintro ⟨⟨hexclusions, hdelegate, hmarked⟩, hfiles⟩
    exact ⟨hexclusions, hdelegate, hmarked, fun file hfile => (hfiles file hfile).1,
      fun file e d target hfile => (hfiles file hfile).2 e d target⟩

/-- In a project, an installation with credentials that can be inserted ends with a report exactly if the settings suit
the project and what is to be written can be encoded. -/
theorem exists_install_iff_suits (ht : t.IsProper) (hs : s.IsSound) (mishaps : Mishaps) {dryRun : Bool}
    (hdry : r.dryRun.flag? = some dryRun) {c : Credentials}
    (hvalid : Credentials.validate r.clientId r.clientSecret = .ok c) {workspace : Text}
    (hworkspace : t.workspaceAt? r.root = .ok (some workspace)) (hproject : t.isProject s workspace = .ok true) :
    (∃ report, (t.install mishaps s r).2 = .ok report) ↔
      t.Suits s workspace ∧ t.Encodes mishaps s r c workspace := by
  rw [suits_iff, ← exists_locate_iff hs (no_null_of_workspaceAt? hworkspace)]
  cases hlocate : t.locate s workspace with
  | error f =>
    refine iff_of_false ?_ ?_
    · rintro ⟨report, h⟩
      rw [install, prepare_of_isProject hvalid hworkspace hproject, prepareEntry, hlocate] at h
      cases h
    · rintro ⟨⟨⟨located, h⟩, -⟩, -⟩
      cases h
  | ok located =>
    cases located with
    | missing name marker =>
      have hprepare := prepare_of_missing hvalid hworkspace hproject hlocate
      have hnone : ∀ file, ¬ t.Located s workspace file := by
        intro file hfile
        rw [locate_eq_found_iff.2 hfile] at hlocate
        cases hlocate
      exact iff_of_true (exists_install_of_failed hdry rfl hprepare)
        ⟨⟨⟨_, rfl⟩, fun file hfile => absurd hfile (hnone file)⟩, fun file e d m hfile => absurd hfile (hnone file)⟩
    | found file =>
      have hfile : t.Located s workspace file := locate_eq_found_iff.1 hlocate
      have hinstall : (t.install mishaps s r).2 =
          (t.complete mishaps s r (.atInsertion workspace file) c file).2 := by
        rw [install, prepare_of_finds hvalid ⟨hworkspace, hproject, hlocate⟩]
      rw [hinstall, exists_complete_iff hdry mishaps s c workspace (hfile.no_null ht rfl)]
      constructor
      · rintro ⟨h, hencodes⟩
        refine ⟨⟨⟨_, rfl⟩, fun file' hfile' => ?_⟩, fun file' e d m hfile' => ?_⟩
        · rw [hfile.unique hfile']
          exact h
        · rw [hfile.unique hfile']
          exact hencodes e d m
      · rintro ⟨⟨-, hfiles⟩, hencodes⟩
        exact ⟨hfiles file hfile, fun e d m => hencodes file e d m hfile⟩

theorem exists_install_iff (ht : t.IsProper) (hs : s.IsSound) (mishaps : Mishaps) {dryRun : Bool}
    (hdry : r.dryRun.flag? = some dryRun) :
    (∃ report, (t.install mishaps s r).2 = .ok report) ↔
      ∀ c, Credentials.validate r.clientId r.clientSecret = .ok c →
        ∃ workspace?, t.workspaceAt? r.root = .ok workspace? ∧
          ∀ workspace, workspace? = some workspace → t.isProject s workspace = .ok true →
            t.Suits s workspace ∧ t.Encodes mishaps s r c workspace := by
  cases hvalid : Credentials.validate r.clientId r.clientSecret with
  | error e =>
    have hprepare : t.prepare s r = (r.failed .start .credentials .invalidCredentials e.message none).map .ended := by
      rw [prepare, hvalid]
    exact iff_of_true (exists_install_of_failed hdry rfl hprepare) fun c h => by cases h
  | ok c =>
    simp only [Except.ok.injEq, forall_eq']
    have hprepare : t.prepare s r = t.prepareProject s r .atProject c := by
      rw [prepare, hvalid]
      rfl
    rw [prepareProject] at hprepare
    cases hworkspace : t.workspaceAt? r.root with
    | error f =>
      rw [hworkspace] at hprepare
      refine iff_of_false ?_ ?_
      · rintro ⟨report, h⟩
        rw [install, hprepare] at h
        cases h
      · rintro ⟨workspace?, h, -⟩
        cases h
    | ok workspace? =>
      simp only [Except.ok.injEq, exists_eq_left']
      rw [hworkspace, Except.ok_bind] at hprepare
      cases workspace? with
      | none => exact iff_of_true (exists_install_of_failed hdry rfl hprepare) fun workspace h => by cases h
      | some workspace =>
        simp only [Option.some.injEq, forall_eq'] at hprepare ⊢
        obtain ⟨is, hproject⟩ := exists_isProject (s := s) (no_null_of_workspaceAt? hworkspace)
        rw [hproject, Except.ok_bind] at hprepare
        cases is with
        | false =>
          refine iff_of_true (exists_install_of_failed hdry rfl hprepare) fun h => ?_
          rw [hproject] at h
          cases h
        | true =>
          rw [exists_install_iff_suits ht hs mishaps hdry hvalid hworkspace hproject]
          exact ⟨fun h _ => h, fun h => h hproject⟩

theorem suits_of_isUsable (h : s.IsUsable) (root : Text) : t.Suits s root where
  exclusions := h.exclusions
  delegateFile := h.entries _ List.mem_cons_self
  marked _ := ⟨h.entries _ (by decide), h.entries _ (by decide)⟩
  edits _ _ := h.canEdit
  inserts _ _ d _ _ _ _ _ := h.canInsert d.lines

theorem encodes_of_isLone {mishaps : Mishaps} (h : r.dryRun.isSet = true ∨ ∀ c, mishaps.isLone c = false)
    (c : Credentials) (root : Text) : t.Encodes mishaps s r c root := by
  intro file e d m _ _ _ _ hdry
  obtain hset | hnone := h
  · rw [hset] at hdry
    cases hdry
  · exact .inl fun c _ => hnone c

/-- Under settings that are accepted an installation ends with a report unless it gets to use a setting that it cannot
use, the root cannot be looked up, or what is to be written cannot be encoded. So it always does under settings that
are usable, where all texts can be encoded and the root can be looked up; without a file to read them from, settings
are usable unless an exclusion is no pattern, the answer that means success cannot be shown, or the unit of indentation
is no text. -/
theorem install_returns_iff {stack : Stack} {file : Option Table} {overrides : Value}
    (hs : Settings.ofLayers stack file overrides = .ok s) (ht : t.IsProper) (mishaps : Mishaps) {dryRun : Bool}
    (hdry : r.dryRun.flag? = some dryRun) :
    ((∃ report, (t.install mishaps s r).2 = .ok report) ↔
      ∀ c, Credentials.validate r.clientId r.clientSecret = .ok c →
        ∃ workspace?, t.workspaceAt? r.root = .ok workspace? ∧
          ∀ workspace, workspace? = some workspace → t.isProject s workspace = .ok true →
            t.Suits s workspace ∧ t.Encodes mishaps s r c workspace) ∧
    (s.IsUsable → (∃ workspace?, t.workspaceAt? r.root = .ok workspace?) →
      r.dryRun.isSet = true ∨ (∀ c, mishaps.isLone c = false) → ∃ report, (t.install mishaps s r).2 = .ok report) ∧
    (file = none → overrides.HasDistinctNames →
      (s.IsUsable ↔ s.HasUsableExclusions ∧
        (∀ v, s.sdk.get? "success_case".toList = some v → v.showFault? s.showing = none) ∧
        ∃ unit, s.editingSetting "default_indent".toList = .ok (.text unit))) := by
  obtain ⟨_, -, -, hsound⟩ := Settings.ofLayers_eq_ok_iff.1 hs
  have hreturns := exists_install_iff (r := r) ht hsound mishaps hdry
  refine ⟨hreturns, fun husable ⟨workspace?, hworkspace⟩ hencodes => ?_, ?_⟩
  · exact hreturns.2 fun _ _ => ⟨workspace?, hworkspace, fun workspace _ _ =>
      ⟨suits_of_isUsable husable workspace, encodes_of_isLone hencodes _ workspace⟩⟩
  · rintro rfl hnames
    exact Settings.isUsable_iff_of_no_file hs hnames

def smallProject : Tree := oneFileProject (Utf8.encode demoText) 0o644

def smallRequest : Request := ⟨.text "p".toList, .text "id".toList, .text "secret".toList, .bool false⟩

theorem hasUsableExclusions_byDefault : Settings.byDefault.HasUsableExclusions where
  endings := by decide
  lines := by
    have hseen : ∀ line ∈ Settings.byDefault.skipDirs.map Ignore.skipDirPattern ++
        Settings.byDefault.bundleSuffixes.map Ignore.suffixPattern,
          (Ignore.Pattern.parse? line).toOption.isSome = true := by decide +kernel
    intro line hline
    obtain ⟨found, hfound⟩ := Option.isSome_iff_exists.1 (hseen line hline)
    exact ⟨found, Except.of_toOption_eq_some hfound⟩

/-- The settings where nothing else is said are usable, and an installation under them ends with a report. -/
theorem install_returns_iff_by_default :
    Settings.ofLayers .plenty none .null = .ok .byDefault ∧ smallProject.IsProper ∧
    smallRequest.dryRun.flag? = some false ∧ Settings.byDefault.IsUsable ∧
    ∃ report, (smallProject.install noMishaps .byDefault smallRequest).2 = .ok report := by
  have hproper : smallProject.IsProper := isProper_oneFileProject _ _
  have hdry : smallRequest.dryRun.flag? = some false := rfl
  obtain ⟨-, hreturns, husable⟩ := install_returns_iff Settings.ofLayers_nothing hproper noMishaps hdry
  have hanswer : ∀ v, Settings.byDefault.sdk.get? "success_case".toList = some v →
      v.showFault? Settings.byDefault.showing = none := by
    intro v hv
    cases hv
    rfl
  have hdefault : Settings.byDefault.IsUsable :=
    (husable rfl (.other rfl)).2 ⟨hasUsableExclusions_byDefault, hanswer, "    ".toList, rfl⟩
  have hworkspace : (smallProject.workspaceAt? smallRequest.root).toOption = some (some "p".toList) := by
    decide +kernel
  exact ⟨Settings.ofLayers_nothing, hproper, hdry, hdefault,
    hreturns hdefault ⟨_, Except.of_toOption_eq_some hworkspace⟩ (.inr fun _ => rfl)⟩

/-- What a caller gives who names a dot alone as the ending of a bundle. -/
def lonelyDot : Value :=
  .table [("project".toList, .table [("bundle_suffixes".toList,
    .list [.text ".xcodeproj".toList, .text ".".toList])])]

/-- Such settings are accepted, and an installation under them ends with a problem of the configuration. -/
theorem install_of_lonely_dot : ∃ s, Settings.ofLayers .plenty none lonelyDot = .ok s ∧
    (smallProject.install noMishaps s smallRequest).2 = .error (.config (.exclusion (.suffixTooShort ['.']))) := by
  obtain ⟨s, hs⟩ : ∃ s, Settings.ofLayers .plenty none lonelyDot = .ok s := ⟨_, rfl⟩
  have hendings : s.bundleSuffixes = [".xcodeproj".toList, ".".toList] := by
    cases hs
    rfl
  have hskip : s.skipDirs = [".git".toList, ".build".toList] := by
    cases hs
    rfl
  have hdelegate : s.delegateFile = .ok "AppDelegate.swift".toList := by
    cases hs
    rfl
  have hexclusions : s.exclusions = .error (.config (.exclusion (.suffixTooShort ['.']))) := by
    rw [Settings.exclusions, hendings, hskip]
    rfl
  have hworkspace : smallProject.workspaceAt? smallRequest.root = .ok (some "p".toList) :=
    Except.of_toOption_eq_some (by decide +kernel)
  have hproject : smallProject.isProject s "p".toList = .ok true := by
    refine Except.of_toOption_eq_some ?_
    rw [isProject, hendings]
    decide +kernel
  have hvalid : Credentials.validate smallRequest.clientId smallRequest.clientSecret = .ok demoCredentials := rfl
  have hlocate : smallProject.locate s "p".toList = .error (.config (.exclusion (.suffixTooShort ['.']))) := by
    rw [locate, hdelegate, Except.ok_bind, findFile, sources, hexclusions]
    rfl
  refine ⟨s, hs, ?_⟩
  rw [install, prepare_of_isProject hvalid hworkspace hproject, prepareEntry, hlocate]
  rfl

end Tree

end SdkGraft
