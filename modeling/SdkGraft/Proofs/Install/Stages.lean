import SdkGraft.Proofs.Tree.Replace
import SdkGraft.Install.Run

/-!
# The stages of an installation

* `Progress.atProject`, `Progress.atEntryPoint`, `Progress.atInsertion` : the progress before each step but the
  first;
* `Tells`, `tells_of_failed`, `exists_tells_of_edited` : what the report of an installation tells;
* `Tree.Finds` : the directory to work in and the file to edit, as the steps that only look find them;
* `prepare_cases`, `prepare_of_finds`, `prepare_of_missing` : these steps find the file, or end the installation;
* `editReport`, `complete_eq` : the step that edits, by what comes of the edit;
* `mutate_cases`, `install_cases` : the tree changes where something is inserted, and not only asked for;
* `oneFileProject` : a small project.
-/

namespace SdkGraft.Install

/-! ## Steps -/

def Progress.atProject : Progress := Progress.start.record ⟨.credentials, .success, none⟩

def Progress.atEntryPoint (workspace : Text) : Progress :=
  Progress.atProject.record ⟨.project, .success, some workspace⟩

/-- The progress when all but the last step have succeeded. -/
def Progress.atInsertion (workspace : Text) (file : EntryFile) : Progress :=
  ((Progress.start.record ⟨.credentials, .success, none⟩).record ⟨.project, .success, some workspace⟩).record
    ⟨.entryPoint, .success, some (entryDetail file)⟩

theorem passed_credentials : Request.passed .start .credentials none = .ok .atProject := rfl

theorem passed_project (workspace : Text) :
    Request.passed .atProject .project (some workspace) = .ok (.atEntryPoint workspace) := rfl

theorem passed_entryPoint (workspace : Text) (file : EntryFile) :
    Request.passed (.atEntryPoint workspace) .entryPoint (some (entryDetail file)) =
      .ok (.atInsertion workspace file) := rfl

theorem passed_insertion (workspace : Text) (file : EntryFile) (detail : Option Text) :
    Request.passed (.atInsertion workspace file) .insertion detail =
      .ok ((Progress.atInsertion workspace file).record ⟨.insertion, .success, detail⟩) := rfl

/-- What a report tells, the steps and the dry run aside. -/
structure Tells (r : Request) (outcome : InstallOutcome) (message : Text) (entry : Option EntryFile)
    (diff : Option Text) (report : Report) : Prop where
  outcome : report.outcome = outcome
  file : report.file = entry.map EntryFile.path
  kind : report.kind = entry.map EntryFile.kind
  diff : report.diff = diff
  message : report.message = message
  root : report.root = r.rootText

theorem tells_of_report {r : Request} {p : Progress} {outcome : InstallOutcome} {message : Text}
    {file : Option EntryFile} {diff : Option Text} {report : Report}
    (h : r.report p outcome message file diff = .ok report) : Tells r outcome message file diff report := by
  rw [Request.report] at h
  split at h
  · cases h
  · cases h
    exact ⟨rfl, rfl, rfl, rfl, rfl, rfl⟩

theorem tells_of_failed {r : Request} {p : Progress} {s : Step} {outcome : InstallOutcome} {message : Text}
    {file : Option EntryFile} {report : Report} (h : r.failed p s outcome message file = .ok report) :
    Tells r outcome message file none report := by
  rw [Request.failed] at h
  split at h
  · cases h
  · exact tells_of_report h

theorem exists_tells_of_edited {r : Request} {p : Progress} {file : EntryFile} {m : Mutation} {report : Report}
    (h : r.edited p file m = .ok report) :
    ∃ diff, Tells r (.ofEdit m.outcome) (editMessage file.path m.outcome) (some file) diff report := by
  rw [Request.edited] at h
  split at h
  · rename_i hm
    refine ⟨none, ?_⟩
    rw [hm] at h ⊢
    exact tells_of_failed h
  · obtain ⟨p', -, h⟩ := Except.exists_of_bind_eq_ok h
    exact ⟨_, tells_of_report h⟩

theorem exists_report_of_failed {r : Request} {dryRun : Bool} (hdry : r.dryRun.flag? = some dryRun)
    (p : Progress) (step : Step) (message : Text) {p' : Progress} (hp : p.fail step (some message) = .ok p')
    (outcome : InstallOutcome) (file : Option EntryFile) : ∃ report,
    r.failed p step outcome message file = .ok report ∧ Tells r outcome message file none report := by
  rw [Request.failed, hp]
  simp only [Request.report, hdry]
  exact ⟨_, rfl, rfl, rfl, rfl, rfl, rfl, rfl⟩

theorem exists_report_of_edited {r : Request} {dryRun : Bool} (hdry : r.dryRun.flag? = some dryRun)
    (workspace : Text) (file : EntryFile) {m : Mutation} (hm : m.outcome ≠ .noAnchor) : ∃ report,
    r.edited (.atInsertion workspace file) file m = .ok report ∧
      Tells r (.ofEdit m.outcome) (editMessage file.path m.outcome) (some file) m.diff report := by
  rw [Request.edited, if_neg hm, passed_insertion, Except.ok_bind, Request.report, hdry]
  exact ⟨_, rfl, rfl, rfl, rfl, rfl, rfl, rfl⟩

theorem edited_of_flag?_eq_none {r : Request} (hdry : r.dryRun.flag? = none) (workspace : Text) (file : EntryFile)
    {m : Mutation} (hm : m.outcome ≠ .noAnchor) :
    r.edited (.atInsertion workspace file) file m = .error .noFlag := by
  rw [Request.edited, if_neg hm, passed_insertion, Except.ok_bind, Request.report, hdry]

/-- The report of an edit that found none. -/
theorem exists_report_of_noAnchor {r : Request} {dryRun : Bool} (hdry : r.dryRun.flag? = some dryRun)
    (workspace : Text) (file : EntryFile) {m : Mutation} (hm : m.outcome = .noAnchor) : ∃ report,
    r.edited (.atInsertion workspace file) file m = .ok report ∧
      Tells r .noAnchor (editMessage file.path .noAnchor) (some file) none report := by
  rw [Request.edited, if_pos hm, hm]
  exact exists_report_of_failed hdry _ _ _ rfl _ _

end SdkGraft.Install

namespace SdkGraft.Tree

open Install

variable {t : Tree} {s : Settings} {r : Request}

/-! ## Looking -/

/-- The steps that only look find a directory to work in, a project in it, and a file to edit. -/
structure Finds (t : Tree) (s : Settings) (root : Value) (workspace : Text) (file : EntryFile) : Prop where
  isWorkspace : t.workspaceAt? root = .ok (some workspace)
  isProject : t.isProject s workspace = .ok true
  located : t.locate s workspace = .ok (.found file)

theorem exists_ended_of_failed {p : Progress} {step : Step} {outcome : InstallOutcome} {message : Text}
    {file : Option EntryFile} {done : Prepared} (hne : outcome ≠ .inserted)
    (h : (r.failed p step outcome message file >>= fun report => .ok (.ended report)) = .ok done) :
    ∃ report, done = .ended report ∧ report.outcome ≠ .inserted := by
  obtain ⟨report, hreport, h⟩ := Except.exists_of_bind_eq_ok h
  cases h
  refine ⟨report, rfl, ?_⟩
  rw [(tells_of_failed hreport).outcome]
  exact hne

theorem prepareEntry_cases {p : Progress} {c : Credentials} {workspace : Text} {done : Prepared}
    (h : t.prepareEntry s r p c workspace = .ok done) :
    (∃ report, done = .ended report ∧ report.outcome ≠ .inserted) ∨
    ∃ p' file, done = .ready p' c file ∧ t.locate s workspace = .ok (.found file) ∧
      Request.passed p .entryPoint (some (entryDetail file)) = .ok p' := by
  rw [prepareEntry] at h
  obtain ⟨located, hlocated, h⟩ := Except.exists_of_bind_eq_ok h
  cases located with
  | missing delegateFile marker => exact .inl (exists_ended_of_failed (by simp) h)
  | found file =>
    obtain ⟨p', hp, h⟩ := Except.exists_of_bind_eq_ok h
    cases h
    exact .inr ⟨p', file, rfl, hlocated, hp⟩

/-- The steps that only look end the installation, and then nothing is inserted, or they find a file to
edit. -/
theorem prepare_cases {done : Prepared} (h : t.prepare s r = .ok done) :
    (∃ report, done = .ended report ∧ report.outcome ≠ .inserted) ∨
    ∃ c workspace file, done = .ready (.atInsertion workspace file) c file ∧
      Credentials.validate r.clientId r.clientSecret = .ok c ∧ t.Finds s r.root workspace file := by
  rw [prepare] at h
  split at h
  · exact .inl (exists_ended_of_failed (by simp) h)
  rename_i c hvalid
  rw [passed_credentials, Except.ok_bind, prepareProject] at h
  obtain ⟨workspace?, hworkspace, h⟩ := Except.exists_of_bind_eq_ok h
  cases workspace? with
  | none => exact .inl (exists_ended_of_failed (by simp) h)
  | some workspace =>
    obtain ⟨isProject, hproject, h⟩ := Except.exists_of_bind_eq_ok h
    cases isProject with
    | false => exact .inl (exists_ended_of_failed (by simp) h)
    | true =>
      rw [if_pos rfl, passed_project] at h
      obtain hended | ⟨p, file, rfl, hlocated, hp⟩ := prepareEntry_cases h
      · exact .inl hended
      · rw [passed_entryPoint] at hp
        cases hp
        exact .inr ⟨c, workspace, file, rfl, hvalid, hworkspace, hproject, hlocated⟩

section
variable {c : Credentials} (hvalid : Credentials.validate r.clientId r.clientSecret = .ok c) {workspace : Text}
include hvalid

/-- In a project, with credentials that can be inserted, what is left to look for is a file to edit. -/
theorem prepare_of_isProject (hworkspace : t.workspaceAt? r.root = .ok (some workspace))
    (hproject : t.isProject s workspace = .ok true) :
    t.prepare s r = t.prepareEntry s r (.atEntryPoint workspace) c workspace := by
  rw [prepare, hvalid]
  simp only
  rw [passed_credentials, Except.ok_bind, prepareProject, hworkspace, Except.ok_bind]
  simp only
  rw [hproject, Except.ok_bind, if_pos rfl, passed_project, Except.ok_bind]

/-- Where there is a file to edit, the steps that only look find it. -/
theorem prepare_of_finds {file : EntryFile} (h : t.Finds s r.root workspace file) :
    t.prepare s r = .ok (.ready (.atInsertion workspace file) c file) := by
  rw [prepare_of_isProject hvalid h.isWorkspace h.isProject, prepareEntry, h.located, Except.ok_bind]
  simp only
  rw [passed_entryPoint, Except.ok_bind]
  rfl

theorem prepare_of_missing {name marker : Text} (hworkspace : t.workspaceAt? r.root = .ok (some workspace))
    (hproject : t.isProject s workspace = .ok true) (hmissing : t.locate s workspace = .ok (.missing name marker)) :
    t.prepare s r = (r.failed (.atEntryPoint workspace) .entryPoint .noEntryPoint
      (missingMessage name marker ++ ['.']) none).map .ended := by
  rw [prepare_of_isProject hvalid hworkspace hproject, prepareEntry, hmissing, Except.ok_bind]
  rfl

end

/-! ## Editing -/

/-- A text cannot be encoded, and the spare file for its path has been left behind, with nothing in it. -/
structure LeavesSpare (t t' : Tree) (mishaps : Mishaps) (path text : Text) : Prop where
  lone : ∃ c ∈ text, mishaps.isLone c = true
  exists_spare : ∃ spare, t.create mishaps path = .ok spare ∧ t' = t.putSpare spare [] privateMode

/-- A write that fails leaves nothing, unless the text cannot be encoded. -/
theorem writeDocument_error (ht : t.IsProper) {t' : Tree} {mishaps : Mishaps} {preserveEndings : Bool}
    {d : Source.Document} {f : Fault} (h : t.writeDocument mishaps preserveEndings d = (t', .error f)) :
    t' = t ∨ f = .unencodable ∧ t.LeavesSpare t' mishaps d.path (d.render preserveEndings) := by
  rw [writeDocument, writeText] at h
  split at h
  · cases h
    exact .inl rfl
  split at h
  · rename_i hlone
    rw [abandonText] at h
    split at h
    · cases h
      exact .inl rfl
    · rename_i spare hspare
      cases h
      exact .inr ⟨rfl, List.any_eq_true.1 hlone, spare, hspare, rfl⟩
  · obtain ⟨hfirst, hsecond⟩ := Prod.mk.inj h
    generalize hdone : t.replaceFile mishaps d.path (Utf8.encode (d.render preserveEndings)) = done
      at hfirst hsecond
    obtain ⟨t'', result⟩ := done
    cases result with
    | ok u => cases hsecond
    | error e => exact .inl (hfirst ▸ replaceFile_error ht hdone)

/-- A file is written where something is to be inserted, and not only asked for. -/
theorem mutate_cases (ht : t.IsProper) (mishaps : Mishaps) (e : Editor) (path : Text)
    (kind : Option Source.EntryKind) (c : Credentials) (dryRun : Bool) :
    ((t.mutate mishaps e path kind c dryRun).1 = t ∧ ∀ m, (t.mutate mishaps e path kind c dryRun).2 = .ok m →
      ¬ (m.outcome = .inserted ∧ dryRun = false)) ∨
    ∃ d m t', t.edit e path kind c = .ok (d, m) ∧ m.outcome = .inserted ∧ dryRun = false ∧
      (t.writeDocument mishaps e.plan.preserveEndings d = (t', .ok ()) ∧
          t.mutate mishaps e path kind c dryRun = (t', .ok { m with written := true }) ∨
        t.LeavesSpare t' mishaps d.path (d.render e.plan.preserveEndings) ∧
          t.mutate mishaps e path kind c dryRun = (t', .error .unencodable)) := by
  rw [mutate]
  split
  · exact .inl ⟨rfl, fun m hm => by cases hm⟩
  rename_i d m hedit
  split
  · rename_i hinserts
    generalize hdone : t.writeDocument mishaps e.plan.preserveEndings d = done
    obtain ⟨t', result⟩ := done
    cases result with
    | ok u => exact .inr ⟨d, m, t', hedit, hinserts.1, hinserts.2, .inl ⟨hdone, rfl⟩⟩
    | error f =>
      obtain hsame | ⟨rfl, hleft⟩ := writeDocument_error ht hdone
      · exact .inl ⟨hsame, fun m hm => by cases hm⟩
      · exact .inr ⟨d, m, t', hedit, hinserts.1, hinserts.2, .inr ⟨hleft, rfl⟩⟩
  · rename_i hinserts
    refine .inl ⟨rfl, fun m' hm => ?_⟩
    cases hm
    exact hinserts

theorem mutate_of_dryRun (t : Tree) (mishaps : Mishaps) (e : Editor) (path : Text) (kind : Option Source.EntryKind)
    (c : Credentials) : t.mutate mishaps e path kind c true = (t, (t.edit e path kind c).map Prod.snd) := by
  rw [mutate]
  split
  · rename_i f hf
    rw [hf]
    rfl
  · rename_i d m hm
    rw [hm]
    exact if_neg (by simp)

/-- The report of the step that edits, by what came of the edit. -/
def editReport (r : Request) (p : Progress) (file : EntryFile) : Except Fault Mutation → Except Fault Report
  | .ok m => r.edited p file m
  | .error (.document d) => r.failed p .insertion .ioError d.message (some file)
  | .error f => .error f

theorem complete_eq (t : Tree) (mishaps : Mishaps) (s : Settings) (r : Request) (p : Progress) (c : Credentials)
    (file : EntryFile) : t.complete mishaps s r p c file =
      match s.editor with
      | .error f => (t, .error f)
      | .ok e =>
        ((t.mutate mishaps e file.path (some file.kind) c r.dryRun.isSet).1,
          editReport r p file (t.mutate mishaps e file.path (some file.kind) c r.dryRun.isSet).2) := by
  rw [complete]
  cases s.editor with
  | error f => rfl
  | ok e =>
    simp only
    obtain ⟨t', result⟩ := t.mutate mishaps e file.path (some file.kind) c r.dryRun.isSet
    cases result with
    | ok m => rfl
    | error f => cases f <;> rfl

theorem exists_tells_of_complete {mishaps : Mishaps} {p : Progress} {c : Credentials} {file : EntryFile}
    {report : Report} (h : (t.complete mishaps s r p c file).2 = .ok report) :
    ∃ outcome message diff, outcome ≠ .noEntryPoint ∧ Tells r outcome message (some file) diff report := by
  rw [complete_eq] at h
  split at h
  · cases h
  unfold editReport at h
  split at h
  · rename_i m _
    obtain ⟨diff, htells⟩ := exists_tells_of_edited h
    exact ⟨_, _, diff, by cases m.outcome <;> simp [InstallOutcome.ofEdit], htells⟩
  · exact ⟨_, _, none, by simp, tells_of_failed h⟩
  · cases h

/-- An insertion is told only of an edit that inserts. -/
theorem exists_of_editReport_inserted {p : Progress} {file : EntryFile} {result : Except Fault Mutation}
    {report : Report} (h : editReport r p file result = .ok report) (hinserted : report.outcome = .inserted) :
    ∃ m, result = .ok m ∧ m.outcome = .inserted := by
  unfold editReport at h
  split at h
  · rename_i m
    obtain ⟨_, htells⟩ := exists_tells_of_edited h
    have houtcome := htells.outcome.symm.trans hinserted
    refine ⟨m, rfl, ?_⟩
    cases hm : m.outcome with
    | inserted => rfl
    | _ =>
      rw [hm] at houtcome
      cases houtcome
  · cases (tells_of_failed h).outcome.symm.trans hinserted
  · cases h

/-- An installation leaves the tree as it is, or has something to insert and not only for show: that is written, or
it cannot be encoded. -/
theorem install_cases (ht : t.IsProper) (mishaps : Mishaps) (s : Settings) (r : Request) :
    ((t.install mishaps s r).1 = t ∧ ∀ report, (t.install mishaps s r).2 = .ok report →
      ¬ (report.outcome = .inserted ∧ r.dryRun.isSet = false)) ∨
    ∃ c workspace file e d m t', Credentials.validate r.clientId r.clientSecret = .ok c ∧
      t.Finds s r.root workspace file ∧ s.editor = .ok e ∧
      t.edit e file.path (some file.kind) c = .ok (d, m) ∧ m.outcome = .inserted ∧ r.dryRun.isSet = false ∧
      (t.writeDocument mishaps e.plan.preserveEndings d = (t', .ok ()) ∧
          t.install mishaps s r = (t', r.edited (.atInsertion workspace file) file { m with written := true }) ∨
        t.LeavesSpare t' mishaps d.path (d.render e.plan.preserveEndings) ∧
          t.install mishaps s r = (t', .error .unencodable)) := by
  rw [install]
  split
  · exact .inl ⟨rfl, fun report h => by cases h⟩
  · rename_i report hended
    obtain ⟨report', hreport', hne⟩ | ⟨_, _, _, hready, -⟩ := prepare_cases hended
    · cases hreport'
      refine .inl ⟨rfl, fun report h => ?_⟩
      cases h
      exact fun hinserted => hne hinserted.1
    · cases hready
  rename_i p c file hready
  obtain ⟨_, hended, -⟩ | ⟨c, workspace, file, hprepared, hvalid, hfinds⟩ := prepare_cases hready
  · cases hended
  cases hprepared
  rw [complete_eq]
  split
  · exact .inl ⟨rfl, fun report h => by cases h⟩
  rename_i e heditor
  obtain ⟨hsame, hnot⟩ | ⟨d, m, t', hedit, hinserted, hdry, hwrites⟩ :=
    mutate_cases ht mishaps e file.path (some file.kind) c r.dryRun.isSet
  · refine .inl ⟨hsame, fun report hreport hinserted => ?_⟩
    obtain ⟨m, hm, houtcome⟩ := exists_of_editReport_inserted hreport hinserted.1
    exact hnot m hm ⟨houtcome, hinserted.2⟩
  · refine .inr ⟨c, workspace, file, e, d, m, t', hvalid, hfinds, heditor, hedit, hinserted, hdry, ?_⟩
    obtain ⟨hwrite, hmutate⟩ | ⟨hleft, hmutate⟩ := hwrites
    · rw [hmutate]
      exact .inl ⟨hwrite, rfl⟩
    · rw [hmutate]
      exact .inr ⟨hleft, rfl⟩

/-! ## A project of one file -/

def oneFileProject (bytes : Bytes) (mode : Nat) : Tree where
  top := .dir [("p".toList, .dir [("App.xcodeproj".toList, .dir [] 0o755), ("App.swift".toList, .file bytes mode)]
    0o755)] 0o755
  here := []
  home := []

theorem isProper_oneFileProject (bytes : Bytes) (mode : Nat) : (oneFileProject bytes mode).IsProper := by
  have hbundle : (Node.dir [] 0o755).IsProper :=
    Node.isProper_dir _ List.nodup_nil (fun _ h => by cases h) fun _ h => by cases h
  have hnames : ∀ name ∈ ["App.xcodeproj".toList, "App.swift".toList], IsEntryName name := by decide
  refine Node.isProper_dir _ (List.pairwise_singleton _ _)
    (List.forall_mem_singleton.2 (by decide : IsEntryName "p".toList)) (List.forall_mem_singleton.2 ?_)
  refine Node.isProper_dir _ (by decide : ["App.xcodeproj".toList, "App.swift".toList].Nodup) hnames
    (List.forall_mem_cons.2 ⟨hbundle, ?_⟩)
  exact List.forall_mem_singleton.2 (Node.isProper_of_not_dir rfl)

def demoText : Text := "@main\nstruct DemoApp \x7b\n\x7d\n".toList

def demoCredentials : Credentials := ⟨"id".toList, "secret".toList, by decide, by decide⟩

end SdkGraft.Tree
