import SdkGraft.Proofs.Install.Bytes
import SdkGraft.Proofs.Source.Growth

/-!
# Installations only for show

* `Request.withDryRun` : the same request, in earnest or only for show; `Report.inEarnest` : the same report of
  an installation in earnest;
* `prepare_inEarnest`, `mutate_inEarnest`, `complete_inEarnest` : what each part of an installation in earnest
  tells, told by the one for show;
* `Tree.CanWrite` : what an installation has to write can be written;
* `dryRun_predicts` : an installation for show tells what one in earnest tells, and what it leaves in the file.
-/

namespace SdkGraft.Install

/-- The same request, only for show or in earnest. -/
def Request.withDryRun (r : Request) (dryRun : Bool) : Request := { r with dryRun := .bool dryRun }

def Report.inEarnest (report : Report) : Report := { report with dryRun := false }

def Prepared.inEarnest : Prepared → Prepared
  | .ended report => .ended report.inEarnest
  | .ready progress credentials file => .ready progress credentials file

namespace Request

variable (r : Request) (p : Progress)

@[simp] theorem withDryRun_root (dryRun : Bool) : (r.withDryRun dryRun).root = r.root := rfl

@[simp] theorem withDryRun_clientId (dryRun : Bool) : (r.withDryRun dryRun).clientId = r.clientId := rfl

@[simp] theorem withDryRun_clientSecret (dryRun : Bool) : (r.withDryRun dryRun).clientSecret = r.clientSecret := rfl

@[simp] theorem withDryRun_isSet (dryRun : Bool) : (r.withDryRun dryRun).dryRun.isSet = dryRun := rfl

theorem failed_inEarnest (step : Step) (outcome : InstallOutcome) (message : Text) (file : Option EntryFile) :
    (r.withDryRun false).failed p step outcome message file =
      ((r.withDryRun true).failed p step outcome message file).map Report.inEarnest := by
  rw [failed, failed]
  cases p.fail step (some message) <;> rfl

theorem ended_inEarnest (step : Step) (outcome : InstallOutcome) (message : Text) (file : Option EntryFile) :
    ((r.withDryRun false).failed p step outcome message file >>= fun report => .ok (.ended report)) =
      ((r.withDryRun true).failed p step outcome message file >>= fun report =>
        .ok (.ended report)).map Prepared.inEarnest := by
  rw [failed_inEarnest, Except.map_bind]
  cases (r.withDryRun true).failed p step outcome message file <;> rfl

theorem edited_inEarnest (file : EntryFile) (m : Mutation) (written : Bool) :
    (r.withDryRun false).edited p file { m with written := written } =
      ((r.withDryRun true).edited p file m).map Report.inEarnest := by
  rw [edited, edited]
  split
  · exact failed_inEarnest r p _ _ _ _
  · cases passed p .insertion (some (editMessage file.path m.outcome)) <;> rfl

end Request

end SdkGraft.Install

namespace SdkGraft.Tree

open Install

variable {t : Tree} {mishaps : Mishaps} {s : Settings} {r : Request}

/-! ## The parts of an installation -/

theorem prepareEntry_inEarnest (t : Tree) (s : Settings) (r : Request) (p : Progress) (c : Credentials)
    (root : Text) : t.prepareEntry s (r.withDryRun false) p c root =
      (t.prepareEntry s (r.withDryRun true) p c root).map Prepared.inEarnest := by
  rw [prepareEntry, prepareEntry, Except.map_bind]
  refine bind_congr fun located => ?_
  cases located with
  | missing delegateFile marker => exact Request.ended_inEarnest r p _ _ _ _
  | found file =>
    simp only [Except.map_bind]
    rfl

theorem prepareProject_inEarnest (t : Tree) (s : Settings) (r : Request) (p : Progress) (c : Credentials) :
    t.prepareProject s (r.withDryRun false) p c =
      (t.prepareProject s (r.withDryRun true) p c).map Prepared.inEarnest := by
  rw [prepareProject, prepareProject, Except.map_bind, Request.withDryRun_root, Request.withDryRun_root]
  refine bind_congr fun root? => ?_
  cases root? with
  | none => exact Request.ended_inEarnest r p _ _ _ _
  | some root =>
    simp only [Except.map_bind]
    refine bind_congr fun isProject => ?_
    cases isProject with
    | false => exact Request.ended_inEarnest r p _ _ _ _
    | true =>
      rw [if_pos rfl, if_pos rfl, Except.map_bind]
      exact bind_congr fun p' => prepareEntry_inEarnest t s r p' c root

/-- The steps that only look end an installation in earnest as they end one for show. -/
theorem prepare_inEarnest (t : Tree) (s : Settings) (r : Request) :
    t.prepare s (r.withDryRun false) = (t.prepare s (r.withDryRun true)).map Prepared.inEarnest := by
  simp only [prepare, Request.withDryRun_clientId, Request.withDryRun_clientSecret]
  cases Credentials.validate r.clientId r.clientSecret with
  | error e =>
    simp only [Request.failed_inEarnest]
    cases (r.withDryRun true).failed .start .credentials .invalidCredentials e.message none <;> rfl
  | ok c => exact prepareProject_inEarnest t s r .atProject c

/-- An edit in earnest, if it can be written, comes to what one for show comes to. -/
theorem mutate_inEarnest {e : Editor} {path : Text} {kind : Option Source.EntryKind} {c : Credentials}
    (hwrite : ∀ d m, t.edit e path kind c = .ok (d, m) → m.outcome = .inserted →
      (t.writeDocument mishaps e.plan.preserveEndings d).2 = .ok ()) :
    (t.mutate mishaps e path kind c false).2 = ((t.mutate mishaps e path kind c true).2).map fun m =>
      { m with written := m.written || decide (m.outcome = .inserted) } := by
  rw [mutate_of_dryRun, mutate]
  cases hedit : t.edit e path kind c with
  | error f => rfl
  | ok edited =>
    obtain ⟨d, m⟩ := edited
    simp only
    by_cases hinserted : m.outcome = .inserted
    · have hdone := hwrite d m hedit hinserted
      rw [if_pos ⟨hinserted, trivial⟩]
      generalize t.writeDocument mishaps e.plan.preserveEndings d = done at hdone
      obtain ⟨t', result⟩ := done
      cases hdone
      simp [Except.map, hinserted]
    · simp [Except.map, hinserted]

/-- The step that edits ends an installation in earnest, if it can write, as it ends one for show. -/
theorem complete_inEarnest {p : Progress} {c : Credentials} {file : EntryFile}
    (hwrite : ∀ e d m, s.editor = .ok e → t.edit e file.path (some file.kind) c = .ok (d, m) →
      m.outcome = .inserted → (t.writeDocument mishaps e.plan.preserveEndings d).2 = .ok ()) :
    (t.complete mishaps s (r.withDryRun false) p c file).2 =
      ((t.complete mishaps s (r.withDryRun true) p c file).2).map Report.inEarnest := by
  rw [complete_eq, complete_eq]
  cases heditor : s.editor with
  | error f => rfl
  | ok e =>
    simp only [Request.withDryRun_isSet]
    rw [mutate_inEarnest (hwrite e · · heditor)]
    cases (t.mutate mishaps e file.path (some file.kind) c true).2 with
    | ok m => exact Request.edited_inEarnest r p file m _
    | error f =>
      cases f with
      | document d => exact Request.failed_inEarnest r p _ _ _ _
      | _ => rfl

/-! ## The whole installation -/

/-- Whatever an installation has to write into a file can be written. -/
def CanWrite (t : Tree) (mishaps : Mishaps) (s : Settings) (r : Request) : Prop :=
  ∀ c workspace file e d m, Credentials.validate r.clientId r.clientSecret = .ok c →
    t.Finds s r.root workspace file → s.editor = .ok e → t.edit e file.path (some file.kind) c = .ok (d, m) →
    m.outcome = .inserted → (t.writeDocument mishaps e.plan.preserveEndings d).2 = .ok ()

/-- An installation in earnest that can write ends as one for show. -/
theorem install_inEarnest (hwrite : t.CanWrite mishaps s r) :
    (t.install mishaps s (r.withDryRun false)).2 =
      ((t.install mishaps s (r.withDryRun true)).2).map Report.inEarnest := by
  rw [install, install, prepare_inEarnest]
  cases hprepare : t.prepare s (r.withDryRun true) with
  | error f => rfl
  | ok prepared =>
    cases prepared with
    | ended report => rfl
    | ready p c file =>
      obtain ⟨_, hended, -⟩ | ⟨c, workspace, file, hready, hvalid, hfinds⟩ := prepare_cases hprepare
      · cases hended
      cases hready
      exact complete_inEarnest fun e d m heditor hedit hinserted =>
        hwrite c workspace file e d m hvalid hfinds heditor hedit hinserted

/-- An edit that is written tells the diff between what was in the file and what is in it then. -/
theorem diff_of_edit (ht : t.IsProper) {t' : Tree} {e : Editor} {path : Text} {kind : Option Source.EntryKind}
    {c : Credentials} {d : Source.Document} {m : Mutation} (hedit : t.edit e path kind c = .ok (d, m))
    (hinserted : m.outcome = .inserted)
    (hwrite : t.writeDocument mishaps e.plan.preserveEndings d = (t', .ok ())) :
    ∃ bytes before after, t.readFile path = .ok bytes ∧ Utf8.decode bytes = .ok before ∧
      t'.readFile path = .ok (Utf8.encode after) ∧ m.diff = some (Patch.unified path before after) ∧
      Patch.unified path before after ≠ [] := by
  obtain ⟨d₀, edit, hread, hpath, hgraft, rfl⟩ := exists_graft_of_edit hedit
  obtain ⟨old, spot, hwritten⟩ := written_of_writeDocument ht (hpath ▸ hread) hwrite
  obtain ⟨-, bytes, before, hbytes, hbefore, rfl⟩ := readDocument_eq_ok_iff.1 hread
  obtain ⟨target, a, unit, -, ha, -, heq⟩ := Source.exists_of_graft_inserted hgraft hinserted
  have hasRead : d.asRead = before := by
    rw [show d = _ from congrArg Prod.fst heq]
    rfl
  have hdiff : d.diff e.plan.preserveEndings =
      Patch.unified path before (d.render e.plan.preserveEndings) := by
    rw [Source.Document.diff, hpath, hasRead]
  rw [hpath] at hwritten
  refine ⟨bytes, before, d.render e.plan.preserveEndings, hbytes, hbefore,
    hwritten.readFile_eq hwritten.after, ?_, ?_⟩
  · exact (if_pos hinserted).trans (congrArg some hdiff)
  · exact hdiff ▸ Source.diff_ne_nil_of_graft hgraft hinserted _

/-- An installation only for show leaves the tree as it is and tells what one in earnest tells, if that can
write. Where something is inserted, its diff is not empty, and is the one between what the file holds and what the
installation in earnest leaves in it. -/
theorem dryRun_predicts (ht : t.IsProper) (hwrite : t.CanWrite mishaps s r) :
    let dry := t.install mishaps s (r.withDryRun true)
    let real := t.install mishaps s (r.withDryRun false)
    dry.1 = t ∧ real.2 = dry.2.map Report.inEarnest ∧
      ∀ report, dry.2 = .ok report → report.outcome = .inserted →
        ∃ path bytes before after, report.file = some path ∧ t.readFile path = .ok bytes ∧
          Utf8.decode bytes = .ok before ∧ real.1.readFile path = .ok (Utf8.encode after) ∧
          report.diff = some (Patch.unified path before after) ∧ Patch.unified path before after ≠ [] := by
  intro dry real
  have hsame : real.2 = dry.2.map Report.inEarnest := install_inEarnest hwrite
  refine ⟨?_, hsame, fun report hreport hinserted => ?_⟩
  · obtain ⟨hdry, -⟩ | ⟨_, _, _, _, _, _, _, -, -, -, -, -, hearnest, -⟩ :=
      install_cases ht mishaps s (r.withDryRun true)
    · exact hdry
    · cases hearnest
  rw [hreport] at hsame
  obtain ⟨-, hnot⟩ | ⟨c, workspace, file, e, d, m, t', -, -, -, hedit, hm, -, ⟨hdone, hinstall⟩ | ⟨-, hlost⟩⟩ :=
    install_cases ht mishaps s (r.withDryRun false)
  · exact absurd ⟨hinserted, rfl⟩ (hnot _ hsame)
  rotate_left
  · cases hsame.symm.trans (congrArg Prod.snd hlost)
  have hm' : ({ m with written := true } : Mutation).outcome ≠ .noAnchor := by simp [hm]
  obtain ⟨report', hreport', hreal⟩ :=
    exists_report_of_edited (show (r.withDryRun false).dryRun.flag? = some false from rfl) workspace file hm'
  have hreal' : real = (t', .ok report') := hinstall.trans (by rw [hreport'])
  rw [hreal'] at hsame
  cases hsame
  obtain ⟨bytes, before, after, hbytes, hbefore, hafter, hdiff, hne⟩ := diff_of_edit ht hedit hm hdone
  refine ⟨file.path, bytes, before, after, hreal.file, hbytes, hbefore, ?_, hreal.diff.trans hdiff, hne⟩
  rw [hreal']
  exact hafter

/-- An installation into a file with a byte order mark, carriage returns, and no ending after its last line. -/
def markedProject : Tree := oneFileProject (Utf8.encode markedText) 0o644

def markedRequest : Request := ⟨.text "p".toList, .text "id".toList, .text "secret".toList, .null⟩

theorem isProper_markedProject : markedProject.IsProper := isProper_oneFileProject _ _

theorem canWrite_markedProject : markedProject.CanWrite noMishaps .byDefault markedRequest := by
  intro c workspace file e d m hvalid hfinds heditor hedit _
  have hworkspace : (markedProject.workspaceAt? markedRequest.root).toOption = some (some "p".toList) := by
    decide +kernel
  have hlocated : (markedProject.locate .byDefault "p".toList).toOption =
      some (.found ⟨"p/App.swift".toList, .annotatedRoot⟩) := by decide +kernel
  have hwritten : ((markedProject.edit editorByDefault "p/App.swift".toList (some .annotatedRoot)
      demoCredentials).toOption.map fun edited =>
        (markedProject.writeDocument noMishaps editorByDefault.plan.preserveEndings edited.1).2.toOption) =
      some (some ()) := by decide +kernel
  cases hvalid
  cases editor_byDefault.symm.trans heditor
  cases hfinds.isWorkspace.symm.trans (Except.of_toOption_eq_some hworkspace)
  cases hfinds.located.symm.trans (Except.of_toOption_eq_some hlocated)
  rw [show markedProject.edit editorByDefault "p/App.swift".toList (some .annotatedRoot) demoCredentials =
    .ok (d, m) from hedit] at hwritten
  exact Except.of_toOption_eq_some (Option.some.inj hwritten)

/-- The mark and the carriage returns are kept, and the diff is the one for show. -/
theorem dryRun_predicts_of_marked_file : ∃ report before after,
    markedProject.install noMishaps .byDefault (markedRequest.withDryRun true) = (markedProject, .ok report) ∧
    report.outcome = .inserted ∧
    (markedProject.install noMishaps .byDefault (markedRequest.withDryRun false)).2 = .ok report.inEarnest ∧
    markedProject.readFile "p/App.swift".toList = .ok (Utf8.encode before) ∧
    (markedProject.install noMishaps .byDefault (markedRequest.withDryRun false)).1.readFile
      "p/App.swift".toList = .ok (Utf8.encode after) ∧
    report.diff = some (Patch.unified "p/App.swift".toList before after) ∧
    Patch.unified "p/App.swift".toList before after ≠ [] := by
  obtain ⟨hsame, hreal, hdiff⟩ := dryRun_predicts isProper_markedProject canWrite_markedProject
  have hseen : (markedProject.install noMishaps .byDefault (markedRequest.withDryRun true)).2.toOption.map
      (fun report => (report.outcome, report.file)) = some (.inserted, some "p/App.swift".toList) := by
    decide +kernel
  obtain ⟨report, hreport, hreported⟩ := Option.map_eq_some_iff.1 hseen
  obtain ⟨houtcome, hfile⟩ := Prod.mk.inj hreported
  have hdone := Except.of_toOption_eq_some hreport
  obtain ⟨path, bytes, before, after, hpath, hbytes, hbefore, hafter, hshown, hne⟩ := hdiff report hdone houtcome
  rw [hfile] at hpath
  cases hpath
  rw [← Utf8.encode_of_decode hbefore] at hbytes
  exact ⟨report, before, after, Prod.ext hsame hdone, houtcome, hreal.trans (by rw [hdone]; rfl), hbytes, hafter,
    hshown, hne⟩

end SdkGraft.Tree
