import SdkGraft.Install.Detect
import SdkGraft.Install.Rendering
import SdkGraft.Proofs.Install.Faults
import SdkGraft.Proofs.Install.Settled

/-!
# Looking finds what an installation does

* `Detection.Foretells` : what can be found, and how an installation ends where it is;
* `Tree.Matches` : what was found tells how an installation ended, and which line its code follows;
* `Tree.Agree` : so it does, or the same went wrong for both;
* `detect_agrees` : looking agrees with an installation that is only for show.
-/

namespace SdkGraft

open Source (Document Edit EntryKind EntryPatterns Target)
open Install (Request Report InstallOutcome Tells)

/-! ## What is foretold -/

/-- What can be found, and how an installation ends where it is. -/
inductive Detection.Foretells : Detection → InstallOutcome → Prop where
  | noWorkspace (root : Text) : Foretells ⟨root, false, false, none, none, false, false⟩ .noWorkspace
  | notAProject (root : Text) : Foretells ⟨root, true, false, none, none, false, false⟩ .notAProject
  | noEntryPoint (root : Text) : Foretells ⟨root, true, true, none, none, false, false⟩ .noEntryPoint
  | alreadyPresent (root : Text) (file : EntryFile) (anchorLine : Option Int) (hasConstructor : Bool) :
      Foretells ⟨root, true, true, some file, anchorLine, hasConstructor, true⟩ .alreadyPresent
  | noAnchor (root : Text) (file : EntryFile) :
      Foretells ⟨root, true, true, some file, none, false, false⟩ .noAnchor
  | inserted (root : Text) (file : EntryFile) (line : Int) (hasConstructor : Bool) :
      Foretells ⟨root, true, true, some file, some line, hasConstructor, false⟩ .inserted

namespace Tree

/-- No line of the document in the file is one to put the code behind. -/
def LacksAnchor (t : Tree) (s : Settings) (file : EntryFile) : Prop :=
  ∃ (e : Editor) (d : Document), s.editor = .ok e ∧ t.readDocument file.path = .ok d ∧
    Source.classify e.patterns (some file.kind) d.lines = none

/-- The diff shows the code directly behind line `a` of the document in the file. -/
def ShowsBehind (t : Tree) (s : Settings) (c : Credentials) (file : EntryFile) (a : Nat) (diff : Option Text) :
    Prop :=
  ∃ (e : Editor) (d d' : Document) (edit : Edit) (target : Target) (unit : Text), s.editor = .ok e ∧
    t.readDocument file.path = .ok d ∧ Source.classify e.patterns (some file.kind) d.lines = some target ∧
    target.anchor = a ∧
    Source.Grafted e.plan.sdk d a (Source.graftCode e.plan.sdk d target c a unit) d' edit ∧
    diff = some (d'.diff e.plan.preserveEndings)

/-- What was found tells how an installation ended. Where nothing was inserted for want of a place, the document
has none; where something was, the code follows the line that was found. -/
structure Matches (t : Tree) (s : Settings) (c : Credentials) (found : Detection) (report : Report) : Prop where
  noWorkspace : found.workspace = false ↔ report.outcome = .noWorkspace
  notAProject : (found.workspace = true ∧ found.project = false) ↔ report.outcome = .notAProject
  noEntryPoint : (found.project = true ∧ found.file = none) ↔ report.outcome = .noEntryPoint
  alreadyPresent : found.installed = true ↔ report.outcome = .alreadyPresent
  noAnchor : (found.file.isSome = true ∧ found.installed = false ∧ found.anchorLine = none) ↔
    report.outcome = .noAnchor
  inserted : (found.file.isSome = true ∧ found.installed = false ∧ found.anchorLine.isSome = true) ↔
    report.outcome = .inserted
  readable : report.outcome ≠ .ioError
  root : report.root = found.root
  file : report.file = found.file.map EntryFile.path
  kind : report.kind = found.file.map EntryFile.kind
  lacks : report.outcome = .noAnchor → ∃ file, found.file = some file ∧ t.LacksAnchor s file
  follows : ∀ n, report.outcome = .inserted → found.anchorLine = some n →
    ∃ (file : EntryFile) (a : Nat), found.file = some file ∧ n = a + 1 ∧ t.ShowsBehind s c file a report.diff

/-- Looking agrees with an installation: the same went wrong for both, or the installation tells of the source
file that looking failed at, or what was found tells how the installation ended. -/
inductive Agree (t : Tree) (s : Settings) (c : Credentials) :
    Except Fault Detection → Except Fault Report → Prop where
  | fault {f : Fault} (h : ∀ error, f ≠ .document error) : Agree t s c (.error f) (.error f)
  | unreadable {error : DocumentError} {report : Report} (houtcome : report.outcome = .ioError)
      (hmessage : report.message = error.message) : Agree t s c (.error (.document error)) (.ok report)
  | found {found : Detection} {report : Report} (h : t.Matches s c found report) :
      Agree t s c (.ok found) (.ok report)

variable {t : Tree} {s : Settings} {c : Credentials} {found : Detection} {r : Request} {report : Report}

theorem matches_of_foretells {outcome : InstallOutcome} (h : found.Foretells outcome) {message : Text}
    {diff : Option Text} (htells : Tells r outcome message found.file diff report)
    (hroot : r.rootText = found.root)
    (hlacks : outcome = .noAnchor → ∃ file, found.file = some file ∧ t.LacksAnchor s file)
    (hfollows : ∀ n, outcome = .inserted → found.anchorLine = some n →
      ∃ (file : EntryFile) (a : Nat), found.file = some file ∧ n = a + 1 ∧ t.ShowsBehind s c file a diff) :
    t.Matches s c found report := by
  rw [← htells.outcome] at hlacks hfollows
  rw [← htells.diff] at hfollows
  refine ⟨?_, ?_, ?_, ?_, ?_, ?_, ?_, htells.root.trans hroot, htells.file, htells.kind, hlacks, hfollows⟩
  all_goals
    rw [htells.outcome]
    cases h <;> simp

/-- An installation that ends before there is a file to edit is foretold. -/
theorem exists_matches_of_failed {dryRun : Bool} (hflag : r.dryRun.flag? = some dryRun) {outcome : InstallOutcome}
    (h : found.Foretells outcome) (hroot : r.rootText = found.root) (hfile : found.file = none)
    {p p' : Install.Progress} {step : Install.Step} {message : Text} (hp : p.fail step (some message) = .ok p') :
    ∃ report, r.failed p step outcome message none = .ok report ∧ t.Matches s c found report := by
  obtain ⟨report, hreport, htells⟩ := Install.exists_report_of_failed hflag p step message hp outcome none
  refine ⟨report, hreport, matches_of_foretells h (hfile ▸ htells) hroot (fun houtcome => ?_)
    fun _ houtcome _ => ?_⟩
  all_goals
    subst houtcome
    cases h
    cases hfile

/-! ## The file to edit -/

def answer (r : Request) (p : Install.Progress) (file : EntryFile) :
    Except Fault (Document × Mutation) → Except Fault Report
  | .ok (_, m) => r.edited p file m
  | .error (.document error) => r.failed p .insertion .ioError error.message (some file)
  | .error f => .error f

theorem complete_of_dryRun {e : Editor} (heditor : s.editor = .ok e) (hdry : r.dryRun = .bool true)
    (mishaps : Mishaps) (p : Install.Progress) (c : Credentials) (file : EntryFile) :
    (t.complete mishaps s r p c file).2 = answer r p file (t.edit e file.path (some file.kind) c) := by
  rw [complete_eq, heditor]
  simp only
  rw [show r.dryRun.isSet = true by rw [hdry]; rfl, mutate_of_dryRun]
  cases t.edit e file.path (some file.kind) c with
  | ok done => rfl
  | error f => cases f <;> rfl

section
variable (hdry : r.dryRun = .bool true) {file : EntryFile}
include hdry

theorem agree_of_document {e : Editor} (heditor : s.editor = .ok e) {d : Document}
    (hread : t.readDocument file.path = .ok d) {indent : Text} (hindent : e.plan.defaultIndent = some indent)
    (hwritable : e.plan.isWritable = true) (workspace : Text) :
    let target := Source.classify e.patterns (some file.kind) d.lines
    t.Agree s c
      (.ok ⟨r.rootText, true, true, some file, target.map fun target => target.anchor + 1,
        (target.map (·.hasConstructor)).getD false, Source.isInstalled e.plan.sdk d⟩)
      (answer r (.atInsertion workspace file) file (t.edit e file.path (some file.kind) c)) := by
  have hflag : r.dryRun.flag? = some true := by rw [hdry]; rfl
  intro target
  cases hinstalled : Source.isInstalled e.plan.sdk d with
  | true =>
    rw [edit_of_isInstalled hread hinstalled]
    obtain ⟨report, hreport, htells⟩ := Install.exists_report_of_edited hflag workspace file
      (m := e.mutation none d (.nothing .alreadyPresent)) (by simp [Editor.mutation, Edit.nothing])
    rw [answer, hreport]
    exact .found (matches_of_foretells (.alreadyPresent ..) htells rfl (fun h => by cases h)
      fun _ h => by cases h)
  | false =>
  cases hclassify : target with
  | none =>
    rw [edit_of_classify_eq_none hread hinstalled hclassify]
    obtain ⟨report, hreport, htells⟩ := Install.exists_report_of_noAnchor hflag workspace file
      (m := e.mutation none d (.nothing .noAnchor)) rfl
    rw [answer, hreport]
    exact .found (matches_of_foretells (.noAnchor ..) htells rfl
      (fun _ => ⟨file, rfl, e, d, heditor, hread, hclassify⟩) fun _ h => by cases h)
  | some target =>
    obtain ⟨a, unit, d', made, hanchor, hgrafted, hedit⟩ :=
      exists_edit_of_classify hread hinstalled hclassify hindent hwritable c
    rw [hedit]
    have hinserted : (e.mutation (some target) d' made).outcome = .inserted := hgrafted.outcome
    obtain ⟨report, hreport, htells⟩ := Install.exists_report_of_edited hflag workspace file
      (m := e.mutation (some target) d' made) (by simp [hinserted])
    rw [hinserted] at htells
    rw [answer, hreport]
    refine .found (matches_of_foretells (.inserted ..) htells rfl (fun h => by cases h) fun n _ hn => ?_)
    have hline : n = a + 1 := (Option.some.inj hn).symm.trans (congrArg (· + 1) hanchor)
    exact ⟨file, a, rfl, hline, e, d, d', made, target, unit, heditor, hread, hclassify, hanchor, hgrafted,
      if_pos hgrafted.outcome⟩

theorem agree_of_file
    (hindent : ∀ v, s.editingSetting "default_indent".toList = .ok v → ∃ indent, v = .text indent)
    (hanswer : ∀ v ∈ s.sdk.get? "success_case".toList, v.showFault? s.showing = none) (mishaps : Mishaps)
    (workspace : Text) :
    t.Agree s c (t.detectIn s ⟨r.rootText, true, true, none, none, false, false⟩ file)
      (t.complete mishaps s r (.atInsertion workspace file) c file).2 := by
  cases heditor : s.editor with
  | error f =>
    rw [detectIn, complete, heditor]
    exact .fault (s.failsByLooking_editor.sparesDocuments.of_error heditor)
  | ok e =>
  rw [detectIn, heditor, Except.ok_bind, complete_of_dryRun heditor hdry]
  cases hread : t.readDocument file.path with
  | error f =>
    have hedit : t.edit e file.path (some file.kind) c = .error f := by rw [edit, hread]
    rw [hedit]
    cases f with
    | document error =>
      obtain ⟨report, hreport, htells⟩ :=
        Install.exists_report_of_failed (show r.dryRun.flag? = some true by rw [hdry]; rfl)
          (.atInsertion workspace file) .insertion error.message rfl .ioError (some file)
      rw [answer, hreport]
      exact .unreadable htells.outcome htells.message
    | _ => exact .fault fun _ h => by cases h
  | ok d =>
    have hplan := Settings.states_of_editor heditor
    obtain ⟨v, hv, hdefault⟩ := hplan.indent
    obtain ⟨indent, rfl⟩ := hindent v hv
    obtain ⟨answer, hcase, -, hfault⟩ := hplan.answer
    have hwritable : e.plan.isWritable = true := by
      rw [Source.Plan.isWritable, hfault, hanswer answer hcase]
      rfl
    exact agree_of_document hdry heditor hread hdefault hwritable workspace

end

/-! ## The whole installation -/

/-- Before the file to edit is found, looking and an installation take the same steps. -/
theorem agree_of_steps {root : Option Text} (hroot : r.root = .ofText? root) (hdry : r.dryRun = .bool true)
    (hvalid : Credentials.validate r.clientId r.clientSecret = .ok c) (mishaps : Mishaps)
    (hfile : ∀ workspace file, t.Agree s c (t.detectIn s ⟨r.rootText, true, true, none, none, false, false⟩ file)
      (t.complete mishaps s r (.atInsertion workspace file) c file).2) :
    t.Agree s c (t.detect s root) (t.install mishaps s r).2 := by
  have hflag : r.dryRun.flag? = some true := by rw [hdry]; rfl
  have htext : root.getD [] = r.rootText := by rw [Request.rootText, hroot]; cases root <;> rfl
  have hprepare : t.prepare s r = t.prepareProject s r .atProject c := by
    rw [prepare, hvalid]
    rfl
  have hwhere : t.workspaceAt? r.root = t.workspace? root := by rw [hroot]; cases root <;> rfl
  rw [detect, install, hprepare, prepareProject, hwhere, Detection.blank, htext]
  cases hworkspace : t.workspace? root with
  | error f => exact .fault ((t.failsByLooking_workspace? root).sparesDocuments.of_error hworkspace)
  | ok found? =>
  cases found? with
  | none =>
    obtain ⟨report, hreport, hmatches⟩ := exists_matches_of_failed hflag (.noWorkspace r.rootText) rfl rfl
      (rfl : Install.Progress.atProject.fail .project (some (noWorkspaceMessage ++ ['.'])) = _)
    rw [Except.ok_bind, Except.ok_bind]
    simp only
    rw [hreport]
    exact .found hmatches
  | some workspace =>
  rw [Except.ok_bind, Except.ok_bind]
  simp only
  cases hproject : t.isProject s workspace with
  | error f => exact .fault ((t.failsByLooking_isProject s workspace).sparesDocuments.of_error hproject)
  | ok isProject =>
  cases isProject with
  | false =>
    obtain ⟨report, hreport, hmatches⟩ := exists_matches_of_failed hflag (.notAProject r.rootText) rfl rfl
      (rfl : Install.Progress.atProject.fail .project (some (noProjectMessage workspace ++ ['.'])) = _)
    rw [Except.ok_bind, Except.ok_bind, if_neg (by simp), if_neg (by simp), hreport]
    exact .found hmatches
  | true =>
  rw [Except.ok_bind, Except.ok_bind, if_pos rfl, if_pos rfl, Install.passed_project, Except.ok_bind, prepareEntry]
  cases hlocated : t.locate s workspace with
  | error f => exact .fault ((t.failsByLooking_locate s workspace).sparesDocuments.of_error hlocated)
  | ok located =>
  rw [Except.ok_bind, Except.ok_bind]
  cases located with
  | missing delegateFile marker =>
    obtain ⟨report, hreport, hmatches⟩ := exists_matches_of_failed hflag (.noEntryPoint r.rootText) rfl rfl
      (rfl : (Install.Progress.atEntryPoint workspace).fail .entryPoint
        (some (missingMessage delegateFile marker ++ ['.'])) = _)
    simp only
    rw [hreport]
    exact .found hmatches
  | found file => exact hfile workspace file

/-- Looking agrees with an installation that is only for show, whatever there is to find; and a target that is
found lies inside its document. -/
theorem detect_agrees (t : Tree) (s : Settings) (root : Option Text) (clientId clientSecret : Value)
    (hvalid : Credentials.validate clientId clientSecret = .ok c)
    (hindent : ∀ v, s.editingSetting "default_indent".toList = .ok v → ∃ indent, v = .text indent)
    (hanswer : ∀ v ∈ s.sdk.get? "success_case".toList, v.showFault? s.showing = none) (mishaps : Mishaps) :
    t.Agree s c (t.detect s root)
        (t.install mishaps s ⟨.ofText? root, clientId, clientSecret, .bool true⟩).2 ∧
      ∀ (p : EntryPatterns) (kind : Option EntryKind) (lines : List Text) (target : Target),
        Source.classify p kind lines = some target → 0 ≤ target.anchor ∧ target.anchor < lines.length :=
  ⟨agree_of_steps rfl rfl hvalid mishaps fun workspace _ => agree_of_file rfl hindent hanswer mishaps workspace,
    fun _ _ _ _ h => Source.anchor_of_classify h⟩

/-- A project without the library. -/
def demoProject : Tree := oneFileProject (Utf8.encode demoText) 0o644

def demoRequest : Request := ⟨.text "p".toList, .text "id".toList, .text "secret".toList, .bool true⟩

/-- In a project without the library, what is found tells of an insertion. -/
theorem detect_agrees_of_demo :
    (∃ report, (demoProject.install noMishaps .byDefault demoRequest).2 = .ok report ∧
      report.outcome = .inserted) ∧
    demoProject.Agree .byDefault demoCredentials (demoProject.detect .byDefault (some "p".toList))
      (demoProject.install noMishaps .byDefault demoRequest).2 := by
  have hseen : (demoProject.install noMishaps .byDefault demoRequest).2.toOption.map (·.outcome) =
      some .inserted := by decide +kernel
  obtain ⟨report, hreport, houtcome⟩ := Option.map_eq_some_iff.1 hseen
  refine ⟨⟨report, Except.of_toOption_eq_some hreport, houtcome⟩, ?_⟩
  have hindent : ∀ v, Settings.byDefault.editingSetting "default_indent".toList = .ok v →
      ∃ indent, v = .text indent := fun v hv => ⟨"    ".toList, (Except.ok.inj hv).symm⟩
  have hanswer : ∀ v ∈ Settings.byDefault.sdk.get? "success_case".toList,
      v.showFault? Settings.byDefault.showing = none :=
    fun v hv => by
      cases hv
      rfl
  exact (detect_agrees demoProject .byDefault (some "p".toList) (.text "id".toList) (.text "secret".toList)
    (c := demoCredentials) rfl hindent hanswer noMishaps).1

/-- A configuration file where the answer that means success is a whole number with one digit too many. -/
def longAnswer : Table :=
  [("sdk".toList, .table [("success_case".toList, .int (.ofNat (Nat.pow 10 Value.mostDigits)))])]

def longAnswerSettings : Settings where
  table := Settings.defaults.overlay longAnswer
  sdk := [("module".toList, .text "Plengi".toList), ("init_call".toList, .text "Plengi.initialize".toList),
    ("success_case".toList, .int (.ofNat (Nat.pow 10 Value.mostDigits)))]
  moduleName := Settings.byDefault.moduleName
  initCall := Settings.byDefault.initCall
  bundleSuffixes := Settings.byDefault.bundleSuffixes
  skipDirs := Settings.byDefault.skipDirs
  entryPoint := Settings.byDefault.entryPoint
  editing := Settings.byDefault.editing
  showing := Settings.byDefault.showing

/-- Where the answer that means success has too many digits to be written, looking finds a place for the code,
and an installation fails at writing it. -/
theorem detect_disagrees_on_long_answer : Settings.ofLayers .plenty (some longAnswer) .null = .ok longAnswerSettings ∧
    longAnswerSettings.editingSetting "default_indent".toList = .ok (.text "    ".toList) ∧
    Credentials.validate demoRequest.clientId demoRequest.clientSecret = .ok demoCredentials ∧
    ¬ demoProject.Agree longAnswerSettings demoCredentials
      (demoProject.detect longAnswerSettings (some "p".toList))
      (demoProject.install noMishaps longAnswerSettings demoRequest).2 := by
  refine ⟨rfl, rfl, rfl, fun h => ?_⟩
  have hfound : (demoProject.detect longAnswerSettings (some "p".toList)).toOption.isSome = true := by
    decide +kernel
  have hfault : (demoProject.install noMishaps longAnswerSettings demoRequest).2.toOption.isSome = false := by
    decide +kernel
  generalize demoProject.detect longAnswerSettings (some "p".toList) = found at h hfound
  generalize (demoProject.install noMishaps longAnswerSettings demoRequest).2 = done at h hfault
  cases h with
  | fault => cases hfound
  | unreadable => cases hfound
  | found => cases hfault

end Tree

end SdkGraft
