import SdkGraft.Proofs.Install.Contents
import SdkGraft.Proofs.Install.Locate
import SdkGraft.Proofs.Install.Stages

/-!
# What an installation leaves as it was

* `Tree.InsertedInto` : what stands in a tree after something was inserted, and not only for show;
* `Tree.LeftBehind` : what stands there where it could not be encoded;
* `Tree.Frame`, `install_frame` : what an installation leaves as it was, by how it ended;
* `install_leaves_traces` : a fault that comes late leaves more than the tree as it was.
-/

namespace SdkGraft.Tree

open Install

variable {t t' : Tree} {s : Settings} {r : Request}

/-- The file holds the document `d`, and the initialization grafted into it makes that `d'`. -/
structure Edits (t : Tree) (s : Settings) (r : Request) (file : EntryFile) (e : Editor) (d d' : Source.Document) :
    Prop where
  editor : s.editor = .ok e
  read : t.readDocument file.path = .ok d
  inserted : ∃ c edit, Credentials.validate r.clientId r.clientSecret = .ok c ∧
    Source.graft e.plan d (Source.classify e.patterns (some file.kind) d.lines) c = .ok (d', edit) ∧
    edit.outcome = .inserted

/-- `t'` is `t` but for the file: it holds the document that was read there with the initialization grafted into
it. -/
def InsertedInto (t t' : Tree) (s : Settings) (r : Request) (file : EntryFile) : Prop :=
  ∃ e d d', t.Edits s r file e d d' ∧ t.Overwritten t' file.path (Utf8.encode (d'.render e.plan.preserveEndings))

/-- `t'` is `t` but for a new file with nothing in it, named like a spare file for the one that was to be written: the
edited document cannot be encoded. -/
def LeftBehind (t t' : Tree) (mishaps : Mishaps) (s : Settings) (r : Request) (file : EntryFile) : Prop :=
  ∃ e d d', t.Edits s r file e d d' ∧ (∃ c ∈ d'.render e.plan.preserveEndings, mishaps.isLone c = true) ∧
    ∃ place, ∃ letters ∈ mishaps.letters, t.resolve (t.spareDirectory file.path) = .ok place ∧
      IsNew t t' (place ++ [spareName (Path.name file.path) letters]) [] privateMode

/-- How an installation has left a tree, by how it ended. -/
structure Frame (t : Tree) (mishaps : Mishaps) (s : Settings) (r : Request) (done : Tree × Except Fault Report) :
    Prop where
  dryRun : r.dryRun.isSet = true → done.1 = t
  kept : ∀ report, done.2 = .ok report → report.outcome ≠ .inserted → done.1 = t
  inserted : ∀ report, done.2 = .ok report → report.outcome = .inserted → r.dryRun.isSet = false →
    ∃ file, report.file = some file.path ∧ report.kind = some file.kind ∧ t.InsertedInto done.1 s r file
  fault : ∀ f, done.2 = .error f → done.1 = t ∨
    (f = .noFlag ∧ r.dryRun.flag? = none ∧ ∃ file, t.InsertedInto done.1 s r file) ∨
    (f = .unencodable ∧ ∃ file, t.LeftBehind done.1 mishaps s r file)

theorem LeavesSpare.exists_isNew {path text : Text} (h : t.LeavesSpare t' mishaps path text) :
    ∃ place, ∃ letters ∈ mishaps.letters, t.resolve (t.spareDirectory path) = .ok place ∧
      IsNew t t' (place ++ [spareName (Path.name path) letters]) [] privateMode := by
  obtain ⟨spare, hspare, rfl⟩ := h.exists_spare
  obtain ⟨letters, hletters, hname, -, hroom⟩ := spareFor_eq_ok (of_attempt_eq_ok hspare)
  exact ⟨spare.place, letters, hletters, (roomFor_eq_ok_iff.1 hroom).2.1,
    hname ▸ (isSpare_of_create hspare).isNew [] privateMode⟩

/-- Whatever comes of an installation, the tree is as it was unless something was inserted, and not only for
show; then only the file that was told has changed, and it holds the edited document. There are two exceptions among
the faults: the file has been written where what was given for a dry run stands for no truth value, and an empty spare
file has been left where the edited document cannot be encoded. -/
theorem install_frame (ht : t.IsProper) (mishaps : Mishaps) (s : Settings) (r : Request) :
    t.Frame mishaps s r (t.install mishaps s r) := by
  obtain ⟨hsame, hnot⟩ | ⟨c, workspace, file, e, d', m, t', hvalid, -, heditor, hedit, hinserted, hdry, hwrites⟩ :=
    install_cases ht mishaps s r
  · exact ⟨fun _ => hsame, fun _ _ _ => hsame,
      fun report hreport hinserted hdry => absurd ⟨hinserted, hdry⟩ (hnot report hreport), fun _ _ => .inl hsame⟩
  obtain ⟨d, edit, hread, hpath, hgraft, hmade⟩ := exists_graft_of_edit hedit
  have hedits : t.Edits s r file e d d' := by
    have hgrafts : edit.outcome = .inserted := by
      rw [hmade] at hinserted
      exact hinserted
    rw [target?_of_graft_inserted hgraft hgrafts] at hgraft
    exact ⟨heditor, hread, c, edit, hvalid, hgraft, hgrafts⟩
  have hearnest : ¬ r.dryRun.isSet = true := by rw [hdry]; exact Bool.false_ne_true
  obtain ⟨hwrite, hinstall⟩ | ⟨hleft, hinstall⟩ := hwrites
  · obtain ⟨old, spot, hwritten⟩ := written_of_writeDocument ht (hpath ▸ hread) hwrite
    rw [hpath] at hwritten
    have hinto : t.InsertedInto t' s r file := ⟨e, d, d', hedits, hwritten.overwritten⟩
    have hm : ({ m with written := true } : Mutation).outcome ≠ .noAnchor := by simp [hinserted]
    rw [hinstall]
    cases hflag : r.dryRun.flag? with
    | none =>
      rw [edited_of_flag?_eq_none hflag workspace file hm]
      exact ⟨fun h => absurd h hearnest, nofun, nofun, fun f hf => .inr (.inl ⟨(Except.error.inj hf).symm, hflag, file,
        hinto⟩)⟩
    | some dryRun =>
      obtain ⟨report, hreport, houtcome, hfile, hkind, -⟩ := exists_report_of_edited hflag workspace file hm
      rw [hreport]
      refine ⟨fun h => absurd h hearnest, fun report' h hne => ?_, fun report' h _ _ => ?_, nofun⟩
      · cases h
        exact absurd (houtcome.trans (congrArg InstallOutcome.ofEdit hinserted)) hne
      · cases h
        exact ⟨file, hfile, hkind, hinto⟩
  · rw [hinstall]
    rw [hpath] at hleft
    exact ⟨fun h => absurd h hearnest, nofun, nofun,
      fun f hf => .inr (.inr ⟨(Except.error.inj hf).symm, file, e, d, d', hedits, hleft.lone, hleft.exists_isNew⟩)⟩

def requestWith (clientSecret : Text) (dryRun : Value) : Request :=
  ⟨.text "p".toList, .text "id".toList, .text clientSecret, dryRun⟩

/-- A file that nobody else may read is edited, and nobody else may read it then. -/
theorem install_frame_of_private_file :
    let t := oneFileProject (Utf8.encode demoText) 0o600
    let r := requestWith "secret".toList (.bool false)
    ∃ report file, (t.install noMishaps .byDefault r).2 = .ok report ∧ report.file = some "p/App.swift".toList ∧
      file.path = "p/App.swift".toList ∧ t.InsertedInto (t.install noMishaps .byDefault r).1 .byDefault r file := by
  intro t r
  have hseen : (t.install noMishaps .byDefault r).2.toOption.map (fun report => (report.outcome, report.file)) =
      some (.inserted, some "p/App.swift".toList) := by
    decide +kernel
  obtain ⟨report, hreport, hreported⟩ := Option.map_eq_some_iff.1 hseen
  obtain ⟨houtcome, hfile⟩ := Prod.mk.inj hreported
  have hdone := Except.of_toOption_eq_some hreport
  obtain ⟨file, htold, -, hinto⟩ :=
    (install_frame (isProper_oneFileProject _ _) noMishaps .byDefault r).inserted report hdone houtcome rfl
  exact ⟨report, file, hdone, hfile, Option.some.inj (htold.symm.trans hfile), hinto⟩

/-- The secret holds a character that stands for a code unit without bytes. -/
def loneMishaps : Mishaps := { noMishaps with isLone := fun c => c == '\ufffd' }

/-- An installation that is asked for a dry run with an empty text writes the file and gives no report; one whose secret
cannot be encoded leaves a spare file. -/
theorem install_leaves_traces :
    let t := oneFileProject (Utf8.encode demoText) 0o644
    (∃ f, (t.install noMishaps .byDefault (requestWith "secret".toList (.text []))).2 = .error f) ∧
    (t.install noMishaps .byDefault (requestWith "secret".toList (.text []))).1.readFile "p/App.swift".toList ≠
      t.readFile "p/App.swift".toList ∧
    (∃ f, (t.install loneMishaps .byDefault (requestWith "s\ufffd".toList (.bool false))).2 = .error f) ∧
    (t.install loneMishaps .byDefault (requestWith "s\ufffd".toList (.bool false))).1.readFile
      "p/.App.swift.________.tmp".toList = .ok [] ∧
    t.readFile "p/.App.swift.________.tmp".toList = .error .notFound := by
  intro t
  have herror : ∀ {result : Except Fault Report}, result.toOption = none → ∃ f, result = .error f := by
    intro result h
    cases result with
    | error f => exact ⟨f, rfl⟩
    | ok report => cases h
  refine ⟨herror (by decide +kernel), fun hsame => ?_, herror (by decide +kernel),
    Except.of_toOption_eq_some (by decide +kernel), rfl⟩
  exact absurd (congrArg Except.toOption hsame) (by decide +kernel)

end SdkGraft.Tree
