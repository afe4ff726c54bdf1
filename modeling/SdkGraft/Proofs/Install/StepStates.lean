import SdkGraft.Proofs.Install.Faults
import SdkGraft.Proofs.Install.Progress
import SdkGraft.Proofs.Install.Stages

/-!
# Outcomes and steps tell the same

* `InstallOutcome.stepStates` : the states of the steps that go with an outcome;
* `Report.IsConsistent` : the steps of a report tell its outcome, and the listener has been told of them;
* `Progress.IsDue` : a step that is next: all before it have succeeded (`Progress.IsDue.passed`), and a report that it
  ends is consistent (`Progress.IsDue.isConsistent`);
* `InOrder` : no step has been taken out of its order, and the result is as it should be: so for each stage
  (`inOrder_prepareEntry`, `inOrder_prepareProject`, `inOrder_prepare`, `inOrder_complete`);
* `install_stepStates` : so for an installation.
-/

namespace SdkGraft.Install

/-! ## Reports -/

def InstallOutcome.stepStates : InstallOutcome → List StepState
  | .invalidCredentials => [.failed, .pending, .pending, .pending]
  | .noWorkspace | .notAProject => [.success, .failed, .pending, .pending]
  | .noEntryPoint => [.success, .success, .failed, .pending]
  | .noAnchor | .ioError => [.success, .success, .success, .failed]
  | .inserted | .alreadyPresent => [.success, .success, .success, .success]

/-- The steps of a report tell its outcome, and the listener has been told of the finished ones, of each once. -/
structure Report.IsConsistent (report : Report) : Prop where
  steps : report.steps.map Event.step = Step.all
  states : report.steps.map Event.state = report.outcome.stepStates
  blamed : ∀ e ∈ report.steps, e.state = .failed → e.detail = some report.message
  success : report.outcome.isSuccess = true ↔ ∀ e ∈ report.steps, e.state ≠ .failed
  told : report.told = report.steps.filter fun e => e.state != .pending

/-- An outcome is a success where none of its steps has failed. -/
theorem InstallOutcome.isSuccess_iff (o : InstallOutcome) : o.isSuccess = true ↔ StepState.failed ∉ o.stepStates := by
  cases o <;> decide

/-! ## A step that is next -/

namespace Progress

variable {p : Progress} {s : Step} {state : StepState} {detail : Option Text}

/-- The step is next: all before it have succeeded, and none has failed. -/
structure IsDue (p : Progress) (s : Step) : Prop where
  sound : p.Sound
  admits : p.Admits s

/-- The states of all steps, if those before `s` have succeeded and those behind it are pending. -/
def statesAround (s : Step) (state : StepState) (s' : Step) : StepState :=
  if s' ∈ s.before then .success else if s' = s then state else .pending

theorem isDue_start : start.IsDue .credentials where
  sound := sound_start
  admits := ⟨rfl, fun _ h => by cases h⟩

theorem IsDue.states_record (h : p.IsDue s) (state : StepState) (detail : Option Text) (s' : Step) :
    (p.record ⟨s, state, detail⟩).states s' = statesAround s state s' := by
  obtain ⟨hpending, hbefore⟩ := h.sound.admits_iff.1 h.admits
  obtain ⟨after, hall, hself, -, hafter⟩ := s.exists_all_eq
  unfold statesAround
  by_cases hs : s' = s
  · subst hs
    rw [if_neg hself, if_pos rfl]
    exact if_pos rfl
  rw [states_record_of_ne hs, if_neg hs]
  split
  · rename_i hmem
    exact hbefore s' hmem
  · rename_i hmem
    have hlater : s' ∈ after := by
      have hs' := s'.mem_all
      rw [hall, List.mem_append, List.mem_cons] at hs'
      exact (hs'.resolve_left hmem).resolve_left hs
    exact h.sound.pending_of_pending hpending (hafter s' hlater)

theorem IsDue.sound_record (h : p.IsDue s) (hstate : state ≠ .pending) : (p.record ⟨s, state, detail⟩).Sound := by
  obtain ⟨hpending, hbefore⟩ := h.sound.admits_iff.1 h.admits
  exact h.sound.record hstate hpending hbefore

theorem IsDue.move (h : p.IsDue s) (state : StepState) (detail : Option Text) :
    p.move ⟨s, state, detail⟩ = .ok (p.record ⟨s, state, detail⟩) :=
  move_eq_ok_iff.2 ⟨h.sound.admits_iff.1 h.admits, rfl⟩

/-- A report that is given when it has been finished is consistent, if the outcome goes with its state. -/
theorem IsDue.isConsistent (h : p.IsDue s) (hstate : state ≠ .pending) {r : Request} {outcome : InstallOutcome}
    (houtcome : outcome.stepStates = Step.all.map (statesAround s state)) {message : Text}
    (hdetail : state = .failed → detail = some message) {file : Option EntryFile} {diff : Option Text}
    {report : Report} (hreport : r.report (p.record ⟨s, state, detail⟩) outcome message file diff = .ok report) :
    report.IsConsistent := by
  rw [Request.report] at hreport
  split at hreport
  · cases hreport
  cases hreport
  have hstates : (p.record ⟨s, state, detail⟩).snapshot.map Event.state = outcome.stepStates := by
    rw [houtcome, snapshot, List.map_map]
    exact List.map_congr_left fun s' _ => h.states_record state detail s'
  refine ⟨?_, hstates, ?_, ?_, (h.sound_record hstate).told⟩
  · show (Step.all.map _).map _ = Step.all
    rw [List.map_map]
    exact List.map_id Step.all
  · intro e he hfailed
    obtain ⟨s', -, rfl⟩ := List.mem_map.1 he
    have hs' : statesAround s state s' = .failed := (h.states_record state detail s').symm.trans hfailed
    unfold statesAround at hs'
    split at hs'
    · cases hs'
    split at hs'
    · rename_i heq
      rw [← hdetail hs']
      exact if_pos heq
    · cases hs'
  · rw [outcome.isSuccess_iff, ← hstates, List.mem_map, not_exists]
    exact forall_congr' fun e => not_and

end Progress

/-! ## Steps in their order -/

section
variable {α β : Type} {P : α → Prop} {Q : β → Prop}

/-- No step has been taken out of its order, and what there is of a result is as `P` says. -/
def InOrder (P : α → Prop) : Except Fault α → Prop
  | .ok a => P a
  | .error f => ∀ m, f ≠ .misstep m

theorem InOrder.bind {x : Except Fault α} (hx : InOrder P x) {f : α → Except Fault β}
    (hf : ∀ a, P a → InOrder Q (f a)) : InOrder Q (x >>= f) := by
  cases x with
  | error e => exact hx
  | ok a => exact hf a hx

theorem InOrder.map {x : Except Fault α} (hx : InOrder P x) {f : α → β} (hf : ∀ a, P a → Q (f a)) :
    InOrder Q (x.map f) := by
  cases x with
  | error e => exact hx
  | ok a => exact hf a hx

theorem inOrder_of_failsByLooking {x : Except Fault α} (hx : FailsByLooking x) : InOrder (fun _ => True) x := by
  cases x with
  | error f =>
    rintro m rfl
    exact hx _ rfl
  | ok a => trivial

end

namespace Progress

variable {p : Progress} {s s' : Step} {r : Request} {outcome : InstallOutcome}

theorem IsDue.report (h : p.IsDue s) {state : StepState} (hstate : state ≠ .pending) {detail : Option Text}
    (houtcome : outcome.stepStates = Step.all.map (statesAround s state)) {message : Text}
    (hdetail : state = .failed → detail = some message) (file : Option EntryFile) (diff : Option Text) :
    InOrder Report.IsConsistent (r.report (p.record ⟨s, state, detail⟩) outcome message file diff) := by
  cases hreport : r.report (p.record ⟨s, state, detail⟩) outcome message file diff with
  | ok report => exact h.isConsistent hstate houtcome hdetail hreport
  | error f =>
    rw [Request.report] at hreport
    split at hreport
    · cases hreport
      exact fun m hm => by cases hm
    · cases hreport

theorem IsDue.passed_eq (h : p.IsDue s) (detail : Option Text) :
    Request.passed p s detail = .ok (p.record ⟨s, .success, detail⟩) := by
  rw [Request.passed, succeed, h.move]
  rfl

theorem IsDue.passed (h : p.IsDue s) (hnext : s'.before = s.before ++ [s]) (detail : Option Text) :
    InOrder (IsDue · s') (Request.passed p s detail) := by
  rw [h.passed_eq]
  have hsound : (p.record ⟨s, .success, detail⟩).Sound := h.sound_record (by simp)
  refine ⟨hsound, hsound.admits_iff.2 ⟨?_, ?_⟩⟩
  · obtain ⟨-, -, hself, -, -⟩ := s'.exists_all_eq
    rw [hnext, List.mem_append, not_or, List.mem_singleton] at hself
    rw [h.states_record, statesAround, if_neg hself.1, if_neg hself.2]
  · intro s'' hs''
    rw [hnext, List.mem_append, List.mem_singleton] at hs''
    rw [h.states_record, statesAround]
    rcases hs'' with hs'' | rfl
    · rw [if_pos hs'']
    · rw [if_pos rfl, ite_self]

theorem IsDue.failed (h : p.IsDue s) (houtcome : outcome.stepStates = Step.all.map (statesAround s .failed))
    (message : Text) (file : Option EntryFile) :
    InOrder Report.IsConsistent (r.failed p s outcome message file) := by
  rw [Request.failed, fail, h.move]
  exact h.report (by simp) houtcome (fun _ => rfl) file none

end Progress

theorem inOrder_edited {p : Progress} (h : p.IsDue .insertion) (r : Request) (file : EntryFile) (m : Mutation) :
    InOrder Report.IsConsistent (r.edited p file m) := by
  by_cases hanchor : m.outcome = .noAnchor
  · rw [Request.edited, if_pos hanchor]
    exact h.failed rfl _ _
  · rw [Request.edited, if_neg hanchor, h.passed_eq, Except.ok_bind]
    refine h.report (by simp) ?_ (fun hfailed => by cases hfailed) _ _
    cases hm : m.outcome with
    | noAnchor => exact absurd hm hanchor
    | _ => rfl

/-- Either the installation has ended, and its report is consistent, or the step that edits is next. -/
def Prepared.IsInOrder : Prepared → Prop
  | .ended report => report.IsConsistent
  | .ready p _ _ => p.IsDue .insertion

end SdkGraft.Install

namespace SdkGraft.Tree

open Install

variable {t : Tree} {s : Settings} {r : Request} {p : Progress} {c : Credentials}

/-! ## The stages -/

theorem inOrder_prepareEntry (h : p.IsDue .entryPoint) (root : Text) :
    InOrder Prepared.IsInOrder (t.prepareEntry s r p c root) := by
  rw [prepareEntry]
  refine (inOrder_of_failsByLooking (t.failsByLooking_locate s root)).bind fun located _ => ?_
  cases located with
  | missing delegateFile marker => exact (h.failed rfl _ _).bind fun report hreport => hreport
  | found file => exact (h.passed rfl _).bind fun p' hp => hp

theorem inOrder_prepareProject (h : p.IsDue .project) : InOrder Prepared.IsInOrder (t.prepareProject s r p c) := by
  rw [prepareProject]
  refine (inOrder_of_failsByLooking (t.failsByLooking_workspaceAt? r.root)).bind fun workspace? _ => ?_
  cases workspace? with
  | none => exact (h.failed rfl _ _).bind fun report hreport => hreport
  | some root =>
    refine (inOrder_of_failsByLooking (t.failsByLooking_isProject s root)).bind fun isProject _ => ?_
    cases isProject with
    | true => exact (h.passed rfl _).bind fun p' hp => inOrder_prepareEntry hp root
    | false => exact (h.failed rfl _ _).bind fun report hreport => hreport

theorem inOrder_prepare (t : Tree) (s : Settings) (r : Request) : InOrder Prepared.IsInOrder (t.prepare s r) := by
  rw [prepare]
  split
  · exact (Progress.isDue_start.failed rfl _ _).map fun report hreport => hreport
  · exact (Progress.isDue_start.passed rfl _).bind fun p hp => inOrder_prepareProject hp

theorem inOrder_edit (t : Tree) (e : Editor) (path : Text) (kind : Option Source.EntryKind) (c : Credentials) :
    InOrder (fun _ => True) (t.edit e path kind c) := by
  rw [edit, readDocument]
  split
  · rename_i f hf
    intro m hm
    split at hf
    · cases hf
      cases hm
    split at hf
    · cases hf
      cases hm
    split at hf <;> cases hf
    cases hm
  · rw [Editor.edit, Source.graftInto]
    cases Source.graft e.plan _ _ c with
    | ok done => trivial
    | error f =>
      cases f with
      | indentNotText => exact fun m hm => by cases hm
      | unwritable => exact fun m hm => Value.ShowFault.fault_ne_misstep _ m hm

theorem inOrder_writeDocument (t : Tree) (mishaps : Mishaps) (preserveEndings : Bool) (d : Source.Document) :
    InOrder (fun _ => True) (t.writeDocument mishaps preserveEndings d).2 := by
  rw [writeDocument, writeText]
  split
  · exact fun m hm => by cases hm
  split
  · rw [abandonText]
    split <;> exact fun m hm => by cases hm
  · simp only
    cases (t.replaceFile mishaps d.path (Utf8.encode (d.render preserveEndings))).2 with
    | ok u => trivial
    | error f => exact fun m hm => by cases hm

/-- Reading, editing and writing a file takes no step. -/
theorem inOrder_mutate (t : Tree) (mishaps : Mishaps) (e : Editor) (path : Text) (kind : Option Source.EntryKind)
    (c : Credentials) (dryRun : Bool) : InOrder (fun _ => True) (t.mutate mishaps e path kind c dryRun).2 := by
  have hedit := t.inOrder_edit e path kind c
  rw [mutate]
  split
  · rename_i f hf
    rwa [hf] at hedit
  rename_i d m _
  have hwrite := t.inOrder_writeDocument mishaps e.plan.preserveEndings d
  split
  · split
    · trivial
    · rename_i hf
      rwa [hf] at hwrite
  · trivial

theorem inOrder_complete (t : Tree) (mishaps : Mishaps) (s : Settings) (r : Request) (h : p.IsDue .insertion)
    (c : Credentials) (file : EntryFile) :
    InOrder Report.IsConsistent (t.complete mishaps s r p c file).2 := by
  rw [complete]
  split
  · rename_i f hf
    rintro m rfl
    exact s.failsByLooking_editor _ hf
  · rename_i e he
    have hmutate := t.inOrder_mutate mishaps e file.path (some file.kind) c r.dryRun.isSet
    split
    · exact inOrder_edited h r file _
    · exact h.failed rfl _ _
    · rename_i hdone
      rw [hdone] at hmutate
      exact hmutate

theorem inOrder_install (t : Tree) (mishaps : Mishaps) (s : Settings) (r : Request) :
    InOrder Report.IsConsistent (t.install mishaps s r).2 := by
  have hprepare := t.inOrder_prepare s r
  rw [install]
  split
  · rename_i f hf
    rwa [hf] at hprepare
  · rename_i report hended
    rwa [hended] at hprepare
  · rename_i p c file hready
    rw [hready] at hprepare
    exact t.inOrder_complete mishaps s r hprepare c file

/-- An installation takes no step out of its order, and when it ends, the states of its steps go with its outcome:
the failed step, if there is one, tells the message of the report, the outcome is a success where there is none, and
the listener has been told of each finished step once, in their order. -/
theorem install_stepStates (t : Tree) (mishaps : Mishaps) (s : Settings) (r : Request) :
    (∀ m, (t.install mishaps s r).2 ≠ .error (.misstep m)) ∧
      ∀ report, (t.install mishaps s r).2 = .ok report → report.IsConsistent := by
  have hinstall := t.inOrder_install mishaps s r
  generalize (t.install mishaps s r).2 = result at hinstall
  cases result with
  | ok report =>
    refine ⟨fun m => nofun, fun report' h => ?_⟩
    cases h
    exact hinstall
  | error f =>
    refine ⟨fun m h => ?_, fun report => nofun⟩
    cases h
    exact hinstall m rfl

/-- The file can be read and no file put beside it: the last step fails, and tells what the report tells. -/
theorem install_stepStates_of_denied :
    let t := oneFileProject (Utf8.encode demoText) 0o644
    let mishaps : Mishaps := { noMishaps with fails := fun step => if step = .create then some .denied else none }
    let r : Request := ⟨.text "p".toList, .text "id".toList, .text "secret".toList, .bool false⟩
    ∃ report, (t.install mishaps .byDefault r).2 = .ok report ∧ report.outcome = .ioError ∧ report.IsConsistent ∧
      report.steps.map Event.detail =
        [none, some "p".toList, some "p/App.swift (annotated-root)".toList, some report.message] := by
  intro t mishaps r
  have hseen : (t.install mishaps .byDefault r).2.toOption.map (fun report => (report.outcome, decide
      (report.steps.map Event.detail =
        [none, some "p".toList, some "p/App.swift (annotated-root)".toList, some report.message]))) =
      some (.ioError, true) := by
    decide +kernel
  obtain ⟨report, hreport, hreported⟩ := Option.map_eq_some_iff.1 hseen
  obtain ⟨houtcome, hdetails⟩ := Prod.mk.inj hreported
  have hdone := Except.of_toOption_eq_some hreport
  exact ⟨report, hdone, houtcome, (t.install_stepStates mishaps .byDefault r).2 report hdone,
    of_decide_eq_true hdetails⟩

end SdkGraft.Tree
