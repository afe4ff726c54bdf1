import SdkGraft.Install.Locate
import SdkGraft.Install.Mutation

/-!
# Faults of looking

* `Fault.IsOfLooking` : neither a source file nor a step out of its order is to blame;
* `FailsByLooking` : if it goes wrong, then by such a fault; no source file is to blame then (`SparesDocuments`);
* `failsByLooking_editor` : the settings are such;
* `failsByLooking_workspaceAt?`, `failsByLooking_isProject`, `failsByLooking_locate` : so are the steps that look for
  the file to edit.
-/

namespace SdkGraft

/-! ## Steps after one another -/

/-- Neither a source file that cannot be read or written nor a step out of its order is to blame. -/
def Fault.IsOfLooking : Fault → Prop
  | .document _ | .unencodable | .misstep _ => False
  | _ => True

theorem Value.ShowFault.isOfLooking (f : ShowFault) : f.fault.IsOfLooking := by
  cases f <;> exact trivial

/-- If it goes wrong, then by a fault of looking. -/
def FailsByLooking {α : Type} (x : Except Fault α) : Prop := ∀ f, x = .error f → f.IsOfLooking

/-- No source file is to blame, should it have gone wrong. -/
def SparesDocuments {α : Type} (x : Except Fault α) : Prop := ∀ error, x ≠ .error (.document error)

section
variable {α β : Type}

theorem failsByLooking_ok (a : α) : FailsByLooking (.ok a) := fun _ h => by cases h

theorem failsByLooking_error {f : Fault} (h : f.IsOfLooking) : FailsByLooking (.error f : Except Fault α) := by
  intro f' hf
  cases hf
  exact h

theorem FailsByLooking.bind {x : Except Fault α} (hx : FailsByLooking x) {f : α → Except Fault β}
    (hf : ∀ a, FailsByLooking (f a)) : FailsByLooking (x >>= f) := by
  cases x with
  | error e => exact failsByLooking_error (hx e rfl)
  | ok a => exact hf a

theorem FailsByLooking.map {x : Except Fault α} (hx : FailsByLooking x) (f : α → β) : FailsByLooking (x.map f) := by
  cases x with
  | error e => exact failsByLooking_error (hx e rfl)
  | ok a => exact failsByLooking_ok _

theorem FailsByLooking.sparesDocuments {x : Except Fault α} (hx : FailsByLooking x) : SparesDocuments x :=
  fun _ h => hx _ h

theorem SparesDocuments.of_error {x : Except Fault α} (hx : SparesDocuments x) {f : Fault} (h : x = .error f) :
    ∀ error, f ≠ .document error := fun error he => hx error (by rw [h, he])

end

/-! ## Settings -/

namespace Settings

variable (s : Settings)

theorem failsByLooking_entry (key : Text) : FailsByLooking (s.entry key) := by
  rw [entry]
  split
  · exact failsByLooking_ok _
  · exact failsByLooking_error trivial

theorem failsByLooking_editingSetting (key : Text) : FailsByLooking (s.editingSetting key) := by
  rw [editingSetting]
  split
  · split
    · exact failsByLooking_ok _
    · exact failsByLooking_error trivial
  · exact failsByLooking_error trivial

theorem failsByLooking_plan : FailsByLooking s.plan := by
  rw [plan, sdkNames]
  refine FailsByLooking.bind ?_ fun _ => (s.failsByLooking_editingSetting _).bind fun _ =>
    (s.failsByLooking_editingSetting _).bind fun _ => failsByLooking_ok _
  split
  · exact failsByLooking_ok _
  · exact failsByLooking_error trivial

theorem failsByLooking_editor : FailsByLooking s.editor :=
  s.failsByLooking_plan.bind fun _ => FailsByLooking.bind
    ((s.failsByLooking_entry _).bind fun _ => (s.failsByLooking_entry _).bind fun _ =>
      (s.failsByLooking_entry _).bind fun _ => (s.failsByLooking_entry _).bind fun _ =>
        (s.failsByLooking_entry _).bind fun _ => failsByLooking_ok _) fun _ => failsByLooking_ok _

theorem failsByLooking_exclusions : FailsByLooking s.exclusions := by
  rw [exclusions]
  cases Ignore.exclusions (.list (s.skipDirs.map .text)) (.list (s.bundleSuffixes.map .text)) with
  | ok spec => exact failsByLooking_ok _
  | error f => cases f <;> exact failsByLooking_error trivial

end Settings

/-! ## The search for the file to edit -/

namespace Tree

variable (t : Tree) (s : Settings)

theorem failsByLooking_workspace? (root : Option Text) : FailsByLooking (t.workspace? root) := by
  unfold workspace?
  split
  · exact failsByLooking_ok _
  split
  · exact failsByLooking_ok _
  refine FailsByLooking.map ?_ _
  rw [asksDirectory]
  split
  · exact failsByLooking_ok _
  split
  · exact failsByLooking_ok _
  · exact failsByLooking_error trivial

theorem failsByLooking_workspaceAt? (root : Value) : FailsByLooking (t.workspaceAt? root) := by
  unfold workspaceAt?
  split
  · exact failsByLooking_ok _
  · exact t.failsByLooking_workspace? _
  · exact failsByLooking_error trivial

theorem failsByLooking_isProject (root : Text) : FailsByLooking (t.isProject s root) := by
  rw [isProject]
  split
  · exact failsByLooking_error trivial
  split <;> exact failsByLooking_ok _

theorem failsByLooking_sources (root : Text) : FailsByLooking (t.sources s root) := by
  rw [sources]
  split
  · rename_i f hf
    exact failsByLooking_error (s.failsByLooking_exclusions f hf)
  split
  · exact failsByLooking_error trivial
  · exact failsByLooking_ok _

theorem failsByLooking_findMarked (root marker : Text) : FailsByLooking (t.findMarked s root marker) := by
  have hrest : ∀ marker, FailsByLooking (do
      let suffix ← s.sourceSuffix
      return (← t.files s root suffix).find? (t.holds marker)) := fun _ =>
    (s.failsByLooking_entry _).bind fun _ => ((t.failsByLooking_sources s root).map _).bind fun _ =>
      failsByLooking_ok _
  rw [findMarked]
  split
  · exact (s.failsByLooking_entry _).bind hrest
  · exact (failsByLooking_ok _).bind hrest

theorem failsByLooking_locate (root : Text) : FailsByLooking (t.locate s root) := by
  rw [locate]
  refine (s.failsByLooking_entry _).bind fun delegateFile =>
    ((t.failsByLooking_sources s root).map _).bind fun found => ?_
  split
  · exact failsByLooking_ok _
  refine (s.failsByLooking_entry _).bind fun marker =>
    (t.failsByLooking_findMarked s root marker).bind fun found => ?_
  split <;> exact failsByLooking_ok _

end Tree

end SdkGraft
