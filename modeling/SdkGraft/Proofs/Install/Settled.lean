import SdkGraft.Proofs.Install.Contents
import SdkGraft.Proofs.Install.Stages

/-!
# Nothing left to install

* `Tree.Settled` : the file to edit calls the library already;
* `install_of_settled` : an installation finds so and changes nothing;
* `install_of_invalid` : credentials that cannot be inserted end it before anything is looked at.
-/

namespace SdkGraft.Tree

open Install

variable {t : Tree} {s : Settings} {r : Request} {dryRun : Bool}

/-- The file to edit calls the library already. -/
structure Settled (t : Tree) (s : Settings) (root : Value) (file : EntryFile) : Prop where
  finds : ∃ workspace, t.Finds s root workspace file
  installed : ∃ e d, s.editor = .ok e ∧ t.readDocument file.path = .ok d ∧
    Source.isInstalled e.plan.sdk d = true

/-- An installation into a settled project finds it so and changes nothing. -/
theorem install_of_settled {file : EntryFile} (h : t.Settled s r.root file) {c : Credentials}
    (hvalid : Credentials.validate r.clientId r.clientSecret = .ok c) (hdry : r.dryRun.flag? = some dryRun)
    (mishaps : Mishaps) :
    ∃ report, t.install mishaps s r = (t, .ok report) ∧ report.outcome = .alreadyPresent ∧
      report.file = some file.path ∧ report.kind = some file.kind ∧ report.diff = none := by
  obtain ⟨workspace, hfinds⟩ := h.finds
  obtain ⟨e, d, heditor, hread, hinstalled⟩ := h.installed
  have hready := prepare_of_finds hvalid hfinds
  have hmutate : t.mutate mishaps e file.path (some file.kind) c r.dryRun.isSet =
      (t, .ok (e.mutation none d (.nothing .alreadyPresent))) := by
    rw [mutate, edit_of_isInstalled hread hinstalled]
    exact if_neg (by simp [Editor.mutation, Source.Edit.nothing])
  rw [install, hready]
  simp only
  rw [complete, heditor]
  simp only
  rw [hmutate]
  simp only
  have hm : (e.mutation none d (.nothing .alreadyPresent)).outcome ≠ .noAnchor := by
    simp [Editor.mutation, Source.Edit.nothing]
  obtain ⟨report, hreport, houtcome, hfile, hkind, hdiff⟩ := exists_report_of_edited hdry workspace file hm
  exact ⟨report, by rw [hreport], houtcome, hfile, hkind, hdiff⟩

/-- Credentials that cannot be inserted end an installation at once. -/
theorem install_of_invalid {problem : CredentialError}
    (hvalid : Credentials.validate r.clientId r.clientSecret = .error problem)
    (hdry : r.dryRun.flag? = some dryRun) (mishaps : Mishaps) :
    ∃ report, t.install mishaps s r = (t, .ok report) ∧ report.outcome = .invalidCredentials ∧
      report.message = problem.message := by
  rw [install, prepare, hvalid]
  simp only
  obtain ⟨report, hreport, htells⟩ :=
    exists_report_of_failed hdry .start .credentials problem.message rfl .invalidCredentials none
  exact ⟨report, by rw [hreport]; rfl, htells.outcome, htells.message⟩

end SdkGraft.Tree
