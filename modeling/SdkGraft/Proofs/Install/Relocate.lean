import SdkGraft.Proofs.Install.Locate
import SdkGraft.Proofs.Install.Contents
import SdkGraft.Proofs.Install.Settled

/-!
# The file to edit, looked for again

* `exists_find?_of_imp` : a search that finds more finds the same, or one of what is new;
* `Written.located` : once the file to edit is written, the search finds it again, or a link to it that
  nobody got past before;
* `Refound`, `settled_of_inserted` : so a project that something was inserted into is settled, at the same
  path or at that of such a link.
-/

namespace SdkGraft.Tree

open Source (Document IsPlain)

variable {t t' : Tree} {s : Settings} {root : Text} {file : EntryFile} {d d' : Document} {preserve : Bool}
variable {old spot : Place}

/-- A search that finds more finds the same, or one of what is new. -/
theorem exists_find?_of_imp {α : Type} {p p' : α → Bool} {new : α → Prop} {l : List α} {a : α}
    (hfind : l.find? p = some a) (ha : p' a = true) (hp : ∀ x, p' x = true → p x = true ∨ new x) :
    ∃ a', l.find? p' = some a' ∧ (a' = a ∨ new a') := by
  obtain ⟨-, before, after, rfl, hbefore⟩ := List.find?_eq_some_iff_append.1 hfind
  rw [List.find?_append, List.find?_cons_of_pos ha]
  cases hfirst : before.find? p' with
  | none => exact ⟨a, rfl, .inl rfl⟩
  | some a' =>
    refine ⟨a', rfl, .inr ?_⟩
    obtain hold | hnew := hp a' (List.find?_some hfirst)
    · have hnot := hbefore a' (List.mem_of_find?_eq_some hfirst)
      rw [hold] at hnot
      cases hnot
    · exact hnew

/-- What is read at a path is at the end of it, and the same for all paths that end there. -/
theorem readFile_congr {path path' : Text} {place : Place} (h : t.resolve path = .ok place)
    (h' : t.resolve path' = .ok place) : t.readFile path' = t.readFile path := by
  rw [readFile, readFile, file, file, lookUp, lookUp, h, h']

/-- Once a file is written a marker is found in it, where it was found before, and in no other file, but
for what nobody got to before. -/
theorem Written.holds_cases {path : Text} (h : t.Written t' path d' preserve old spot) {marker x : Text}
    (hbefore : t.holds marker path = true) (hx : t'.holds marker x = true) :
    t.holds marker x = true ∨ t'.resolve x = .ok spot ∧ t.readFile x = .error .tooManyLinks ∧
      ∃ aim, t.kind? spot = some (.link aim) := by
  obtain ⟨place, was, mode, hrewritten, rfl, -⟩ := h.changed
  rw [holds] at hx
  split at hx
  · rename_i bytes hread
    obtain hsame | ⟨hspot, hold | hlinks⟩ := hrewritten.readFile_of_ok hread
    · left
      rw [holds, hsame]
      exact hx
    · left
      rw [holds, readFile_congr h.before hold]
      exact hbefore
    · exact .inr ⟨hspot, hlinks⟩
  · cases hx

theorem Written.holds_marker {path : Text} (h : t.Written t' path d' preserve old spot) {marker : Text}
    (hplain : IsPlain marker) (hnull : '\x00' ∉ path) (hread : t.readDocument path = .ok d)
    (hlines : d.lines ⊆ d'.lines) (hbefore : t.holds marker path = true) : t'.holds marker path = true := by
  rw [holds_eq hplain hread] at hbefore
  rw [holds_eq hplain (h.readDocument_eq hnull h.after), Source.occursIn_ofText hplain,
    Source.occursIn_render hplain]
  exact Text.occursIn_unlines_of_subset hplain.not_mem_lf hlines hbefore

/-- Once the file to edit is written, the search finds it again, or a path to it that led through too many
links before. -/
theorem Written.located (h : t.Written t' file.path d' preserve old spot) (ht : t.IsProper)
    (hplain : ∀ marker, s.rootMarker = .ok marker → IsPlain marker) (hlocated : t.Located s root file)
    (hread : t.readDocument file.path = .ok d) (hlines : d.lines ⊆ d'.lines) :
    ∃ file', t'.Located s root file' ∧ file'.kind = file.kind ∧ t'.resolve file'.path = .ok spot ∧
      (file'.path = file.path ∨
        t.readFile file'.path = .error .tooManyLinks ∧ ∃ aim, t.kind? spot = some (.link aim)) := by
  have hnull := hlocated.no_null ht rfl
  obtain ⟨place, was, mode, hrewritten, -⟩ := h.changed
  have hsources := hrewritten.sources_eq ht s root
  cases hlocated with
  | delegate hname hplaces hfind =>
    exact ⟨_, .delegate hname (hsources.trans hplaces) hfind, rfl, h.after, .inl rfl⟩
  | @marked _ marker suffix places path hname hplaces hnone hmarker hsuffix hfind =>
    have hbefore : t.holds marker path = true := List.find?_some hfind
    have hafter := h.holds_marker (hplain marker hmarker) hnull hread hlines hbefore
    obtain ⟨path', hfind', hpath'⟩ := exists_find?_of_imp hfind hafter fun x => h.holds_cases hbefore
    refine ⟨_, .marked hname (hsources.trans hplaces) hnone hmarker hsuffix hfind', rfl, ?_⟩
    obtain rfl | ⟨hspot, hlinks⟩ := hpath'
    · exact ⟨h.after, .inl rfl⟩
    · exact ⟨hspot, .inr hlinks⟩

/-! ## Settled -/

/-- A path to the file that was written at `path`: that path itself, or one that led through too many links
as long as a link stood where the file stands now. -/
def Refound (t t' : Tree) (path path' : Text) : Prop :=
  path' = path ∨ t.readFile path' = .error .tooManyLinks ∧ ∃ spot aim, t.kind? spot = some (.link aim) ∧
    t'.resolve path = .ok spot ∧ t'.resolve path' = .ok spot

theorem Rewritten.finds {place : Place} {name : Text} {bytes : Bytes} {mode : Nat}
    (h : t.Rewritten t' place name old bytes mode) {root : Value} {workspace : Text} {file' : EntryFile}
    (hfinds : t.Finds s root workspace file) (hlocated : t'.Located s workspace file') :
    t'.Finds s root workspace file' :=
  ⟨h.workspaceAt?_eq_some hfinds.isWorkspace, h.isProject_eq_true hfinds.isProject,
    locate_eq_found_iff.2 hlocated⟩

/-- A project that something was inserted into is settled. -/
theorem settled_of_inserted (ht : t.IsProper) (hcall : IsPlain s.initCall)
    (hmarker : ∀ marker, s.rootMarker = .ok marker → IsPlain marker) {root : Value} {workspace : Text} {e : Editor}
    {kind : Option Source.EntryKind} {c : Credentials} {m : Mutation} {mishaps : Mishaps}
    (hfinds : t.Finds s root workspace file) (heditor : s.editor = .ok e)
    (hedit : t.edit e file.path kind c = .ok (d', m)) (hinserted : m.outcome = .inserted)
    (hwrite : t.writeDocument mishaps e.plan.preserveEndings d' = (t', .ok ())) :
    ∃ file', t'.Settled s root file' ∧ file'.kind = file.kind ∧ t.Refound t' file.path file'.path := by
  have hlocated := locate_eq_found_iff.1 hfinds.located
  rw [← (Settings.states_of_editor heditor).initCall] at hcall
  obtain ⟨d, hread, hpath, hlines, hinstalled⟩ := exists_of_edit_inserted hcall.not_mem_lf hedit hinserted
  obtain ⟨old, spot, hwritten⟩ := written_of_writeDocument ht (hpath ▸ hread) hwrite
  rw [hpath] at hwritten
  obtain ⟨file', hlocated', hkind, hspot, hsame⟩ := hwritten.located ht hmarker hlocated hread hlines
  obtain ⟨place, was, mode, hrewritten, -⟩ := hwritten.changed
  have hnull := hlocated'.no_null ht (hrewritten.sources_eq ht s workspace)
  have hread' := hwritten.readDocument_eq hnull hspot
  refine ⟨file', ⟨⟨workspace, hrewritten.finds hfinds hlocated'⟩, e, _, heditor, hread', ?_⟩, hkind, ?_⟩
  · rw [Source.isInstalled, Source.occursIn_ofText hcall, Source.occursIn_render hcall]
    exact hinstalled
  · obtain hpath' | ⟨hlinks, aim, hlink⟩ := hsame
    · exact .inl hpath'
    · exact .inr ⟨hlinks, spot, aim, hlink, hwritten.after, hspot⟩

end SdkGraft.Tree
