import SdkGraft.Proofs.Install.Contents
import SdkGraft.Proofs.Install.Stages
import SdkGraft.Proofs.Tree.Attempts

/-!
# Writing a document is all or nothing

* `writeDocument_allOrNothing` : a document is written whole, or the tree is as it was and the error says that it could
  not be written;
* `writeDocument_loses_path` : a link that a path leads through itself gives way to the file.
-/

namespace SdkGraft.Tree

open Source (Document)

variable {t : Tree}

/-- Writing a document that can be encoded, its path too, either changes the one entry that its path names, which
becomes a file with the text of the document, or changes nothing and says that the path cannot be written. If no step
fails for reasons of its own, it changes the entry exactly if the tree allows it. -/
theorem writeDocument_allOrNothing (ht : t.IsProper) (mishaps : Mishaps) (preserveEndings : Bool) {d : Document}
    (hnull : '\x00' ∉ d.path) (hencodes : ∀ c ∈ d.path ++ d.render preserveEndings, mishaps.isLone c = false) :
    ((∃ e, t.writeDocument mishaps preserveEndings d = (t, .error (.document ⟨.write, d.path, .file e⟩))) ∨
      ∃ t' place mode, t.writeDocument mishaps preserveEndings d = (t', .ok ()) ∧
        t.Writes t' d.path (Utf8.encode (d.render preserveEndings)) place mode) ∧
    ((∀ step, mishaps.fails step = none) →
      ((∃ t', t.writeDocument mishaps preserveEndings d = (t', .ok ())) ↔ t.AllowsWrite mishaps.letters d.path)) := by
  have hwrite := t.writeDocument_of_encodes hnull fun c hc => hencodes c (List.mem_append_right _ hc)
  refine ⟨?_, fun hfails => ?_⟩
  · rw [hwrite]
    obtain ⟨e, he⟩ | ⟨t', place, mode, hdone, hwrites⟩ :=
      replaceFile_writes_or_error ht mishaps d.path (Utf8.encode (d.render preserveEndings))
    · rw [he]
      exact .inl ⟨e, rfl⟩
    · rw [hdone]
      exact .inr ⟨t', place, mode, rfl, hwrites⟩
  · rw [← exists_replaceFile_iff ht hfails d.path (Utf8.encode (d.render preserveEndings)), hwrite]
    refine exists_congr fun t' => ?_
    rcases t.replaceFile mishaps d.path (Utf8.encode (d.render preserveEndings)) with ⟨done, result⟩
    cases result with
    | error e => exact iff_of_false (fun h => by cases h) fun h => by cases h
    | ok _ => simp [Except.mapError]

def shortDocument (path : Text) : Document where
  path := path
  lines := ["a".toList]
  ending := .lf
  hasMark := false
  asRead := []

/-- Everything goes well but for the last step. -/
def replaceDenied : Mishaps :=
  { noMishaps with fails := fun step => if step = .replace then some .denied else none }

/-- A file is replaced and keeps its permissions; where the last step fails everything is as it was. -/
theorem writeDocument_allOrNothing_of_file :
    (∃ t' place, (oneFileProject [] 0o640).writeDocument noMishaps true (shortDocument "p/App.swift".toList) =
        (t', .ok ()) ∧ (oneFileProject [] 0o640).Writes t' "p/App.swift".toList [97] place 0o640) ∧
    ∃ e, (oneFileProject [] 0o640).writeDocument replaceDenied true (shortDocument "p/App.swift".toList) =
      (oneFileProject [] 0o640, .error (.document ⟨.write, "p/App.swift".toList, .file e⟩)) ∧ e.error = .denied := by
  have hproper := isProper_oneFileProject [] 0o640
  have hdenied : ((oneFileProject [] 0o640).writeDocument replaceDenied true (shortDocument "p/App.swift".toList)).2 =
      .error (.document ⟨.write, "p/App.swift".toList,
        .file ⟨.denied, ["/p/.App.swift.________.tmp".toList, "p/App.swift".toList]⟩⟩) := rfl
  have hdone : ((oneFileProject [] 0o640).writeDocument noMishaps true (shortDocument "p/App.swift".toList)).2 =
      .ok () := rfl
  have hnull : '\x00' ∉ (shortDocument "p/App.swift".toList).path := by decide
  refine ⟨?_, ?_⟩
  · rcases (writeDocument_allOrNothing hproper noMishaps true hnull
      fun _ _ => rfl).1 with ⟨e, he⟩ | ⟨t', place, mode, hwrite, hwrites⟩
    · rw [he] at hdone
      cases hdone
    · obtain rfl := hwrites.mode_of_file [] 0o640 rfl
      exact ⟨t', place, hwrite, hwrites⟩
  · rcases (writeDocument_allOrNothing hproper replaceDenied true hnull
      fun _ _ => rfl).1 with ⟨e, he⟩ | ⟨t', place, mode, hwrite, -⟩
    · rw [he] at hdenied
      cases hdenied
      exact ⟨_, he, rfl⟩
    · rw [hwrite] at hdenied
      cases hdenied

def linkBesideDirectory : Tree where
  top := .dir [("d".toList, .dir [] 0o755), ("L".toList, .link "d".toList)] 0o755
  here := []
  home := []

theorem isProper_linkBesideDirectory : linkBesideDirectory.IsProper := by
  refine Node.isProper_dir _ (by decide : ["d".toList, "L".toList].Nodup)
    (by decide : ∀ name ∈ ["d".toList, "L".toList], IsEntryName name) (List.forall_mem_cons.2 ⟨?_, ?_⟩)
  · exact Node.isProper_dir _ List.nodup_nil (fun _ h => by cases h) fun _ h => by cases h
  · exact List.forall_mem_singleton.2 (Node.isProper_of_not_dir rfl)

/-- A path through a link and back to it leads nowhere once the link has given way to the file, though the write
succeeds. -/
theorem writeDocument_loses_path :
    linkBesideDirectory.IsProper ∧
      (linkBesideDirectory.writeDocument noMishaps true (shortDocument "L/../L".toList)).2 = .ok () ∧
      (linkBesideDirectory.writeDocument noMishaps true (shortDocument "L/../L".toList)).1.resolve "L/../L".toList =
        .error .notADirectory :=
  ⟨isProper_linkBesideDirectory, rfl, rfl⟩

end SdkGraft.Tree
