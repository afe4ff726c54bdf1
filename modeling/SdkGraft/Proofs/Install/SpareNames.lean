import SdkGraft.Proofs.Install.Contents
import SdkGraft.Proofs.Install.Stages
import SdkGraft.Proofs.Tree.Attempts

/-!
# The names of spare files

Two runs may try other names for a spare file.

* `HasFreeName` : not all of the names that are tried are taken; `create_cases` : then what making a spare file comes to
  is a matter of its directory;
* `TellsOtherNames` : what two runs come to that differ in the name of a spare file;
* `writeText_otherNames`, `mutate_otherNames`, `install_otherNames` : nothing else depends on these names.
-/

namespace SdkGraft.Tree

open Install

variable {t : Tree} {s : Settings} {r : Request} {mishaps mishaps' : Mishaps} {path : Text} {place : Place}

/-! ## One spare file or another -/

/-- Not every name that is tried for the spare file of a path is taken. -/
def HasFreeName (t : Tree) (letters : List SpareLetters) (path : Text) : Prop :=
  ∃ tried ∈ letters, t.roomFor (t.spareDirectory path) (spareName (Path.name path) tried) ≠ .error .alreadyThere

theorem HasFreeName.exists_first {letters : List SpareLetters} (h : t.HasFreeName letters path) : ∃ first,
    t.roomFor (t.spareDirectory path) (spareName (Path.name path) first) ≠ .error .alreadyThere ∧
      ((∃ place, t.roomFor (t.spareDirectory path) (spareName (Path.name path) first) = .ok place ∧
          t.spareFor path letters = .ok ⟨place, spareName (Path.name path) first, t.sparePath path first⟩) ∨
        ∃ e, t.roomFor (t.spareDirectory path) (spareName (Path.name path) first) = .error e ∧
          t.spareFor path letters = .error ⟨e, [t.sparePath path first]⟩) := by
  obtain ⟨tried, hmem, hfree⟩ := h
  induction letters with
  | nil => cases hmem
  | cons first rest ih =>
    by_cases htaken : t.roomFor (t.spareDirectory path) (spareName (Path.name path) first) = .error .alreadyThere
    · obtain rfl | hmem := List.mem_cons.1 hmem
      · exact absurd htaken hfree
      · rw [spareFor, htaken]
        exact ih hmem
    · refine ⟨first, htaken, ?_⟩
      rw [spareFor]
      cases hroom : t.roomFor (t.spareDirectory path) (spareName (Path.name path) first) with
      | ok place => exact .inl ⟨place, rfl, rfl⟩
      | error e =>
        refine .inr ⟨e, rfl, ?_⟩
        cases e with
        | alreadyThere => exact absurd hroom htaken
        | _ => rfl

section
variable (hfails : mishaps'.fails = mishaps.fails)
include hfails

/-- Two spare files are made in the same directory, or neither is, for the same reason. -/
theorem create_cases (hfree : t.HasFreeName mishaps.letters path) (hfree' : t.HasFreeName mishaps'.letters path) :
    (∃ place letters letters',
        t.create mishaps path = .ok ⟨place, spareName (Path.name path) letters, t.sparePath path letters⟩ ∧
        t.create mishaps' path = .ok ⟨place, spareName (Path.name path) letters', t.sparePath path letters'⟩) ∨
      ∃ e letters letters', t.create mishaps path = .error ⟨e, [t.sparePath path letters]⟩ ∧
        t.create mishaps' path = .error ⟨e, [t.sparePath path letters']⟩ := by
  rw [create, create, attempt, attempt, hfails]
  cases mishaps.fails .create with
  | some e =>
    obtain ⟨_, hmem, -⟩ := hfree
    obtain ⟨_, hmem', -⟩ := hfree'
    obtain ⟨letters, rest, hletters⟩ := List.exists_cons_of_ne_nil (List.ne_nil_of_mem hmem)
    obtain ⟨letters', rest', hletters'⟩ := List.exists_cons_of_ne_nil (List.ne_nil_of_mem hmem')
    rw [hletters, hletters']
    exact .inr ⟨e, letters, letters', rfl, rfl⟩
  | none =>
    obtain ⟨first, hfirst, hroom⟩ := hfree.exists_first
    obtain ⟨first', hfirst', hroom'⟩ := hfree'.exists_first
    rw [roomFor_eq_of_free hfirst' hfirst] at hroom'
    obtain ⟨place, hplace, hspare⟩ | ⟨e, he, hspare⟩ := hroom
    · obtain ⟨_, hplace', hspare'⟩ | ⟨_, he', -⟩ := hroom'
      · cases hplace.symm.trans hplace'
        exact .inl ⟨place, first, first', hspare, hspare'⟩
      · cases hplace.symm.trans he'
    · obtain ⟨_, hplace', -⟩ | ⟨_, he', hspare'⟩ := hroom'
      · cases he.symm.trans hplace'
      · cases he.symm.trans he'
        exact .inr ⟨e, _, _, hspare, hspare'⟩

/-- Filling two spare files comes to the same, or fails and tells which. -/
theorem filling_cases (path : Text) (place : Place) (spare spare' : Spare) :
    t.filling mishaps' path place spare' = t.filling mishaps path place spare ∨
      ∃ e rest, t.filling mishaps path place spare = .error ⟨e, spare.path :: rest⟩ ∧
        t.filling mishaps' path place spare' = .error ⟨e, spare'.path :: rest⟩ := by
  rw [filling, filling]
  simp only [attempt, hfails]
  cases mishaps.fails .fill with
  | some e => exact .inl rfl
  | none =>
    cases mishaps.fails .permit with
    | some e => exact .inr ⟨e, [], rfl, rfl⟩
    | none =>
      cases mishaps.fails .replace with
      | some e => exact .inr ⟨e, [Path.tidy path], rfl, rfl⟩
      | none =>
        cases t.canChange place with
        | true => exact .inl rfl
        | false => exact .inr ⟨.denied, [Path.tidy path], rfl, rfl⟩

theorem replaceFile_otherNames (ht : t.IsProper) (hfree : t.HasFreeName mishaps.letters path)
    (hfree' : t.HasFreeName mishaps'.letters path) {was : Bytes} (hread : t.readFile path = .ok was) (bytes : Bytes) :
    t.replaceFile mishaps' path bytes = t.replaceFile mishaps path bytes ∨
      ∃ e letters letters' rest, t.replaceFile mishaps path bytes = (t, .error ⟨e, t.sparePath path letters :: rest⟩) ∧
        t.replaceFile mishaps' path bytes = (t, .error ⟨e, t.sparePath path letters' :: rest⟩) := by
  obtain ⟨old, mode, hold, hfile, -⟩ := readFile_eq_ok_iff.1 hread
  obtain ⟨place, hdisplaced, hparent⟩ := exists_displaced hold hfile
  have hdone := fun mishaps => replaceFile_eq ht mishaps bytes hold hfile hdisplaced hparent
  obtain ⟨dir, letters, letters', hspare, hspare'⟩ | ⟨e, letters, letters', hspare, hspare'⟩ :=
    create_cases hfails hfree hfree'
  · rw [hdone, hdone, hspare, hspare', Except.ok_bind, Except.ok_bind]
    obtain hsame | ⟨e, rest, hfilled, hfilled'⟩ := filling_cases (t := t) hfails path place
      ⟨dir, spareName (Path.name path) letters, t.sparePath path letters⟩
      ⟨dir, spareName (Path.name path) letters', t.sparePath path letters'⟩
    · rw [hsame]
      exact .inl rfl
    · rw [hfilled, hfilled']
      exact .inr ⟨e, letters, letters', rest, rfl, rfl⟩
  · rw [hdone, hdone, hspare, hspare']
    exact .inr ⟨e, letters, letters', [], rfl, rfl⟩

end

/-! ## What is told of it -/

/-- Two ways for a write to go wrong that differ in the letters of a spare file's name: it fails and an error tells the
spare file first, as `tell` does, or it is given up and leaves the spare file. -/
inductive TellsOtherNames {α : Type} (t : Tree) (tell : DocumentError → Except Fault α) :
    Tree × Except Fault α → Tree × Except Fault α → Prop where
  | told (path : Text) (e : FileError) (letters letters' : SpareLetters) (rest : List Text) :
      TellsOtherNames t tell (t, tell ⟨.write, path, .file ⟨e, t.sparePath path letters :: rest⟩⟩)
        (t, tell ⟨.write, path, .file ⟨e, t.sparePath path letters' :: rest⟩⟩)
  | left (place : Place) (name : Text) (letters letters' : SpareLetters) :
      TellsOtherNames t tell (t.putEntry place (spareName name letters) (.file [] privateMode), .error .unencodable)
        (t.putEntry place (spareName name letters') (.file [] privateMode), .error .unencodable)

def blame {α : Type} (d : DocumentError) : Except Fault α := .error (.document d)

section
variable (ht : t.IsProper) (hfails : mishaps'.fails = mishaps.fails) (hlone : mishaps'.isLone = mishaps.isLone)
include ht hfails hlone

theorem writeText_otherNames (hfree : t.HasFreeName mishaps.letters path) (hfree' : t.HasFreeName mishaps'.letters path)
    {was : Bytes} (hread : t.readFile path = .ok was) (text : Text) :
    t.writeText mishaps' path text = t.writeText mishaps path text ∨
      t.TellsOtherNames blame (t.writeText mishaps path text) (t.writeText mishaps' path text) := by
  rw [writeText, writeText, hlone]
  split
  · exact .inl rfl
  split
  · rw [abandonText, abandonText]
    obtain ⟨place, letters, letters', hspare, hspare'⟩ | ⟨e, letters, letters', hspare, hspare'⟩ :=
      create_cases hfails hfree hfree'
    · rw [hspare, hspare']
      exact .inr (.left place (Path.name path) letters letters')
    · rw [hspare, hspare']
      exact .inr (.told path e letters letters' [])
  · obtain hsame | ⟨e, letters, letters', rest, hdone, hdone'⟩ :=
      replaceFile_otherNames hfails ht hfree hfree' hread (Utf8.encode text)
    · rw [hsame]
      exact .inl rfl
    · rw [hdone, hdone']
      exact .inr (.told path e letters letters' rest)

theorem mutate_otherNames (e : Editor) (path : Text) (kind : Option Source.EntryKind) (c : Credentials)
    (dryRun : Bool) (hfree : t.HasFreeName mishaps.letters path) (hfree' : t.HasFreeName mishaps'.letters path) :
    t.mutate mishaps' e path kind c dryRun = t.mutate mishaps e path kind c dryRun ∨
      t.TellsOtherNames blame (t.mutate mishaps e path kind c dryRun) (t.mutate mishaps' e path kind c dryRun) := by
  rw [mutate, mutate]
  cases hedit : t.edit e path kind c with
  | error f => exact .inl rfl
  | ok edited =>
    obtain ⟨d, m⟩ := edited
    simp only
    split
    · obtain ⟨_, _, hread, hpath, -⟩ := exists_graft_of_edit hedit
      obtain ⟨-, was, _, hwas, -⟩ := readDocument_eq_ok_iff.1 hread
      obtain hsame | hother := writeText_otherNames ht hfails hlone hfree hfree' hwas
        (d.render e.plan.preserveEndings)
      · rw [writeDocument, writeDocument, hpath, hsame]
        exact .inl rfl
      · rw [writeDocument, writeDocument, hpath]
        right
        generalize t.writeText mishaps path _ = done at hother
        generalize t.writeText mishaps' path _ = done' at hother
        cases hother with
        | told path e letters letters' rest => exact .told path e letters letters' rest
        | left place name letters letters' => exact .left place name letters letters'
    · exact .inl rfl

/-- Two installations that differ in the names they try for the spare file come to the same, unless the write goes
wrong and they tell these names. -/
theorem install_otherNames (s : Settings) (r : Request)
    (hfree : ∀ p c file, t.prepare s r = .ok (.ready p c file) →
      t.HasFreeName mishaps.letters file.path ∧ t.HasFreeName mishaps'.letters file.path) :
    t.install mishaps' s r = t.install mishaps s r ∨ ∃ p file,
      t.TellsOtherNames (fun d => r.failed p .insertion .ioError d.message (some file)) (t.install mishaps s r)
        (t.install mishaps' s r) := by
  rw [install, install]
  cases hprepare : t.prepare s r with
  | error f => exact .inl rfl
  | ok prepared =>
    cases prepared with
    | ended report => exact .inl rfl
    | ready p c file =>
      obtain ⟨hfree, hfree'⟩ := hfree p c file hprepare
      simp only
      rw [complete_eq, complete_eq]
      cases s.editor with
      | error f => exact .inl rfl
      | ok e =>
        simp only
        obtain hsame | hother :=
          mutate_otherNames ht hfails hlone e file.path (some file.kind) c r.dryRun.isSet hfree hfree'
        · rw [hsame]
          exact .inl rfl
        · refine .inr ⟨p, file, ?_⟩
          generalize t.mutate mishaps e file.path (some file.kind) c r.dryRun.isSet = done at hother
          generalize t.mutate mishaps' e file.path (some file.kind) c r.dryRun.isSet = done' at hother
          cases hother with
          | told path e letters letters' rest => exact .told path e letters letters' rest
          | left place name letters letters' => exact .left place name letters letters'

end

end SdkGraft.Tree
