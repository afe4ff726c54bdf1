import SdkGraft.Proofs.Bind
import SdkGraft.Proofs.Text.Transcoding
import SdkGraft.Proofs.Source.AnchorRange
import SdkGraft.Proofs.Source.GraftEffect
import SdkGraft.Proofs.Tree.Replace
import SdkGraft.Install.Locate
import SdkGraft.Install.Mutation

/-!
# What is read after it was written

* `readDocument_eq_ok_iff` : what has to hold of a file for it to be read as a document;
* `holds_eq` : a search for a marker sees what a document shows;
* `Settings.States` : what the settings say of the code to insert;
* `exists_graft_of_edit`, `exists_of_edit_inserted` : an edit is a graft into the document that is read; one
  that inserts keeps the path and every line, and leaves the call there;
* `edit_of_isInstalled`, `edit_of_classify_eq_none`, `exists_edit_of_classify` : what an edit comes to;
* `written_of_writeDocument` : a document that is written stands where the path ends, and is read
  from there (`Written.readDocument_eq`);
* `Overwritten` : a file has other contents and its old permissions, and all else is as it was.
-/

namespace SdkGraft

/-! ## Settings -/

/-- What the settings say of the code to insert. -/
structure Settings.States (s : Settings) (plan : Source.Plan) : Prop where
  moduleName : plan.sdk.moduleName = s.moduleName
  initCall : plan.sdk.initCall = s.initCall
  answer : ∃ v, s.sdk.get? "success_case".toList = some v ∧ plan.sdk.successCase = v.display ∧
    plan.fault? = v.showFault? s.showing
  preserve : ∃ v, s.editingSetting "preserve_line_endings".toList = .ok v ∧ plan.preserveEndings = v.isSet
  indent : ∃ v, s.editingSetting "default_indent".toList = .ok v ∧ plan.defaultIndent = v.text?

theorem Settings.states_of_editor {s : Settings} {e : Editor} (h : s.editor = .ok e) : s.States e.plan := by
  rw [editor] at h
  obtain ⟨plan, hplan, h⟩ := Except.exists_of_bind_eq_ok h
  obtain ⟨patterns, -, h⟩ := Except.exists_of_bind_eq_ok h
  cases h
  rw [Settings.plan] at hplan
  obtain ⟨⟨sdk, fault?⟩, hnames, hplan⟩ := Except.exists_of_bind_eq_ok hplan
  obtain ⟨preserve, hpreserve, hplan⟩ := Except.exists_of_bind_eq_ok hplan
  obtain ⟨indent, hindent, hplan⟩ := Except.exists_of_bind_eq_ok hplan
  cases hplan
  rw [sdkNames] at hnames
  split at hnames
  · rename_i answer hanswer
    cases hnames
    exact ⟨rfl, rfl, ⟨answer, hanswer, rfl, rfl⟩, ⟨preserve, hpreserve, rfl⟩, ⟨indent, hindent, rfl⟩⟩
  · cases hnames

namespace Tree

open Source (Document IsPlain Target Edit)

variable {t t' : Tree} {path : Text} {d d' : Document} {mishaps : Mishaps} {preserve : Bool}

/-! ## Reading -/

theorem readDocument_eq_ok_iff :
    t.readDocument path = .ok d ↔ '\x00' ∉ path ∧ ∃ bytes text, t.readFile path = .ok bytes ∧
      Utf8.decode bytes = .ok text ∧ d = .ofText path text := by
  rw [readDocument]
  constructor
  · intro h
    split at h
    · cases h
    rename_i hnull
    split at h
    · cases h
    rename_i bytes hbytes
    split at h
    · cases h
    rename_i text htext
    exact ⟨by simpa using hnull, bytes, text, hbytes, htext, (Except.ok.inj h).symm⟩
  · rintro ⟨hnull, bytes, text, hbytes, htext, rfl⟩
    rw [if_neg (by simpa using hnull), hbytes]
    simp only
    rw [htext]

theorem holds_eq {marker : Text} (hplain : IsPlain marker) (h : t.readDocument path = .ok d) :
    t.holds marker path = Text.occursIn marker d.text := by
  obtain ⟨-, bytes, text, hbytes, htext, rfl⟩ := readDocument_eq_ok_iff.1 h
  rw [holds, hbytes]
  simp only
  rw [searchText, Utf8.decodeLossy_of_decode htext, ← (Text.rebroken_foldReturns text).occursIn_eq hplain.1,
    Source.occursIn_ofText hplain]

/-! ## Editing -/

theorem exists_graft_of_edit {e : Editor} {kind : Option Source.EntryKind} {c : Credentials} {m : Mutation}
    (h : t.edit e path kind c = .ok (d', m)) :
    ∃ d edit, t.readDocument path = .ok d ∧ d'.path = path ∧
      Source.graft e.plan d (e.target? kind d) c = .ok (d', edit) ∧ m = e.mutation (e.target? kind d) d' edit := by
  rw [edit] at h
  split at h
  · cases h
  rename_i d hread
  obtain ⟨⟨done, made⟩, hgraft, hdone⟩ := Except.exists_of_map_eq_ok h
  obtain ⟨rfl, rfl⟩ := Prod.mk.inj hdone
  have hgraft := Except.of_mapError_eq_ok hgraft
  have hpath : d.path = path := by
    obtain ⟨-, bytes, text, -, -, rfl⟩ := readDocument_eq_ok_iff.1 hread
    rfl
  exact ⟨d, made, hread, (Source.path_of_graft hgraft).trans hpath, hgraft, rfl⟩

theorem exists_of_edit_inserted {e : Editor} {kind : Option Source.EntryKind} {c : Credentials}
    {m : Mutation} (hlf : '\n' ∉ e.plan.sdk.initCall) (h : t.edit e path kind c = .ok (d', m))
    (hinserted : m.outcome = .inserted) :
    ∃ d, t.readDocument path = .ok d ∧ d'.path = path ∧ d.lines ⊆ d'.lines ∧
      Source.isInstalled e.plan.sdk d' = true := by
  obtain ⟨d, edit, hread, hpath, hgraft, rfl⟩ := exists_graft_of_edit h
  obtain ⟨target, a, unit, -, ha, -, heq⟩ := Source.exists_of_graft_inserted hgraft hinserted
  obtain ⟨rfl, rfl⟩ := Prod.mk.inj heq
  have hgrafted := Source.grafted_insertLines e.plan.sdk d ha (Source.graftCode e.plan.sdk d target c a unit)
  exact ⟨d, hread, hpath, hgrafted.lines_subset, Source.isInstalled_of_grafted hlf hgrafted⟩

/-- Where something is inserted, the library was not called before, and its place was looked for. -/
theorem target?_of_graft_inserted {e : Editor} {kind : Option Source.EntryKind} {d d' : Source.Document}
    {target : Option Source.Target} {c : Credentials} {edit : Source.Edit}
    (h : Source.graft e.plan d target c = .ok (d', edit)) (hinserted : edit.outcome = .inserted) :
    e.target? kind d = Source.classify e.patterns kind d.lines := by
  rw [Editor.target?, if_neg]
  intro hinstalled
  rw [Source.graft_of_isInstalled hinstalled] at h
  cases h
  cases hinserted

theorem edit_of_isInstalled {e : Editor} {path : Text} {d : Source.Document} (hread : t.readDocument path = .ok d)
    (h : Source.isInstalled e.plan.sdk d = true) (kind : Option Source.EntryKind) (c : Credentials) :
    t.edit e path kind c = .ok (d, e.mutation none d (.nothing .alreadyPresent)) := by
  have htarget : e.target? kind d = none := by rw [Editor.target?, if_pos h]
  rw [edit, hread]
  simp only
  rw [Editor.edit, htarget, Source.graftInto, Source.graft_of_isInstalled h]
  rfl

theorem edit_of_classify_eq_none {e : Editor} {file : EntryFile} {d : Document}
    (hread : t.readDocument file.path = .ok d) (hnot : Source.isInstalled e.plan.sdk d = false)
    (hnone : Source.classify e.patterns (some file.kind) d.lines = none) (c : Credentials) :
    t.edit e file.path (some file.kind) c = .ok (d, e.mutation none d (.nothing .noAnchor)) := by
  have htarget : e.target? (some file.kind) d = none := by
    rw [Editor.target?, if_neg (by simp [hnot]), hnone]
  rw [edit, hread]
  simp only
  rw [Editor.edit, htarget, Source.graftInto, Source.graft_of_anchorIn?_eq_none hnot rfl]
  rfl

/-- With one the code is inserted, where it can be written. -/
theorem exists_edit_of_classify {e : Editor} {file : EntryFile} {d : Document}
    (hread : t.readDocument file.path = .ok d) (hnot : Source.isInstalled e.plan.sdk d = false) {target : Target}
    (hsome : Source.classify e.patterns (some file.kind) d.lines = some target) {indent : Text}
    (hindent : e.plan.defaultIndent = some indent) (hwritable : e.plan.isWritable = true) (c : Credentials) :
    ∃ (a : Nat) (unit : Text) (d' : Document) (made : Edit), target.anchor = a ∧
      Source.Grafted e.plan.sdk d a (Source.graftCode e.plan.sdk d target c a unit) d' made ∧
      t.edit e file.path (some file.kind) c = .ok (d', e.mutation (some target) d' made) := by
  have htarget : e.target? (some file.kind) d = some target := by
    rw [Editor.target?, if_neg (by simp [hnot]), hsome]
  obtain ⟨a, unit, hanchor, ha, hgraft⟩ :=
    Source.exists_graft_of_target hindent hwritable hnot (Source.anchor_of_classify hsome) c
  refine ⟨a, unit, _, _, hanchor, Source.grafted_insertLines e.plan.sdk d ha _, ?_⟩
  rw [edit, hread]
  simp only
  rw [Editor.edit, htarget, Source.graftInto, hgraft]
  rfl

/-! ## Writing -/

/-- `t'` is `t` with a document written into a file: it stands at `spot`, the entry that the path names, with
the permissions of the file that the path led to, and both can be read. -/
structure Written (t t' : Tree) (path : Text) (d : Document) (preserve : Bool) (old spot : Place) : Prop where
  before : t.resolve path = .ok old
  after : t'.resolve path = .ok spot
  changed : ∃ place was mode, t.Rewritten t' place (Path.name path) old (Utf8.encode (d.render preserve)) mode ∧
    spot = place ++ [Path.name path] ∧ t.resolve (Path.parent path) = .ok place ∧
    t.kind? old = some (.file was mode) ∧ isReadable mode = true

/-- The directory of a file is where it was, so a path that led to the old file leads to the new one. -/
theorem Rewritten.resolve_file {place old : Place} {bytes was : Bytes} {mode mode' : Nat}
    (h : t.Rewritten t' place (Path.name path) old bytes mode) (hold : t.resolve path = .ok old)
    (hfile : t.kind? old = some (.file was mode')) (hparent : t.resolve (Path.parent path) = .ok place) :
    t'.resolve path = .ok (place ++ [Path.name path]) := by
  have hnames : ∀ n ∈ (Path.parts path).dropLast, Path.IsPart n := fun n hn =>
    Path.isPart_parts path n (List.dropLast_subset _ hn)
  obtain ⟨m, hm, hopen⟩ := h.displaced.dir
  have hdir : HasOpenDir t'.kind? place := ⟨m, (h.kind?_eq_dir_iff place m).2 hm, hopen⟩
  have hhere : Leads t'.kind? 0 place [Path.name path] (place ++ [Path.name path]) :=
    .down hdir h.displaced.step h.kind?_spot (by simp) (.done _)
  obtain ⟨-, -, k, -, hup⟩ := resolve_eq_ok_iff.1 ((h.resolve_dir_iff h.displaced.dir.hasDir).2 hparent)
  obtain ⟨hempty, hlong, n, hn, hleads⟩ := resolve_eq_ok_iff.1 hold
  -- Whatever a route to the old file ends at now, it passes the directory of the file before.
  have hends : ∀ {m goal}, Leads t'.kind? m (startOf t'.here path) (Text.splitAt '/' path) goal →
      goal = place ++ [Path.name path] := by
    intro m goal hm
    have hroute := hm.of_idle
    rw [← Path.parts, parts_eq_of_file hold hfile] at hroute
    have hupper := hup.of_idle
    rw [← Path.parts, Path.parent, Path.parts_ofParts (Path.isRoot_rootOf path) hnames, startOf,
      Path.isAbsolute_ofParts (Path.isRoot_rootOf path) hnames, ← Path.isAbsolute_eq, ← startOf] at hupper
    obtain ⟨i, j, middle, -, hi, hj⟩ := hroute.split
    rw [(hi.unique hupper).2] at hj
    exact (hj.unique hhere).2
  rw [resolve_eq_ok_iff]
  rw [← h.here] at hleads
  obtain hsame | ⟨-, m, hm, hspot⟩ := h.displaced.forward bytes mode hleads
  · rw [← h.kinds] at hsame
    exact ⟨hempty, hlong, n, hn, hends hsame ▸ hsame⟩
  · rw [← h.kinds] at hspot
    exact ⟨hempty, hlong, m, by omega, hspot⟩

/-- A document that can be encoded is written as bytes are. -/
theorem writeDocument_of_encodes (t : Tree) (hnull : '\x00' ∉ d.path)
    (hencodes : ∀ c ∈ d.render preserve, mishaps.isLone c = false) :
    t.writeDocument mishaps preserve d =
      ((t.replaceFile mishaps d.path (Utf8.encode (d.render preserve))).1,
        (t.replaceFile mishaps d.path (Utf8.encode (d.render preserve))).2.mapError
          fun e => .document ⟨.write, d.path, .file e⟩) := by
  rw [writeDocument, writeText, if_neg (by simpa using hnull), if_neg (by simpa using hencodes)]

theorem replaceFile_of_writeDocument (h : t.writeDocument mishaps preserve d' = (t', .ok ())) :
    t.replaceFile mishaps d'.path (Utf8.encode (d'.render preserve)) = (t', .ok ()) := by
  rw [writeDocument, writeText] at h
  split at h
  · cases (Prod.mk.inj h).2
  split at h
  · rw [abandonText] at h
    split at h <;> cases (Prod.mk.inj h).2
  · obtain ⟨hfirst, hsecond⟩ := Prod.mk.inj h
    exact Prod.ext hfirst (Except.of_mapError_eq_ok hsecond)

/-- A document that is written stands where the path ends. -/
theorem written_of_writeDocument (ht : t.IsProper) (hread : t.readDocument d'.path = .ok d)
    (h : t.writeDocument mishaps preserve d' = (t', .ok ())) :
    ∃ old spot, t.Written t' d'.path d' preserve old spot := by
  obtain ⟨-, was, text, hwas, -, rfl⟩ := readDocument_eq_ok_iff.1 hread
  obtain ⟨old, mode, hold, hfile, hreadable⟩ := readFile_eq_ok_iff.1 hwas
  obtain ⟨place, hrewritten, hparent⟩ := rewritten_of_replaceFile ht hold hfile (replaceFile_of_writeDocument h)
  exact ⟨old, place ++ [Path.name d'.path], hold, hrewritten.resolve_file hold hfile hparent,
    place, was, mode, hrewritten, rfl, hparent, hfile, hreadable⟩

/-- Whoever gets to where a document was written reads it. -/
theorem Written.readFile_eq {old spot : Place} (h : t.Written t' path d' preserve old spot) {path' : Text}
    (hspot : t'.resolve path' = .ok spot) : t'.readFile path' = .ok (Utf8.encode (d'.render preserve)) := by
  obtain ⟨place, was, mode, hrewritten, rfl, -, -, hreadable⟩ := h.changed
  exact readFile_eq_ok_iff.2 ⟨_, mode, hspot, hrewritten.kind?_spot, hreadable⟩

theorem Written.readDocument_eq {old spot : Place} (h : t.Written t' path d' preserve old spot) {path' : Text}
    (hnull : '\x00' ∉ path') (hspot : t'.resolve path' = .ok spot) :
    t'.readDocument path' = .ok (.ofText path' (d'.render preserve)) :=
  readDocument_eq_ok_iff.2 ⟨hnull, _, _, h.readFile_eq hspot, Utf8.decode_encode _, rfl⟩

/-- `t'` is `t` but for the entry that the path names: that is a file with these contents now, and with the
permissions of the file that the path led to. -/
structure Overwritten (t t' : Tree) (path : Text) (bytes : Bytes) : Prop where
  here : t'.here = t.here
  home : t'.home = t.home
  kinds : ∃ directory was mode, t.resolve (Path.parent path) = .ok directory ∧ t.file path = .ok (was, mode) ∧
    t'.resolve path = .ok (directory ++ [Path.name path]) ∧ ∀ place, t'.kind? place =
      if place = directory ++ [Path.name path] then some (.file bytes mode) else t.kind? place

theorem Written.overwritten {old spot : Place} (h : t.Written t' path d' preserve old spot) :
    t.Overwritten t' path (Utf8.encode (d'.render preserve)) := by
  obtain ⟨place, was, mode, hrewritten, rfl, hparent, hfile, -⟩ := h.changed
  refine ⟨hrewritten.here, by rw [hrewritten.eq]; rfl, place, was, mode, hparent, ?_, h.after, ?_⟩
  · rw [file, lookUp_file h.before hfile]
  · intro q
    rw [hrewritten.kinds]
    rfl

end Tree

end SdkGraft
