import SdkGraft.Proofs.Install.Contents
import SdkGraft.Proofs.Install.Stages
import SdkGraft.Proofs.Text.Endings

/-!
# What an edit does to the bytes of a file

* `isOneLine_of_mem_graftAt` : where nothing that is put in breaks a line, the edited document is single lines;
* `mutate_bytes` : an edit puts lines between the lines of a file, ended as these are, and without them the
  file is what it was, byte for byte.
-/

namespace SdkGraft.Source

open Text (IsOneLine)

variable {sdk : Sdk} {d : Document}

theorem isOneLine_leading {line : Text} (h : IsOneLine line) : IsOneLine (Text.leading line) :=
  fun c hc => h c ((List.takeWhile_sublist isBlank).subset hc)

theorem isOneLine_of_unit {lines : List Text} {default : Option Text} {unit : Text}
    (hdefault : ∀ u ∈ default, IsOneLine u) (h : (detectUnit lines).or default = some unit) : IsOneLine unit :=
  of_unit (by decide) hdefault h

/-- Where neither the names nor the indentation break a line, the edited document is single lines again. -/
theorem isOneLine_of_mem_graftAt (hlf : sdk.Lacks '\n') (hcr : sdk.Lacks '\r')
    (hd : ∀ l ∈ d.lines, IsOneLine l) {unit : Text} (hu : IsOneLine unit) (target : Target) (c : Credentials)
    {a : Nat} (ha : a < d.lines.length) : ∀ l ∈ (graftAt sdk d target c a unit).1.lines, IsOneLine l := by
  intro l hl
  obtain hl | rfl | hl := mem_of_mem_insertLines hl
  · exact hd l hl
  · exact IsOneLine.append (by decide) (Text.isOneLine_iff.2 ⟨hcr.moduleName, hlf.moduleName⟩)
  · have hanchor : IsOneLine (d.lines.getD a []) := by
      rw [List.getD_eq_getElem?_getD, List.getElem?_eq_getElem ha, Option.getD_some]
      exact hd _ (List.getElem_mem ha)
    exact isOneLine_of_mem_snippet c hlf hcr ((isOneLine_leading hanchor).append hu) hu hl

end SdkGraft.Source

namespace SdkGraft.Tree

open Source (Document LineEnding)
open Text (IsOneLine HasOneEnding joinWith)

variable {t t' : Tree} {path : Text}

/-- An edit that is not only for show puts the import and the code between the lines of the file, each ended as
these are, and keeps a byte order mark. Without what was put in, the file is what it was, byte for byte. -/
theorem mutate_bytes (ht : t.IsProper) {e : Editor} (hpreserve : e.plan.preserveEndings = true)
    (hlf : e.plan.sdk.Lacks '\n') (hcr : e.plan.sdk.Lacks '\r')
    (hindent : ∀ unit ∈ e.plan.defaultIndent, IsOneLine unit) {bytes : Bytes} {text : Text}
    (hread : t.readFile path = .ok bytes) (htext : Utf8.decode bytes = .ok text) (hends : HasOneEnding text)
    {mishaps : Mishaps} {kind : Option Source.EntryKind} {c : Credentials} {m : Mutation}
    (hdone : t.mutate mishaps e path kind c false = (t', .ok m)) (hinserted : m.outcome = .inserted) :
    let d := Document.ofText path text
    let whole := fun lines => Utf8.encode (d.mark ++ joinWith (LineEnding.detect text).text lines)
    ∃ (target : Source.Target) (a : Nat) (unit : Text) (d' : Document) (edit : Source.Edit),
      Source.classify e.patterns kind d.lines = some target ∧ target.anchor = a ∧
      Source.Grafted e.plan.sdk d a (Source.graftCode e.plan.sdk d target c a unit) d' edit ∧
      m = { e.mutation (some target) d' edit with written := true } ∧ (∀ l ∈ d'.lines, IsOneLine l) ∧
      bytes = whole d.lines ∧ t'.readFile path = .ok (whole d'.lines) ∧
      bytes = whole (edit.undo d'.lines) := by
  intro d whole
  obtain ⟨-, hnot⟩ | ⟨d', m', t'', hedit, hinserted', -, ⟨hwrite, hmutate⟩ | ⟨-, hlost⟩⟩ :=
    mutate_cases ht mishaps e path kind c false
  · rw [hdone] at hnot
    exact absurd ⟨hinserted, rfl⟩ (hnot m rfl)
  rotate_left
  · cases (Prod.mk.inj (hdone.symm.trans hlost)).2
  rw [hdone] at hmutate
  obtain ⟨rfl, hm⟩ := Prod.mk.inj hmutate
  cases hm
  obtain ⟨d₀, edit, hdocument, hpath, hgraft, rfl⟩ := exists_graft_of_edit hedit
  obtain ⟨-, bytes', text', hread', htext', rfl⟩ := readDocument_eq_ok_iff.1 hdocument
  rw [hread] at hread'
  cases hread'
  rw [htext] at htext'
  cases htext'
  obtain ⟨target, a, unit, ⟨htarget, hanchor⟩, ha, hunit, heq⟩ :=
    Source.exists_target_of_graft_inserted hgraft hinserted'
  have hclassify := (target?_of_graft_inserted hgraft hinserted').symm.trans htarget
  obtain ⟨hdone', hmade⟩ := Prod.mk.inj heq
  obtain ⟨old, spot, hwritten⟩ := written_of_writeDocument ht (hpath ▸ hdocument) hwrite
  rw [hpath, hpreserve] at hwritten
  -- The lines before and after are joined by the same ending.
  obtain ⟨hsingle, hwhole⟩ := Source.ofText_lines hends path
  have hsingle' : ∀ l ∈ d'.lines, IsOneLine l := by
    rw [hdone']
    exact Source.isOneLine_of_mem_graftAt hlf hcr hsingle (Source.isOneLine_of_unit hindent hunit) target c ha
  have hbytes : bytes = whole d.lines := by
    rw [← Utf8.encode_of_decode htext]
    exact congrArg Utf8.encode hwhole
  have hgrafted : Source.Grafted e.plan.sdk d a (Source.graftCode e.plan.sdk d target c a unit) d' edit := by
    rw [hdone', hmade]
    exact Source.grafted_insertLines e.plan.sdk d ha _
  have hundo : edit.undo d'.lines = d.lines := by
    rw [hdone', hmade]
    exact Source.undo_insertLines e.plan.sdk ha _
  have hread := hwritten.readFile_eq hwritten.after
  rw [Source.render_lines hsingle', hgrafted.frame] at hread
  exact ⟨target, a, unit, d', edit, hclassify, hanchor, hgrafted, by rw [htarget], hsingle', hbytes, hread,
    hbytes.trans (congrArg whole hundo.symm)⟩

/-- What edits go by where no settings say anything else. -/
def editorByDefault : Editor where
  plan := .byDefault
  patterns := {
    delegateKeyword := "func application".toList
    launchOptions := "didFinishLaunchingWithOptions".toList
    rootMarker := "@main".toList
    rootTypeKeyword := "struct".toList
    rootTypeFragment := "App".toList }

theorem editor_byDefault : Settings.byDefault.editor = .ok editorByDefault := rfl

def markedText : Text := "\ufeff@main\r\nstruct DemoApp \x7b\r\n\x7d".toList

def markedEdit : Tree × Except Fault Mutation :=
  (oneFileProject (Utf8.encode markedText) 0o644).mutate noMishaps editorByDefault "p/App.swift".toList
    (some .annotatedRoot) demoCredentials false

/-- A byte order mark, pairs and an open last line are kept. -/
theorem mutate_bytes_of_marked_file :
    Settings.byDefault.editor = .ok editorByDefault ∧ HasOneEnding markedText ∧
      ∃ (m : Mutation) (d' : Document) (edit : Source.Edit), markedEdit.2 = .ok m ∧ m.outcome = .inserted ∧
      markedEdit.1.readFile "p/App.swift".toList =
        .ok (Utf8.encode ('\ufeff' :: joinWith ['\r', '\n'] d'.lines)) ∧
      Utf8.encode markedText = Utf8.encode ('\ufeff' :: joinWith ['\r', '\n'] (edit.undo d'.lines)) := by
  have hends : HasOneEnding markedText := by decide +kernel
  have hseen : markedEdit.2.toOption.map (·.outcome) = some .inserted := by decide +kernel
  obtain ⟨m, hm, hinserted⟩ := Option.map_eq_some_iff.1 hseen
  have hdone := Except.of_toOption_eq_some hm
  have hread : (oneFileProject (Utf8.encode markedText) 0o644).readFile "p/App.swift".toList =
      .ok (Utf8.encode markedText) := Except.of_toOption_eq_some (by decide +kernel)
  have hmark : (Document.ofText "p/App.swift".toList markedText).mark = ['\ufeff'] := by decide +kernel
  have hending : LineEnding.detect markedText = .crlf := by decide +kernel
  have hplace : markedEdit = (markedEdit.1, .ok m) := by rw [← hdone]
  obtain ⟨target, a, unit, d', edit, -, -, -, -, -, -, hafter, hundo⟩ :=
    mutate_bytes (isProper_oneFileProject _ _) (e := editorByDefault) rfl (by decide) (by decide) (by decide)
      hread (Utf8.decode_encode _) hends hplace hinserted
  rw [hmark, hending] at hafter hundo
  exact ⟨editor_byDefault, hends, m, d', edit, hdone, hinserted, hafter, hundo⟩

end SdkGraft.Tree
