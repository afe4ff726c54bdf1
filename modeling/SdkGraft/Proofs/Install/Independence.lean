import SdkGraft.Proofs.Install.Contents
import SdkGraft.Proofs.Install.Outside
import SdkGraft.Proofs.Install.Sources
import SdkGraft.Proofs.Install.SpareNames
import SdkGraft.Proofs.Install.Stages

/-!
# Installations do not depend on what is left out

* `Tree.ChangedAlike` : two trees have changed in the same way; `Tree.Alike` : and so has what was told;
* `replaceFile_alike`, `mutate_alike`, `complete_alike` : writing, editing and telling, in two trees that are the same
  outside of what is left out;
* `Tree.ResolvesFirst` : which file an installation goes for, and when it ends without one;
* `install_ignores_pruned` : an installation comes to the same in both trees;
* `install_depends_on_more` : what it takes for trees to be the same.
-/

namespace SdkGraft.Tree

open Install

variable {t t' : Tree} {s : Settings} {r : Request} {root : Text} {place : Place}

/-! ## Two attempts -/

/-- Both trees are as they were, or in both the same new file stands in the place of one that a walk from `root` gets
to, or an empty one of the same name beside it. -/
inductive ChangedAlike (t t' : Tree) (s : Settings) (root : Text) : Tree → Tree → Prop where
  | kept : ChangedAlike t t' s root t t'
  | left {top : Place} {names : List Text} {name : Text} {letters : SpareLetters}
      (htop : t.resolve (Path.tidy root) = .ok top) (hfile : t.IsUnpruned s root top (names ++ [name])) :
      ChangedAlike t t' s root (t.putEntry (top ++ names) (spareName name letters) (.file [] privateMode))
        (t'.putEntry (top ++ names) (spareName name letters) (.file [] privateMode))
  | put {top : Place} {names : List Text} {name : Text} {bytes : Bytes} {mode : Nat}
      (htop : t.resolve (Path.tidy root) = .ok top) (hfile : t.IsUnpruned s root top (names ++ [name])) :
      ChangedAlike t t' s root (t.putEntry (top ++ names) name (.file bytes mode))
        (t'.putEntry (top ++ names) name (.file bytes mode))

/-- An attempt in each of two trees came to the same, and the trees have changed in the same way. -/
structure Alike {α : Type} (t t' : Tree) (s : Settings) (root : Text) (done done' : Tree × α) : Prop where
  result : done'.2 = done.2
  tree : ChangedAlike t t' s root done.1 done'.1

theorem Alike.kept {α : Type} (result : α) : t.Alike t' s root (t, result) (t', result) := ⟨rfl, .kept⟩

theorem edit_congr {path : Text} (h : t'.seen path = t.seen path) (e : Editor) (kind : Option Source.EntryKind)
    (c : Credentials) : t'.edit e path kind c = t.edit e path kind c := by
  rw [edit, edit, readDocument, readDocument, readFile_eq, readFile_eq, h]

section
variable (ht : t.IsProper) (ht' : t'.IsProper) (h : t.SameOutside t' s (Path.tidy root))

section
variable {top : Place} {names : List Text} {name : Text} {was : Bytes} {mode : Nat}
variable (htop : t.resolve (Path.tidy root) = .ok top) (hfile : t.IsUnpruned s root top (names ++ [name]))
variable (hmode : isReadable mode = true)
variable (hseen : t.seen (Path.under (Path.tidy root) (names ++ [name])) = .ok (.file was mode))

include h htop hfile hseen in
theorem SameOutside.seen_file : t'.seen (Path.under (Path.tidy root) (names ++ [name])) = .ok (.file was mode) := by
  obtain ⟨kind, hkind, -⟩ := hfile.is_file
  exact ((h.below top htop).seen _ kind hfile.outside hkind).trans hseen

theorem SameOutside.spareDirectory_eq (h : t.SameOutside t' s root) (path : Text) :
    t'.spareDirectory path = t.spareDirectory path := by
  rw [spareDirectory, spareDirectory, Tree.absolute, Tree.absolute, h.here]

include h htop hfile in
theorem SameOutside.kind?_directory : t'.kind? (top ++ names) = t.kind? (top ++ names) := by
  obtain ⟨kind, hkind, -⟩ := hfile.is_file
  obtain ⟨m, hm⟩ := hasDir_of_concat hkind
  rw [(h.below top htop).kind?_dir hfile.outside.of_append hm, hm]

include ht htop hfile hmode hseen in
theorem resolve_spareDirectory_of_seen
    (habsolute : ∀ goal, t.resolve (t.absolute (Path.tidy root)) = .ok goal → goal = top) :
    t.resolve (t.spareDirectory (Path.under (Path.tidy root) (names ++ [name]))) =
      if Path.isOverlong (t.spareDirectory (Path.under (Path.tidy root) (names ++ [name]))) then .error .nameTooLong
      else (t.resolve (t.absolute (Path.tidy root))).map (· ++ names) := by
  obtain ⟨kind, hkind, -⟩ := hfile.is_file
  obtain ⟨old, hold, -⟩ := (seen_eq_file_iff hmode).1 hseen
  exact resolve_spareDirectory ht htop hkind hold habsolute

include ht h htop hfile hmode hseen in
theorem place_of_create {mishaps : Mishaps} {spare : Spare}
    (hspare : t.create mishaps (Path.under (Path.tidy root) (names ++ [name])) = .ok spare) :
    spare.place = top ++ names ∧ ∃ letters, spare.name = spareName name letters := by
  obtain ⟨kind, hkind, -⟩ := hfile.is_file
  obtain ⟨letters, -, hname, -, hroom⟩ := spareFor_eq_ok (of_attempt_eq_ok hspare)
  have hnames : ∀ n ∈ names ++ [name], Path.IsPart n := fun n hn =>
    (ht.isEntryName hkind (List.mem_append_right _ hn)).isPart
  rw [Path.name_under _ hnames] at hname
  refine ⟨?_, letters, hname⟩
  have hplace := (roomFor_eq_ok_iff.1 hroom).2.1
  rw [resolve_spareDirectory_of_seen ht htop hfile hmode hseen (h.below top htop).absolute_top] at hplace
  split at hplace
  · cases hplace
  · obtain ⟨goal, hgoal, hplace⟩ := Except.exists_of_map_eq_ok hplace
    rw [← hplace, (h.below top htop).absolute_top goal hgoal]

include ht ht' h htop hfile hmode hseen

theorem create_alike (mishaps : Mishaps) : t'.create mishaps (Path.under (Path.tidy root) (names ++ [name])) =
    t.create mishaps (Path.under (Path.tidy root) (names ++ [name])) := by
  have hbelow := h.below top htop
  have habsolute : t'.absolute (Path.tidy root) = t.absolute (Path.tidy root) := by
    rw [Tree.absolute, Tree.absolute, h.here]
  have hdirectory := h.spareDirectory_eq (Path.under (Path.tidy root) (names ++ [name]))
  have hleads := resolve_spareDirectory_of_seen ht htop hfile hmode hseen hbelow.absolute_top
  have hresolve : t'.resolve (t.spareDirectory (Path.under (Path.tidy root) (names ++ [name]))) =
      t.resolve (t.spareDirectory (Path.under (Path.tidy root) (names ++ [name]))) := by
    rw [hleads, ← hdirectory, resolve_spareDirectory_of_seen ht' (h.top.trans htop) (hbelow.isUnpruned ht hfile) hmode
      (h.seen_file htop hfile hseen) (hbelow.symm h.here).absolute_top, hdirectory, habsolute, hbelow.absolute]
  have hroom : ∀ x, t'.roomFor (t.spareDirectory (Path.under (Path.tidy root) (names ++ [name]))) x =
      t.roomFor (t.spareDirectory (Path.under (Path.tidy root) (names ++ [name]))) x := by
    intro x
    rw [roomFor_eq, roomFor_eq, hresolve]
    split
    · rfl
    cases hplace : t.resolve (t.spareDirectory (Path.under (Path.tidy root) (names ++ [name]))) with
    | error e => rfl
    | ok place =>
      obtain rfl : place = top ++ names := by
        rw [hplace] at hleads
        split at hleads
        · cases hleads
        · obtain ⟨goal, hgoal, rfl⟩ := Except.exists_of_map_eq_ok hleads.symm
          rw [hbelow.absolute_top goal hgoal]
      have hentry := congrArg Option.isSome (hbelow.kinds _ (hfile.outside.of_concat x))
      rw [Option.isSome_map, Option.isSome_map, ← List.append_assoc] at hentry
      rw [Except.ok_bind, Except.ok_bind, room, room, h.kind?_directory htop hfile, hentry]
  have hpath : t'.sparePath (Path.under (Path.tidy root) (names ++ [name])) =
      t.sparePath (Path.under (Path.tidy root) (names ++ [name])) := by
    funext letters
    rw [sparePath, sparePath, hdirectory]
  have hspare : ∀ letters, t'.spareFor (Path.under (Path.tidy root) (names ++ [name])) letters =
      t.spareFor (Path.under (Path.tidy root) (names ++ [name])) letters := by
    intro letters
    induction letters with
    | nil => rfl
    | cons tried rest ih => rw [spareFor, spareFor, hdirectory, hroom, hpath, ih]
  rw [create, create, hpath, hspare]

theorem replaceFile_alike (mishaps : Mishaps) (bytes : Bytes) :
    t.Alike t' s root (t.replaceFile mishaps (Path.under (Path.tidy root) (names ++ [name])) bytes)
      (t'.replaceFile mishaps (Path.under (Path.tidy root) (names ++ [name])) bytes) := by
  obtain ⟨kind, hkind, -⟩ := hfile.is_file
  obtain ⟨kind', hkind', -⟩ := (h.below top htop).exists_kind hfile.outside hkind
  have hfilling : t'.filling mishaps (Path.under (Path.tidy root) (names ++ [name])) (top ++ names) =
      t.filling mishaps (Path.under (Path.tidy root) (names ++ [name])) (top ++ names) := by
    funext spare
    rw [filling, filling, canChange, canChange, h.kind?_directory htop hfile]
  rw [replaceFile_below ht htop hkind hmode hseen,
    replaceFile_below ht' (h.top.trans htop) hkind' hmode (h.seen_file htop hfile hseen),
    create_alike ht ht' h htop hfile hmode hseen, hfilling]
  cases t.create mishaps _ >>= t.filling mishaps _ (top ++ names) with
  | ok _ => exact ⟨rfl, .put htop hfile⟩
  | error e => exact .kept _

theorem writeText_alike (mishaps : Mishaps) (text : Text) :
    t.Alike t' s root (t.writeText mishaps (Path.under (Path.tidy root) (names ++ [name])) text)
      (t'.writeText mishaps (Path.under (Path.tidy root) (names ++ [name])) text) := by
  rw [writeText, writeText]
  split
  · exact .kept _
  split
  · rw [abandonText, abandonText, create_alike ht ht' h htop hfile hmode hseen]
    cases hspare : t.create mishaps (Path.under (Path.tidy root) (names ++ [name])) with
    | error e => exact .kept _
    | ok spare =>
      obtain ⟨hplace, letters, hname⟩ := place_of_create ht h htop hfile hmode hseen hspare
      simp only
      rw [putSpare, putSpare, hplace, hname]
      exact ⟨rfl, .left htop hfile⟩
  · obtain ⟨hresult, htree⟩ := replaceFile_alike ht ht' h htop hfile hmode hseen mishaps (Utf8.encode text)
    exact ⟨congrArg (Except.mapError _) hresult, htree⟩

end

variable (hreached : t.IsReached s root place)
include ht ht' h hreached

theorem writeDocument_alike {d : Source.Document} (hpath : d.path = Path.under root place) {was : Bytes}
    (hread : t.readFile (Path.under root place) = .ok was) (mishaps : Mishaps) (preserveEndings : Bool) :
    t.Alike t' s root (t.writeDocument mishaps preserveEndings d) (t'.writeDocument mishaps preserveEndings d) := by
  obtain ⟨top, htop, hfile, -⟩ := hreached
  obtain ⟨names, name, rfl⟩ : ∃ names name, place = names ++ [name] :=
    ⟨_, _, (List.dropLast_concat_getLast hfile.ne_nil).symm⟩
  obtain ⟨old, mode, hold, hold', hmode⟩ := readFile_eq_ok_iff.1 hread
  rw [← Path.under_tidy] at hold
  have hseen : t.seen (Path.under (Path.tidy root) (names ++ [name])) = .ok (.file was mode) :=
    (seen_eq_file_iff hmode).2 ⟨old, hold, hold'⟩
  rw [writeDocument, writeDocument, hpath, ← Path.under_tidy]
  exact writeText_alike ht ht' h htop hfile hmode hseen mishaps _

theorem mutate_alike (mishaps : Mishaps) (e : Editor) (kind : Option Source.EntryKind) (c : Credentials)
    (dryRun : Bool) : t.Alike t' s root (t.mutate mishaps e (Path.under root place) kind c dryRun)
      (t'.mutate mishaps e (Path.under root place) kind c dryRun) := by
  rw [mutate, mutate, edit_congr (h.seen_reached hreached)]
  cases hedit : t.edit e (Path.under root place) kind c with
  | error f => exact .kept _
  | ok edited =>
    obtain ⟨d, m⟩ := edited
    simp only
    split
    · obtain ⟨_, _, hread, hpath, -⟩ := exists_graft_of_edit hedit
      obtain ⟨-, was, _, hwas, -⟩ := readDocument_eq_ok_iff.1 hread
      obtain ⟨hresult, htree⟩ :=
        writeDocument_alike ht ht' h hreached hpath hwas mishaps e.plan.preserveEndings
      generalize t.writeDocument mishaps e.plan.preserveEndings d = done at hresult htree
      generalize t'.writeDocument mishaps e.plan.preserveEndings d = done' at hresult htree
      obtain ⟨u, result⟩ := done
      obtain ⟨u', result'⟩ := done'
      cases hresult
      cases result with
      | ok _ => exact ⟨rfl, htree⟩
      | error f => exact ⟨rfl, htree⟩
    · exact .kept _

theorem complete_alike {file : EntryFile} (hfile : file.path = Path.under root place) (mishaps : Mishaps)
    (r : Request) (p : Progress) (c : Credentials) :
    t.Alike t' s root (t.complete mishaps s r p c file) (t'.complete mishaps s r p c file) := by
  rw [complete_eq, complete_eq]
  cases s.editor with
  | error f => exact .kept _
  | ok e =>
    obtain ⟨hresult, htree⟩ :=
      mutate_alike ht ht' h hreached mishaps e (some file.kind) c r.dryRun.isSet
    rw [hfile]
    exact ⟨congrArg (editReport r p file) hresult, htree⟩

end

/-! ## The whole installation -/

section
variable (ht : t.IsProper) (ht' : t'.IsProper)
variable (h : ∀ root, r.root = .text root → t.SameOutside t' s (Path.tidy root))
include ht ht' h

/-- The steps that only look come to the same. -/
theorem prepare_eq : t'.prepare s r = t.prepare s r := by
  have hproject : ∀ p c, t'.prepareProject s r p c = t.prepareProject s r p c := by
    intro p c
    rw [prepareProject, prepareProject, workspaceAt?_eq h]
    cases hworkspace : t.workspaceAt? r.root with
    | error f => rfl
    | ok workspace? =>
      cases workspace? with
      | none => rfl
      | some workspace =>
        obtain ⟨text, hroot, rfl⟩ := exists_text_of_workspaceAt? hworkspace
        have hsame : t.SameOutside t' s (Path.tidy (Path.tidy text)) := by
          rw [Path.tidy_tidy]
          exact h text hroot
        rw [Except.ok_bind, Except.ok_bind]
        simp only [hsame.isProject_eq, prepareEntry, hsame.locate_eq ht ht']
  simp only [prepare, hproject]

theorem install_alike (mishaps : Mishaps) :
    t.Alike t' s r.rootText (t.install mishaps s r) (t'.install mishaps s r) := by
  rw [install, install, prepare_eq ht ht' h]
  cases hprepare : t.prepare s r with
  | error f => exact .kept _
  | ok prepared =>
    cases prepared with
    | ended report => exact .kept _
    | ready p c file =>
      obtain ⟨_, hended, -⟩ | ⟨c, workspace, file, hready, -, hfinds⟩ := prepare_cases hprepare
      · cases hended
      cases hready
      obtain ⟨text, hroot, rfl⟩ := exists_text_of_workspaceAt? hfinds.isWorkspace
      obtain ⟨place, hreached, hpath⟩ := exists_reached_of_locate ht hfinds.located
      have htext : r.rootText = text := by rw [Request.rootText, hroot]; rfl
      rw [isReached_tidy] at hreached
      rw [Path.under_tidy] at hpath
      rw [htext]
      exact complete_alike ht ht' (h text hroot) hreached hpath mishaps r _ c

end

/-- Which file an installation goes for, in a project: the first that a walk gets to and that is named as the
delegate's is, or else the first source file that holds the marker. It ends without one exactly if there is none. -/
structure ResolvesFirst (t : Tree) (mishaps : Mishaps) (s : Settings) (r : Request) (workspace : Text)
    (name marker suffix : Text) : Prop where
  located : ∀ file, t.locate s workspace = .ok (.found file) ↔ t.Resolved s workspace name marker suffix file
  exists_resolved : ∀ place, t.IsReached s workspace place →
    place.getLast? = some name ∨ t.isMarked workspace marker suffix place = true →
      ∃ file, t.Resolved s workspace name marker suffix file
  told : ∀ file report, t.Resolved s workspace name marker suffix file → (t.install mishaps s r).2 = .ok report →
    report.file = some file.path ∧ report.kind = some file.kind
  noEntryPoint : (∃ report, (t.install mishaps s r).2 = .ok report ∧ report.outcome = .noEntryPoint) ↔
    ∀ place, t.IsReached s workspace place →
      place.getLast? ≠ some name ∧ t.isMarked workspace marker suffix place = false

theorem resolvesFirst (ht : t.IsProper) (mishaps : Mishaps) {c : Credentials}
    (hvalid : Credentials.validate r.clientId r.clientSecret = .ok c) {dryRun : Bool}
    (hdry : r.dryRun.flag? = some dryRun) {workspace : Text} (hworkspace : t.workspaceAt? r.root = .ok (some workspace))
    (hproject : t.isProject s workspace = .ok true) {name marker suffix : Text}
    (hs : s.SearchesBy name marker suffix) : t.ResolvesFirst mishaps s r workspace name marker suffix := by
  have hnull : '\x00' ∉ workspace := no_null_of_isProject hproject
  have hfound : ∀ file, t.locate s workspace = .ok (.found file) ↔ t.Resolved s workspace name marker suffix file :=
    fun file => locate_eq_found_iff_resolved ht hs hnull
  have hmissing := locate_eq_missing_iff ht hs hnull
  have hcases : (∃ file, t.locate s workspace = .ok (.found file)) ∨
      t.locate s workspace = .ok (.missing name marker) := by
    obtain ⟨places, hplaces, -⟩ := exists_sources ht hs hnull
    rw [locate_eq hs hplaces]
    split
    · exact .inl ⟨_, rfl⟩
    · split
      · exact .inl ⟨_, rfl⟩
      · exact .inr rfl
  have htold : ∀ file report, t.locate s workspace = .ok (.found file) → (t.install mishaps s r).2 = .ok report →
      ∃ outcome message diff, outcome ≠ .noEntryPoint ∧ Tells r outcome message (some file) diff report := by
    intro file report hlocated hreport
    rw [install, prepare_of_finds hvalid ⟨hworkspace, hproject, hlocated⟩] at hreport
    exact exists_tells_of_complete hreport
  refine ⟨hfound, fun place hreached hqualifies => ?_, fun file report hfile hreport => ?_, ?_⟩
  · obtain ⟨file, hlocated⟩ | hlocated := hcases
    · exact ⟨file, (hfound file).1 hlocated⟩
    · obtain ⟨hname, hmarked⟩ := hmissing.1 hlocated place hreached
      rw [hmarked] at hqualifies
      exact absurd (hqualifies.resolve_right Bool.false_ne_true) hname
  · obtain ⟨_, _, _, -, htells⟩ := htold file report ((hfound file).2 hfile) hreport
    exact ⟨htells.file, htells.kind⟩
  · rw [← hmissing]
    constructor
    · rintro ⟨report, hreport, houtcome⟩
      obtain ⟨file, hlocated⟩ | hlocated := hcases
      · obtain ⟨_, _, _, hne, htells⟩ := htold file report hlocated hreport
        exact absurd (htells.outcome.symm.trans houtcome) hne
      · exact hlocated
    · intro hlocated
      obtain ⟨report, hreport, htells⟩ := exists_report_of_failed hdry (.atEntryPoint workspace) .entryPoint
        (missingMessage name marker ++ ['.']) rfl .noEntryPoint none
      exact ⟨report, by rw [install, prepare_of_missing hvalid hworkspace hproject hlocated, hreport]; rfl,
        htells.outcome⟩

/-- What an installation comes to does not depend on what is below the directories that are left out, nor on the
order in which directories list their entries: it tells the same of two trees that are otherwise the same, and changes
both in the same way. Other letters for the spare file change no more than its name, where a write goes wrong. In a
project it goes for the first file there is of those that it looks for. -/
theorem install_ignores_pruned (ht : t.IsProper) (ht' : t'.IsProper)
    (h : ∀ root, r.root = .text root → t.SameOutside t' s (Path.tidy root)) (mishaps : Mishaps) :
    t.Alike t' s r.rootText (t.install mishaps s r) (t'.install mishaps s r) ∧
      (∀ mishaps', mishaps'.fails = mishaps.fails → mishaps'.isLone = mishaps.isLone →
        (∀ p c file, t.prepare s r = .ok (.ready p c file) →
          t.HasFreeName mishaps.letters file.path ∧ t.HasFreeName mishaps'.letters file.path) →
        t.install mishaps' s r = t.install mishaps s r ∨ ∃ p file,
          t.TellsOtherNames (fun d => r.failed p .insertion .ioError d.message (some file)) (t.install mishaps s r)
            (t.install mishaps' s r)) ∧
      ∀ c dryRun workspace name marker suffix, Credentials.validate r.clientId r.clientSecret = .ok c →
        r.dryRun.flag? = some dryRun → t.workspaceAt? r.root = .ok (some workspace) →
        t.isProject s workspace = .ok true → s.SearchesBy name marker suffix →
        t.ResolvesFirst mishaps s r workspace name marker suffix :=
  ⟨install_alike ht ht' h mishaps,
    fun _ hfails hlone hfree => install_otherNames ht hfails hlone s r hfree,
    fun _ _ _ _ _ _ hvalid hdry hworkspace hproject hs => resolvesFirst ht mishaps hvalid hdry hworkspace hproject hs⟩

/-! ## Two projects -/

def projectOf (entries : Entries) : Tree where
  top := .dir [("p".toList, .dir entries 0o755)] 0o755
  here := []
  home := []

def plainProject : Tree := projectOf
  [("App.xcodeproj".toList, .dir [] 0o755), ("App.swift".toList, .file (Utf8.encode demoText) 0o644),
    ("Zoo.swift".toList, .file (Utf8.encode demoText) 0o600),
    (".git".toList, .dir [("AppDelegate.swift".toList, .file [] 0o644)] 0o755)]

def shuffledProject : Tree := projectOf
  [(".git".toList, .dir [] 0o755), ("Zoo.swift".toList, .file (Utf8.encode demoText) 0o600),
    ("App.xcodeproj".toList, .dir [("AppDelegate.swift".toList, .file [] 0o600)] 0o755),
    ("App.swift".toList, .file (Utf8.encode demoText) 0o644)]

def plainRequest (root : Text) : Request := ⟨.text root, .text "id".toList, .text "secret".toList, .bool false⟩

theorem isProper_plainProject : plainProject.IsProper := Node.isProper_of_places (by decide +kernel)

theorem isProper_shuffledProject : shuffledProject.IsProper := Node.isProper_of_places (by decide +kernel)

theorem exclusions_byDefault : Settings.byDefault.exclusions =
    .ok (Settings.byDefault.skipDirs.map Ignore.namePattern ++ Settings.byDefault.bundleSuffixes.map
      Ignore.endingPattern) := exclusions_eq hasSimpleExclusions_byDefault

theorem sameOutside_shuffledProject : plainProject.SameOutside shuffledProject .byDefault "p".toList := by
  have hroot : plainProject.resolve "p".toList = .ok ["p".toList] := by decide +kernel
  have habsolute : plainProject.resolve (plainProject.absolute "p".toList) = .ok ["p".toList] := by decide +kernel
  refine ⟨rfl, by decide +kernel, fun top htop => ?_⟩
  cases hroot.symm.trans htop
  refine ⟨by decide +kernel, fun goal hgoal => ?_, ?_, ?_⟩
  · cases habsolute.symm.trans hgoal
    rfl
  · exact forall_outside exclusions_byDefault (show plainProject.node? ["p".toList] = some _ from rfl)
      (show shuffledProject.node? ["p".toList] = some _ from rfl) (fun _ h h' => by rw [h, h']) (by decide +kernel)
  · intro place kind houtside hkind
    have hseen : ∀ place, Settings.byDefault.IsOutside place →
        plainProject.kind? (["p".toList] ++ place) ≠ none →
          shuffledProject.seen (Path.under "p".toList place) = plainProject.seen (Path.under "p".toList place) :=
      forall_outside exclusions_byDefault rfl (show shuffledProject.node? ["p".toList] = some _ from rfl)
        (fun _ h _ h' => absurd h h') (by decide +kernel)
    exact hseen place houtside (by rw [hkind]; simp)

/-- What is left out in one of them is a delegate's file; both projects get their call in the first marked file. -/
theorem install_ignores_pruned_of_shuffled : plainProject.IsProper ∧ shuffledProject.IsProper ∧
    plainProject.SameOutside shuffledProject .byDefault "p".toList ∧ ∃ report,
      (plainProject.install noMishaps .byDefault (plainRequest "p".toList)).2 = .ok report ∧
      (shuffledProject.install noMishaps .byDefault (plainRequest "p".toList)).2 = .ok report ∧
      report.outcome = .inserted ∧ report.file = some "p/App.swift".toList ∧
      plainProject.Resolved .byDefault "p".toList "AppDelegate.swift".toList "@main".toList ".swift".toList
        ⟨"p/App.swift".toList, .annotatedRoot⟩ := by
  obtain ⟨halike, -, hfirst⟩ := install_ignores_pruned isProper_plainProject isProper_shuffledProject
    (r := plainRequest "p".toList) (fun root hroot => by cases hroot; exact sameOutside_shuffledProject) noMishaps
  have hseen : (plainProject.install noMishaps .byDefault (plainRequest "p".toList)).2.toOption.map
      (fun report => (report.outcome, report.file)) = some (.inserted, some "p/App.swift".toList) := by
    decide +kernel
  obtain ⟨report, hreport, hreported⟩ := Option.map_eq_some_iff.1 hseen
  obtain ⟨houtcome, hfile⟩ := Prod.mk.inj hreported
  have hdone := Except.of_toOption_eq_some hreport
  have hlocated : plainProject.locate .byDefault "p".toList = .ok (.found ⟨"p/App.swift".toList, .annotatedRoot⟩) :=
    Except.of_toOption_eq_some (by decide +kernel)
  refine ⟨isProper_plainProject, isProper_shuffledProject, sameOutside_shuffledProject, report, hdone,
    halike.result.trans hdone, houtcome, hfile, ?_⟩
  exact ((hfirst demoCredentials false "p".toList _ _ _ rfl rfl (Except.of_toOption_eq_some (by decide +kernel))
    (Except.of_toOption_eq_some (by decide +kernel)) ⟨⟨_, exclusions_byDefault⟩, rfl, rfl, rfl⟩).located _).1 hlocated

/-! ## What an installation does depend on -/

/-- Outside of what is left out the same stands in both trees, and the same can be read. -/
structure SameAsRead (t t' : Tree) (s : Settings) (root : Text) (top : Place) : Prop where
  proper : t.IsProper ∧ t'.IsProper
  here : t'.here = t.here
  leads : t.resolve root = .ok top ∧ t'.resolve root = .ok top
  kinds : ∀ place, s.IsOutside place → t'.kind? (top ++ place) = t.kind? (top ++ place)
  read : ∀ place, s.IsOutside place → t.kind? (top ++ place) ≠ none →
    t'.readFile (Path.under root place) = t.readFile (Path.under root place)

/-- A file named as the delegate's is not pruned, and an installation ends without one. -/
structure MissesDelegate (t : Tree) (root : Text) : Prop where
  proper : t.IsProper
  delegate : ∃ top place, t.resolve (Path.tidy root) = .ok top ∧
    t.IsUnpruned .byDefault root top place ∧ place.getLast? = some "AppDelegate.swift".toList
  told : (t.install noMishaps .byDefault (plainRequest root)).2.toOption.map Report.outcome = some .noEntryPoint

def deepDelegateProject : Tree where
  top := .dir [(longName, .dir [("App.xcodeproj".toList, .dir [] 0o755),
    ("subs".toList, .dir [("AppDelegate.swift".toList, .file [] 0o644)] 0o755)] 0o755)] 0o755
  here := []
  home := []

def unlistedDelegateProject : Tree := projectOf
  [("App.xcodeproj".toList, .dir [] 0o755), ("subs".toList, .dir [("AppDelegate.swift".toList, .file [] 0o644)] 0o311)]

def lockedProject : Tree where
  top := .dir [("p".toList, .dir [("App.xcodeproj".toList, .dir [] 0o755),
    ("App.swift".toList, .file (Utf8.encode demoText) 0o644)] 0o555)] 0o755
  here := []
  home := []

def otherLetters : Mishaps := { noMishaps with letters := [⟨"abcdefgh".toList, rfl, by decide⟩] }

def linkedProject (mode : Nat) : Tree := projectOf
  [("App.xcodeproj".toList, .dir [] 0o755), ("App.swift".toList, .link ".git/X.swift".toList),
    (".git".toList, .dir [("X.swift".toList, .file (Utf8.encode demoText) mode)] 0o755)]

/-- A project that can be gone to by a detour, with a link beside it that leads to what is left out. -/
def detouredProject (hidden : Entries) : Tree where
  top := .dir [("L".toList, .link "p/s".toList), ("x".toList, .link "p/.git/q".toList),
    ("p".toList, .dir [("App.xcodeproj".toList, .dir [] 0o755), ("s".toList, .dir [] 0o755),
      ("x".toList, .dir [("App.swift".toList, .file (Utf8.encode demoText) 0o644)] 0o755),
      (".git".toList, .dir hidden 0o755)] 0o755)] 0o755
  here := []
  home := []

/-- A directory with a path that is too long is not looked into. -/
theorem missesDelegate_deepDelegateProject : deepDelegateProject.MissesDelegate longRoot where
  proper := Node.isProper_of_places (by decide +kernel)
  delegate := by
    refine ⟨[longName], ["subs".toList, "AppDelegate.swift".toList], by decide +kernel, ?_, rfl⟩
    exact ⟨by simp, ⟨.file [] 0o644, rfl, rfl, by simp⟩,
      (Settings.isOutside_iff_take exclusions_byDefault).2 (by decide +kernel)⟩
  told := by decide +kernel

/-- Nor is one that cannot be read. -/
theorem missesDelegate_unlistedDelegateProject : unlistedDelegateProject.MissesDelegate "p".toList where
  proper := Node.isProper_of_places (by decide +kernel)
  delegate := by
    refine ⟨["p".toList], ["subs".toList, "AppDelegate.swift".toList], by decide +kernel, ?_, rfl⟩
    exact ⟨by simp, ⟨.file [] 0o644, rfl, rfl, by simp⟩,
      (Settings.isOutside_iff_take exclusions_byDefault).2 (by decide +kernel)⟩
  told := by decide +kernel

theorem sameAsRead_linkedProject :
    (linkedProject 0o644).SameAsRead (linkedProject 0o600) .byDefault "p".toList ["p".toList] where
  proper := ⟨Node.isProper_of_places (by decide +kernel), Node.isProper_of_places (by decide +kernel)⟩
  here := rfl
  leads := by decide +kernel
  kinds := forall_outside exclusions_byDefault rfl rfl (fun _ h h' => h'.trans h.symm) (by decide +kernel)
  read := forall_outside exclusions_byDefault rfl (show (linkedProject 0o600).node? ["p".toList] = some _ from rfl)
    (fun _ h _ h' => absurd h h') (by decide +kernel)

theorem sameAsRead_detouredProject : (detouredProject [("q".toList, .dir [] 0o755)]).SameAsRead
    (detouredProject []) .byDefault "L/..".toList ["p".toList] where
  proper := ⟨Node.isProper_of_places (by decide +kernel), Node.isProper_of_places (by decide +kernel)⟩
  here := rfl
  leads := by decide +kernel
  kinds := forall_outside exclusions_byDefault rfl rfl (fun _ h h' => h'.trans h.symm) (by decide +kernel)
  read := forall_outside exclusions_byDefault rfl (show (detouredProject []).node? ["p".toList] = some _ from rfl)
    (fun _ h _ h' => absurd h h') (by decide +kernel)

/-- An installation does not find the delegate's file in a directory with a long path or in one that cannot be read. A
failed write tells the name of the spare file. A file that takes the place of a link has the permissions of what the
link led to. And the spare file is put where the root leads to by its names alone, so what stands there matters. -/
theorem install_depends_on_more :
    deepDelegateProject.MissesDelegate longRoot ∧ unlistedDelegateProject.MissesDelegate "p".toList ∧
    ((lockedProject.install noMishaps .byDefault (plainRequest "p".toList)).2.toOption.map Report.outcome =
        some .ioError ∧
      (lockedProject.install otherLetters .byDefault (plainRequest "p".toList)).2.toOption.map Report.message ≠
        (lockedProject.install noMishaps .byDefault (plainRequest "p".toList)).2.toOption.map Report.message) ∧
    ((linkedProject 0o644).SameAsRead (linkedProject 0o600) .byDefault "p".toList ["p".toList] ∧
      ((linkedProject 0o600).install noMishaps .byDefault (plainRequest "p".toList)).1.kind?
          ["p".toList, "App.swift".toList] ≠
        ((linkedProject 0o644).install noMishaps .byDefault (plainRequest "p".toList)).1.kind?
          ["p".toList, "App.swift".toList]) ∧
    (detouredProject [("q".toList, .dir [] 0o755)]).SameAsRead (detouredProject []) .byDefault "L/..".toList
        ["p".toList] ∧
      ((detouredProject []).install noMishaps .byDefault (plainRequest "L/..".toList)).2.toOption.map Report.outcome =
        some .ioError ∧
      ((detouredProject [("q".toList, .dir [] 0o755)]).install noMishaps .byDefault
        (plainRequest "L/..".toList)).2.toOption.map Report.outcome = some .inserted :=
  ⟨missesDelegate_deepDelegateProject, missesDelegate_unlistedDelegateProject, by decide +kernel,
    ⟨sameAsRead_linkedProject, by decide +kernel⟩, sameAsRead_detouredProject,
    by decide +kernel, by decide +kernel⟩

end SdkGraft.Tree
