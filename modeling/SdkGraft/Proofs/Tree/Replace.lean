import SdkGraft.Proofs.Bind
import SdkGraft.Proofs.Tree.NewFile

/-!
# Writing a file in one piece

* `IsSpare` : the spare file has a name that is new; `room` : what making it comes to (`roomFor_eq_ok_iff`);
* `replaceFile_error` : an attempt that fails leaves the tree as it was;
* `exists_displaced` : a path to a file leads through the directory its parent leads to;
* `resolve_tidy` : tidied, it leads to the file still;
* `rename_of_givesWay`, `givesWay_of_displaced` : the last step puts the spare file where the path ends;
* `replaceFile_eq` : what comes of an attempt at a file, step by step;
* `rewritten_of_replaceFile` : one that succeeds puts a file with the new contents, and the old
  permissions, where the path ends.
-/

namespace SdkGraft

theorem IsEntryName.isPart {name : Text} (h : IsEntryName name) : Path.IsPart name := ⟨h.no_slash, h.not_idle⟩

namespace Tree

variable {t t' : Tree} {mishaps : Mishaps} {path : Text} {bytes : Bytes}

/-! ## The spare file -/

structure IsSpare (t : Tree) (spare : Spare) : Prop where
  exists_dir : ∃ entries mode, t.node? spare.place = some (.dir entries mode) ∧ spare.name ∉ Entries.names entries

/-- What making a file of that name comes to in the directory at a place, by what stands at places. -/
def room (kinds : Kinds) (place : Place) (name : Text) : Except FileError Place :=
  match kinds place with
  | some (.dir mode) =>
    if !isSearchable mode then .error .denied
    else if Path.isTooLong name then .error .nameTooLong
    else if (kinds (place ++ [name])).isSome then .error .alreadyThere
    else if !isWritable mode then .error .denied
    else .ok place
  | _ => .error .notADirectory

theorem roomFor_eq (t : Tree) (directory name : Text) : t.roomFor directory name =
    if Path.isOverlong (Path.join directory name) then .error .nameTooLong
    else t.resolve directory >>= fun place => room t.kind? place name := by
  rw [roomFor]
  split
  · rfl
  cases t.resolve directory with
  | error e => rfl
  | ok place =>
    simp only [Except.ok_bind]
    rw [room]
    cases hnode : t.node? place with
    | none =>
      rw [kind?, hnode]
      rfl
    | some node =>
      cases node with
      | dir entries mode =>
        rw [kind?_eq_dir.2 ⟨entries, hnode⟩, kind?, node?_concat hnode, Option.isSome_map]
      | _ =>
        rw [kind?, hnode]
        rfl

theorem room_eq_ok_iff {kinds : Kinds} {place goal : Place} {name : Text} : room kinds place name = .ok goal ↔
    place = goal ∧ HasWritableDir kinds place ∧ Path.isTooLong name = false ∧ kinds (place ++ [name]) = none := by
  unfold room
  split
  · rename_i mode hkind
    have hwritable : HasWritableDir kinds place ↔ isSearchable mode = true ∧ isWritable mode = true := by
      simp [HasWritableDir, hkind]
    rw [hwritable]
    cases isSearchable mode <;> cases Path.isTooLong name <;> cases kinds (place ++ [name]) <;> cases isWritable mode <;>
      simp
  · rename_i hnot
    refine iff_of_false (by simp) fun h => ?_
    obtain ⟨mode, hmode, -⟩ := h.2.1
    exact hnot mode hmode

theorem roomFor_eq_ok_iff {directory name : Text} {place : Place} : t.roomFor directory name = .ok place ↔
    Path.isOverlong (Path.join directory name) = false ∧ t.resolve directory = .ok place ∧
      HasWritableDir t.kind? place ∧ Path.isTooLong name = false ∧ t.kind? (place ++ [name]) = none := by
  rw [roomFor_eq]
  cases hlong : Path.isOverlong (Path.join directory name) with
  | true => simp
  | false =>
    simp only [Bool.false_eq_true, if_false, true_and, Except.bind_eq_ok_iff, room_eq_ok_iff]
    constructor
    · rintro ⟨goal, hgoal, rfl, hroom⟩
      exact ⟨hgoal, hroom⟩
    · rintro ⟨hgoal, hroom⟩
      exact ⟨place, hgoal, rfl, hroom⟩

/-- The spare file that is found is that of the first letters that are not passed over. -/
theorem spareFor_eq_ok {letters : List SpareLetters} {spare : Spare} (h : t.spareFor path letters = .ok spare) :
    ∃ tried ∈ letters, spare.name = spareName (Path.name path) tried ∧ spare.path = t.sparePath path tried ∧
      t.roomFor (t.spareDirectory path) spare.name = .ok spare.place := by
  induction letters with
  | nil => cases h
  | cons tried rest ih =>
    rw [spareFor] at h
    split at h
    · rename_i place hplace
      cases h
      exact ⟨tried, List.mem_cons_self, rfl, rfl, hplace⟩
    · obtain ⟨later, hlater, hspare⟩ := ih h
      exact ⟨later, List.mem_cons_of_mem _ hlater, hspare⟩
    · cases h

theorem isSpare_of_spareFor {letters : List SpareLetters} {spare : Spare} (h : t.spareFor path letters = .ok spare) :
    t.IsSpare spare := by
  obtain ⟨tried, -, -, -, hroom⟩ := spareFor_eq_ok h
  obtain ⟨-, -, hwritable, -, hnew⟩ := roomFor_eq_ok_iff.1 hroom
  obtain ⟨entries, mode, hnode⟩ := Tree.hasDir_iff.1 hwritable.hasOpenDir.hasDir
  rw [kind?, node?_concat hnode, Option.map_eq_none_iff, Entries.get?_eq_none_iff] at hnew
  exact ⟨entries, mode, hnode, hnew⟩

namespace IsSpare

variable {spare : Spare}

theorem kind?_eq_none (h : t.IsSpare spare) : t.kind? (spare.place ++ [spare.name]) = none := by
  obtain ⟨entries, mode, hnode, hname⟩ := h.exists_dir
  rw [kind?, node?_concat hnode, Entries.get?_eq_none_iff.2 hname]
  rfl

theorem kinds_putSpare (h : t.IsSpare spare) (bytes : Bytes) (mode : Nat) :
    (t.putSpare spare bytes mode).kind? = Kinds.put t.kind? (spare.place ++ [spare.name]) (.file bytes mode) := by
  obtain ⟨entries, m, hnode, hname⟩ := h.exists_dir
  have hnone := Entries.get?_eq_none_iff.2 hname
  funext place
  rw [putSpare, kind?_putEntry hnode (fun old hold => by rw [hnone] at hold; cases hold) (by simp [Node.kind])]
  rfl

theorem eraseEntry_putSpare (h : t.IsSpare spare) (ht : t.IsProper) (bytes : Bytes) (mode : Nat) :
    (t.putSpare spare bytes mode).eraseEntry spare.place spare.name = t := by
  obtain ⟨entries, m, hnode, hname⟩ := h.exists_dir
  exact Tree.eraseEntry_putEntry ht hnode hname _

theorem isNew (h : t.IsSpare spare) (bytes : Bytes) (mode : Nat) :
    IsNew t (t.putSpare spare bytes mode) (spare.place ++ [spare.name]) bytes mode :=
  ⟨rfl, h.kind?_eq_none, h.kinds_putSpare bytes mode⟩

end IsSpare

theorem putSpare_putSpare (t : Tree) (spare : Spare) (bytes bytes' : Bytes) (mode mode' : Nat) :
    (t.putSpare spare bytes mode).putSpare spare bytes' mode' = t.putSpare spare bytes' mode' :=
  putEntry_putEntry _ _ _ _ _

/-! ## Failure -/

theorem of_attempt_eq_ok {α : Type} {step : WriteStep} {paths : List Text} {done : Except PathError α} {a : α}
    (h : attempt mishaps step paths done = .ok a) : done = .ok a := by
  rw [attempt] at h
  split at h
  · cases h
  · exact h

theorem isSpare_of_create {spare : Spare} (h : t.create mishaps path = .ok spare) : t.IsSpare spare :=
  isSpare_of_spareFor (of_attempt_eq_ok h)

/-- An attempt that fails leaves the tree as it was. -/
theorem replaceFile_error (ht : t.IsProper) {e : PathError}
    (h : t.replaceFile mishaps path bytes = (t', .error e)) : t' = t := by
  rw [replaceFile] at h
  split at h
  · cases h
    rfl
  rename_i spare hspare
  simp only at h
  split at h
  · cases h
  · obtain ⟨rfl, -⟩ := Prod.mk.inj h
    exact (isSpare_of_create hspare).eraseEntry_putSpare ht _ _

/-! ## Success -/

theorem parts_eq_of_file {old : Place} {was : Bytes} {mode : Nat} (hold : t.resolve path = .ok old)
    (hfile : t.kind? old = some (.file was mode)) :
    Path.parts path = (Path.parts path).dropLast ++ [Path.name path] := by
  obtain ⟨-, -, n, -, hleads⟩ := resolve_eq_ok_iff.1 hold
  have hroute := hleads.of_idle
  have hne : Path.parts path ≠ [] := by
    intro hnil
    rw [← Path.parts, hnil] at hroute
    rw [hroute.eq_of_nil.2] at hfile
    exact not_hasDir_of_file hfile (startOf_dir_of_resolve hold)
  exact Path.parts_eq_concat hne

theorem isPart_name_of_file {old : Place} {was : Bytes} {mode : Nat} (hold : t.resolve path = .ok old)
    (hfile : t.kind? old = some (.file was mode)) : Path.IsPart (Path.name path) :=
  Path.isPart_parts path _ (by rw [parts_eq_of_file hold hfile]; simp)

theorem startOf_parent (place : Place) (path : Text) : startOf place (Path.parent path) = startOf place path := by
  rw [startOf, Path.isAbsolute_parent, ← startOf]

theorem exists_displaced {old : Place} {was : Bytes} {mode : Nat} (hold : t.resolve path = .ok old)
    (hfile : t.kind? old = some (.file was mode)) :
    ∃ place, Displaced t.kind? place (Path.name path) old ∧ t.resolve (Path.parent path) = .ok place := by
  obtain ⟨hempty, hlong, n, hn, hleads⟩ := resolve_eq_ok_iff.1 hold
  have hsplit := parts_eq_of_file hold hfile
  have hname := isPart_name_of_file hold hfile
  have hroute := hleads.of_idle
  rw [← Path.parts, hsplit] at hroute
  obtain ⟨j, k, place, hjk, hj, hk⟩ := hroute.split
  have hup : Path.name path ≠ ['.', '.'] := by
    intro hup
    rw [hup] at hk
    have hopen := hk.openDir_of_cons (by simp)
    have hgoal := (hk.unique (.go (turn_up hopen) (.done _))).2
    rw [hgoal] at hfile
    exact not_hasDir_of_file hfile (hasDir_dropLast hopen.hasDir)
  obtain ⟨hopen, hstep, -⟩ := hk.cases_of_step hname.not_idle hup
  have hparent : Leads t.kind? j (startOf t.here (Path.parent path)) (Text.splitAt '/' (Path.parent path)) place := by
    refine Leads.with_idle ?_ (.inr hopen)
    rw [← Path.parts, Path.parts_parent, startOf_parent]
    exact hj
  have hshort : Path.isOverlong (Path.parent path) = false := by
    have htidy := Path.isOverlong_tidy hempty hlong
    rw [Path.tidy, hsplit] at htidy
    exact Path.isOverlong_ofParts _ (List.forall_mem_singleton.2 hname) htidy
  exact ⟨place, ⟨hopen, hstep, ⟨k, hk⟩, was, mode, hfile⟩, resolve_eq_ok_iff.2
    ⟨Path.ofParts_ne_nil _ (Path.isPart_dropLast_parts path), hshort, j, by omega, hparent⟩⟩

/-- A path leads, tidied, where its names do. -/
theorem resolve_tidy_of_leads {goal : Place} {n : Nat} (hparts : Path.parts path ≠ [])
    (hlong : Path.isOverlong (Path.tidy path) = false) (hn : n ≤ linkLimit)
    (hleads : Leads t.kind? n (startOf t.here path) (Path.parts path) goal) :
    t.resolve (Path.tidy path) = .ok goal := by
  refine resolve_eq_ok_iff.2 ⟨Path.ofParts_ne_nil _ (Path.isPart_parts path), hlong, n, hn, ?_⟩
  rw [startOf, Path.isAbsolute_tidy, ← startOf]
  refine Leads.with_idle ?_
    (.inl (Path.endsInName_ofParts (Path.isRoot_rootOf path) (Path.isPart_parts path) hparts))
  rw [← Path.parts, Path.parts_tidy]
  exact hleads

theorem resolve_tidy {old : Place} {was : Bytes} {mode : Nat} (hold : t.resolve path = .ok old)
    (hfile : t.kind? old = some (.file was mode)) : t.resolve (Path.tidy path) = .ok old := by
  obtain ⟨hempty, hlong, n, hn, hleads⟩ := resolve_eq_ok_iff.1 hold
  exact resolve_tidy_of_leads (by rw [parts_eq_of_file hold hfile]; simp) (Path.isOverlong_tidy hempty hlong) hn
    hleads.of_idle

theorem lookUp_file {old : Place} {was : Bytes} {mode : Nat} (hold : t.resolve path = .ok old)
    (hfile : t.kind? old = some (.file was mode)) : t.lookUp path = .ok (.file was mode) :=
  lookUp_eq_ok_iff.2 ⟨old, hold, kind?_eq_file.1 hfile⟩

def canChange (t : Tree) (place : Place) : Bool :=
  match t.kind? place with
  | some (.dir mode) => isSearchable mode && isWritable mode
  | _ => false

theorem canChange_iff {place : Place} : t.canChange place = true ↔ HasWritableDir t.kind? place := by
  rw [canChange, HasWritableDir]
  rcases t.kind? place with _ | _ | _ | mode <;> simp

/-- What comes of the steps of writing in the directory at a place, once the spare file is there. -/
def filling (t : Tree) (mishaps : Mishaps) (path : Text) (place : Place) (spare : Spare) : Except PathError Unit := do
  attempt mishaps .fill [] (.ok ())
  attempt mishaps .permit [spare.path] (.ok ())
  let both := [spare.path, Path.tidy path]
  attempt mishaps .replace both (if t.canChange place then .ok () else .error ⟨.denied, both⟩)

theorem attempt_ok {α : Type} (mishaps : Mishaps) (step : WriteStep) (paths : List Text) (a : α) :
    attempt mishaps step paths (.ok a) = (attempt mishaps step paths (.ok ())).map fun _ => a := by
  rw [attempt, attempt]
  cases mishaps.fails step <;> rfl

/-- The spare file takes the place of an entry that is no directory. -/
theorem rename_of_givesWay (ht : t.IsProper) {spare : Spare} (hspare : t.IsSpare spare) {place : Place}
    (hgives : t.GivesWay path place) (bytes : Bytes) (mode : Nat) :
    (t.putSpare spare bytes mode).rename spare bytes mode path =
      .ok (t.putEntry place (Path.name path) (.file bytes mode)) := by
  refine rename_eq_ok_iff.2 ⟨place, (hspare.isNew bytes mode).givesWay_iff.2 hgives, ?_⟩
  rw [hspare.eraseEntry_putSpare ht]

theorem givesWay_of_displaced {place old : Place} (hdisplaced : Displaced t.kind? place (Path.name path) old)
    (hparent : t.resolve (Path.parent path) = .ok place) (hdir : HasWritableDir t.kind? place) :
    t.GivesWay path place where
  parent := hparent
  dir := hdir
  name_ne_nil := ne_nil_of_not_idle hdisplaced.step.not_idle
  name_ne_up := hdisplaced.step.not_up
  not_dir := hdisplaced.spot_not_dir

theorem rename_of_not_writable {place : Place} (hparent : t.resolve (Path.parent path) = .ok place)
    (hopen : HasOpenDir t.kind? place) (hname : IsStep (Path.name path)) (hdir : ¬ HasWritableDir t.kind? place)
    (spare : Spare) (bytes : Bytes) (mode : Nat) : t.rename spare bytes mode path = .error .denied := by
  obtain ⟨m, hm, hsearch⟩ := hopen
  obtain ⟨entries, hnode⟩ := kind?_eq_dir.1 hm
  have hwrite : isWritable m = false := by
    by_contra hwrite
    exact hdir ⟨m, hm, hsearch, by simpa using hwrite⟩
  have hentry : t.entryOf path = .error .denied := by
    rw [entryOf, hparent]
    simp [hnode, ne_nil_of_not_idle hname.not_idle, hname.not_up, hsearch, hwrite]
  rw [rename, hentry]

/-- The last steps put the spare file, with the permissions of the old one, in the place of that. -/
theorem finishReplace_eq (ht : t.IsProper) {spare : Spare} (hspare : t.IsSpare spare)
    {old : Place} {was : Bytes} {mode : Nat} (hold : t.resolve path = .ok old)
    (hfile : t.kind? old = some (.file was mode)) {place : Place}
    (hdisplaced : Displaced t.kind? place (Path.name path) old)
    (hparent : t.resolve (Path.parent path) = .ok place) :
    (t.putSpare spare [] privateMode).finishReplace mishaps spare path bytes =
      (t.filling mishaps path place spare).map fun _ => t.putEntry place (Path.name path) (.file bytes mode) := by
  have hfind : (t.putSpare spare bytes privateMode).lookUp (Path.tidy path) = .ok (.file was mode) :=
    lookUp_file ((hspare.isNew bytes _).resolve_of_ok (resolve_tidy hold hfile))
      ((hspare.isNew bytes _).kind?_of_some hfile)
  have hpermit : (t.putSpare spare bytes privateMode).permitSpare mishaps spare path bytes =
      (attempt mishaps .permit [spare.path] (.ok ())).map fun _ => (t.putSpare spare bytes mode, mode) := by
    rw [permitSpare, find?_eq_some_iff.2 hfind, modeAt, hfind, ← attempt_ok]
    simp only [putSpare_putSpare]
  have hrename : (t.putSpare spare bytes mode).rename spare bytes mode path =
      if t.canChange place then .ok (t.putEntry place (Path.name path) (.file bytes mode)) else .error .denied := by
    split
    · rename_i hdir
      exact rename_of_givesWay ht hspare (givesWay_of_displaced hdisplaced hparent (canChange_iff.1 hdir)) bytes mode
    · rename_i hdir
      have hnew := hspare.isNew bytes mode
      obtain ⟨m, hm, hsearch⟩ := hdisplaced.dir
      exact rename_of_not_writable ((hnew.resolve_dir_iff ⟨m, hm⟩).2 hparent) ⟨m, hnew.kind?_eq_dir_iff.2 hm, hsearch⟩
        hdisplaced.step (fun hwritable => hdir (canChange_iff.2 (hnew.hasWritableDir_iff.1 hwritable))) _ _ _
  rw [finishReplace, putSpare_putSpare, attempt_ok, filling]
  cases attempt mishaps .fill [] (.ok ()) with
  | error e => rfl
  | ok _ =>
    show (permitSpare _ mishaps spare path bytes >>= _) = _
    rw [hpermit]
    cases attempt mishaps .permit [spare.path] (.ok ()) with
    | error e => rfl
    | ok _ =>
      show attempt mishaps .replace _ ((rename _ spare bytes mode path).mapError _) =
        (attempt mishaps .replace _ _).map _
      rw [hrename, attempt, attempt]
      cases mishaps.fails .replace with
      | some e => rfl
      | none => cases t.canChange place <;> rfl

/-- An attempt at the file that a path leads to comes to what its steps come to. Where they all succeed the new
file, with the permissions of the old one, stands where the path ends. -/
theorem replaceFile_eq (ht : t.IsProper) (mishaps : Mishaps) (bytes : Bytes) {old : Place} {was : Bytes} {mode : Nat}
    (hold : t.resolve path = .ok old) (hfile : t.kind? old = some (.file was mode)) {place : Place}
    (hdisplaced : Displaced t.kind? place (Path.name path) old)
    (hparent : t.resolve (Path.parent path) = .ok place) :
    t.replaceFile mishaps path bytes =
      match t.create mishaps path >>= t.filling mishaps path place with
      | .ok () => (t.putEntry place (Path.name path) (.file bytes mode), .ok ())
      | .error e => (t, .error e) := by
  rw [replaceFile]
  cases hspare : t.create mishaps path with
  | error e => rfl
  | ok spare =>
    have hspare := isSpare_of_create hspare
    simp only [Except.ok_bind, finishReplace_eq ht hspare hold hfile hdisplaced hparent]
    cases t.filling mishaps path place spare with
    | ok _ => rfl
    | error e =>
      simp only [Except.map]
      rw [hspare.eraseEntry_putSpare ht]

/-- An attempt that succeeds has put the new file, with the permissions of the old one, where the path
ends. -/
theorem rewritten_of_replaceFile (ht : t.IsProper) {old : Place} {was : Bytes} {mode : Nat}
    (hold : t.resolve path = .ok old) (hfile : t.kind? old = some (.file was mode))
    (h : t.replaceFile mishaps path bytes = (t', .ok ())) :
    ∃ place, t.Rewritten t' place (Path.name path) old bytes mode ∧ t.resolve (Path.parent path) = .ok place := by
  obtain ⟨place, hdisplaced, hparent⟩ := exists_displaced hold hfile
  refine ⟨place, ⟨hdisplaced, ?_⟩, hparent⟩
  rw [replaceFile_eq ht mishaps bytes hold hfile hdisplaced hparent] at h
  split at h <;> cases h
  rfl

end Tree

end SdkGraft
