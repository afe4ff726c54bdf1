import SdkGraft.Proofs.Tree.Replace

/-!
# Attempts to write at any path

* `roomFor_of_other`, `exists_spareFor_iff` : only a name that is taken keeps one spare file from being made and not
  another;
* `permitSpare_cases` : the permissions of the spare file;
* `replaceFile_of_ok`, `replaceFile_of_fails` : what a write that succeeds has found, and that nothing else is needed;
* `Writes`, `GivesWay.writes` : the whole effect of a write;
* `replaceFile_writes_or_error`, `exists_replaceFile_iff` : it is all or nothing, and fails for a reason only.
-/

namespace SdkGraft.Tree

variable {t new : Tree} {spot place : Place} {path : Text} {bytes : Bytes} {mode : Nat}

/-! ## The name of the spare file -/

theorem length_encode_letters (letters : SpareLetters) : (Utf8.encode letters.text).length = 8 := by
  have hplain : ∀ c ∈ letters.text, (Utf8.encodeChar c).length = 1 := fun c hc => by
    have hc := List.all_eq_true.1 letters.plain c hc
    have hlow : c.toNat < 0x80 := by
      rw [isSpareLetter] at hc
      delta Char.isLower Char.isDigit at hc
      simp only [Bool.or_eq_true, Bool.and_eq_true, decide_eq_true_eq, beq_iff_eq] at hc
      rcases hc with (⟨-, hc⟩ | ⟨-, hc⟩) | rfl
      · exact Nat.lt_of_le_of_lt (show c.toNat ≤ 'z'.toNat from hc) (by decide)
      · exact Nat.lt_of_le_of_lt (show c.toNat ≤ '9'.toNat from hc) (by decide)
      · decide
    simp [Utf8.encodeChar, hlow]
  rw [Utf8.encode, List.length_flatMap, List.map_congr_left hplain, List.map_const', letters.length_eq]
  rfl

theorem length_encode_spareName (name : Text) (letters : SpareLetters) :
    (Utf8.encode (spareName name letters)).length = (Utf8.encode name).length + 14 := by
  have hparts : spareName name letters = ['.'] ++ name ++ ['.'] ++ letters.text ++ ".tmp".toList := by
    simp [spareName]
  rw [hparts]
  simp only [Path.length_encode_append, length_encode_letters]
  rw [show (Utf8.encode ['.']).length = 1 from rfl, show (Utf8.encode ".tmp".toList).length = 4 from rfl]
  omega

theorem isTooLong_spareName (name : Text) (letters other : SpareLetters) :
    Path.isTooLong (spareName name letters) = Path.isTooLong (spareName name other) := by
  rw [Path.isTooLong, Path.isTooLong, length_encode_spareName, length_encode_spareName]

theorem isOverlong_join_spareName (directory name : Text) (letters other : SpareLetters) :
    Path.isOverlong (Path.join directory (spareName name letters)) =
      Path.isOverlong (Path.join directory (spareName name other)) := by
  have hlength : ∀ letters, (Utf8.encode (Path.join directory (spareName name letters))).length =
      (Utf8.encode (Path.join directory [])).length + ((Utf8.encode name).length + 14) := fun letters => by
    have hjoin : Path.join directory (spareName name letters) = Path.join directory [] ++ spareName name letters := by
      unfold Path.join
      split <;> simp
    rw [hjoin, Path.length_encode_append, length_encode_spareName]
  rw [Path.isOverlong, Path.isOverlong, hlength, hlength]

theorem room_eq_of_free {kinds : Kinds} {name other : Text} (hlong : Path.isTooLong name = Path.isTooLong other)
    (h : room kinds place name ≠ .error .alreadyThere) (h' : room kinds place other ≠ .error .alreadyThere) :
    room kinds place name = room kinds place other := by
  unfold room at h h' ⊢
  rw [hlong] at h ⊢
  generalize kinds place = kind at h h' ⊢
  rcases kind with _ | _ | _ | mode
  · rfl
  · rfl
  · rfl
  · simp only at h h' ⊢
    split
    · rfl
    rename_i hopen
    rw [if_neg hopen] at h h'
    split
    · rfl
    rename_i hshort
    rw [if_neg hshort] at h h'
    rw [if_neg fun htaken => h (if_pos htaken), if_neg fun htaken => h' (if_pos htaken)]

/-- Where neither of two names is taken, making one spare file comes to what making the other comes to. -/
theorem roomFor_eq_of_free {directory name : Text} {letters other : SpareLetters}
    (h : t.roomFor directory (spareName name letters) ≠ .error .alreadyThere)
    (h' : t.roomFor directory (spareName name other) ≠ .error .alreadyThere) :
    t.roomFor directory (spareName name letters) = t.roomFor directory (spareName name other) := by
  rw [roomFor_eq, isOverlong_join_spareName directory name letters other] at h ⊢
  rw [roomFor_eq] at h' ⊢
  split
  · rfl
  rename_i hlong
  rw [if_neg hlong] at h h'
  cases hresolve : t.resolve directory with
  | error e => rfl
  | ok place =>
    rw [hresolve, Except.ok_bind] at h h'
    exact room_eq_of_free (isTooLong_spareName name letters other) h h'

/-- Where one spare file can be made, so can another, unless its name is taken. -/
theorem roomFor_of_other {directory name : Text} {letters : SpareLetters}
    (h : t.roomFor directory (spareName name letters) = .ok place) (other : SpareLetters) :
    t.roomFor directory (spareName name other) = .ok place ∨
      t.roomFor directory (spareName name other) = .error .alreadyThere := by
  by_cases htaken : t.roomFor directory (spareName name other) = .error .alreadyThere
  · exact .inr htaken
  · have hfree : t.roomFor directory (spareName name letters) ≠ .error .alreadyThere := by
      rw [h]
      simp
    rw [roomFor_eq_of_free htaken hfree]
    exact .inl h

/-- A spare file is found if one of those that are tried can be made. -/
theorem exists_spareFor_iff {letters : List SpareLetters} : (∃ spare, t.spareFor path letters = .ok spare) ↔
    ∃ tried ∈ letters, ∃ place, t.roomFor (t.spareDirectory path) (spareName (Path.name path) tried) = .ok place := by
  constructor
  · rintro ⟨spare, h⟩
    obtain ⟨tried, hmem, hname, -, hroom⟩ := spareFor_eq_ok h
    exact ⟨tried, hmem, spare.place, hname ▸ hroom⟩
  · rintro ⟨tried, hmem, place, hroom⟩
    induction letters with
    | nil => cases hmem
    | cons first rest ih =>
      rw [spareFor]
      obtain hfirst | hfirst := roomFor_of_other hroom first
      · rw [hfirst]
        exact ⟨_, rfl⟩
      · rw [hfirst]
        rcases List.mem_cons.1 hmem with rfl | hmem
        · cases hroom.symm.trans hfirst
        · exact ih hmem

/-! ## The steps of a write -/

section
variable {mishaps : Mishaps} {spare : Spare}

/-- The spare file gets the permissions of what the path leads to, where it leads to something. -/
theorem permitSpare_cases (h : t.IsSpare spare) (mishaps : Mishaps) (path : Text) (bytes : Bytes) :
    let done := .ok (t.putSpare spare bytes (t.modeAt (Path.tidy path)), t.modeAt (Path.tidy path))
    let permitted := (t.putSpare spare bytes privateMode).permitSpare mishaps spare path bytes
    (∃ e, t.find? (Path.tidy path) = .error e ∧ permitted = .error ⟨e, [Path.tidy path]⟩) ∨
      (∃ found, t.find? (Path.tidy path) = .ok found) ∧
        (permitted = done ∨ permitted = attempt mishaps .permit [spare.path] done) := by
  have hnew := h.isNew bytes privateMode
  have hmode := hnew.modeAt_eq (Path.tidy path)
  simp only [permitSpare, hmode, putSpare_putSpare]
  cases hfind : (t.putSpare spare bytes privateMode).find? (Path.tidy path) with
  | error e => exact .inl ⟨e, hnew.find?_eq_error_iff.1 hfind, rfl⟩
  | ok found =>
    refine .inr ⟨?_, ?_⟩
    · cases hbefore : t.find? (Path.tidy path) with
      | error e => cases hfind.symm.trans (hnew.find?_eq_error_iff.2 hbefore)
      | ok before => exact ⟨before, rfl⟩
    · cases found with
      | some node => exact .inr rfl
      | none =>
        left
        have hprivate : t.modeAt (Path.tidy path) = privateMode := by
          rw [← hmode, modeAt]
          cases hlook : (t.putSpare spare bytes privateMode).lookUp (Path.tidy path) with
          | error e => rfl
          | ok node => cases hfind.symm.trans (find?_eq_some_iff.2 hlook)
        rw [hprivate]

/-- A write puts the file where the last name of its path stands, or fails. -/
theorem replaceFile_of_ok {t' : Tree} (ht : t.IsProper) (h : t.replaceFile mishaps path bytes = (t', .ok ())) :
    (∃ spare, t.spareFor path mishaps.letters = .ok spare) ∧ (∃ found, t.find? (Path.tidy path) = .ok found) ∧
      ∃ place, t.GivesWay path place ∧
        t' = t.putEntry place (Path.name path) (.file bytes (t.modeAt (Path.tidy path))) := by
  rw [replaceFile] at h
  split at h
  · cases h
  rename_i spare hcreate
  have hspare := isSpare_of_create hcreate
  simp only at h
  split at h
  · rename_i done hdone
    obtain ⟨rfl, -⟩ := Prod.mk.inj h
    rw [finishReplace, putSpare_putSpare] at hdone
    obtain ⟨filled, hfilled, hdone⟩ := Except.exists_of_bind_eq_ok hdone
    obtain rfl := Except.ok.inj (of_attempt_eq_ok hfilled)
    obtain ⟨⟨permitted, mode⟩, hpermitted, hrenamed⟩ := Except.exists_of_bind_eq_ok hdone
    obtain ⟨place, hgives, hrenamed⟩ :=
      rename_eq_ok_iff.1 (Except.of_mapError_eq_ok (of_attempt_eq_ok hrenamed))
    rcases permitSpare_cases hspare mishaps path bytes with ⟨e, -, herror⟩ | ⟨hknown, hpermit⟩
    · cases herror.symm.trans hpermitted
    · have hmode : (permitted, mode) =
          (t.putSpare spare bytes (t.modeAt (Path.tidy path)), t.modeAt (Path.tidy path)) := by
        rcases hpermit with hpermit | hpermit
        · exact (Except.ok.inj (hpermit.symm.trans hpermitted)).symm
        · exact (Except.ok.inj (of_attempt_eq_ok (hpermit.symm.trans hpermitted))).symm
      obtain ⟨rfl, rfl⟩ := Prod.mk.inj hmode
      rw [hspare.eraseEntry_putSpare ht] at hrenamed
      exact ⟨⟨spare, of_attempt_eq_ok hcreate⟩, hknown, place, (hspare.isNew _ _).givesWay_iff.1 hgives, hrenamed⟩
  · cases h

/-- It does not fail without a reason. -/
theorem replaceFile_of_fails (ht : t.IsProper) (hfails : ∀ step, mishaps.fails step = none)
    (hfor : t.spareFor path mishaps.letters = .ok spare) {found : Option Node}
    (hknown : t.find? (Path.tidy path) = .ok found) (hgives : t.GivesWay path place) (bytes : Bytes) :
    t.replaceFile mishaps path bytes =
      (t.putEntry place (Path.name path) (.file bytes (t.modeAt (Path.tidy path))), .ok ()) := by
  have hspare := isSpare_of_spareFor hfor
  have hnone : ∀ {α : Type} {step : WriteStep} {paths : List Text} (done : Except PathError α),
      attempt mishaps step paths done = done := fun {_ step _} done => by rw [attempt, hfails step]
  have hpermit : (t.putSpare spare bytes privateMode).permitSpare mishaps spare path bytes =
      .ok (t.putSpare spare bytes (t.modeAt (Path.tidy path)), t.modeAt (Path.tidy path)) := by
    rcases permitSpare_cases hspare mishaps path bytes with ⟨e, herror, -⟩ | ⟨-, hpermit | hpermit⟩
    · cases hknown.symm.trans herror
    · exact hpermit
    · exact hpermit.trans (hnone _)
  have hrename := rename_of_givesWay ht hspare hgives bytes (t.modeAt (Path.tidy path))
  have hfinish : (t.putSpare spare [] privateMode).finishReplace mishaps spare path bytes =
      .ok (t.putEntry place (Path.name path) (.file bytes (t.modeAt (Path.tidy path)))) := by
    rw [finishReplace, putSpare_putSpare, hnone, Except.ok_bind, hpermit]
    show attempt mishaps .replace _ _ = _
    rw [hnone, hrename]
    rfl
  rw [replaceFile, create, hnone, hfor]
  simp only [hfinish]

end

/-! ## Where the path leads then -/

theorem GivesWay.isPart (h : t.GivesWay path place) : Path.IsPart (Path.name path) := by
  have hne := h.name_ne_nil
  unfold Path.name at hne ⊢
  cases hlast : (Path.parts path).getLast? with
  | none =>
    rw [hlast] at hne
    exact absurd rfl hne
  | some name => exact Path.isPart_parts path name (List.mem_of_getLast? hlast)

theorem GivesWay.kinds_putEntry (h : t.GivesWay path place) (bytes : Bytes) (mode : Nat) :
    (t.putEntry place (Path.name path) (.file bytes mode)).kind? =
      Kinds.put t.kind? (place ++ [Path.name path]) (.file bytes mode) := by
  obtain ⟨entries, m, hnode⟩ := hasDir_iff.1 h.dir.hasOpenDir.hasDir
  funext q
  refine (kind?_putEntry hnode (fun old hold => ?_) (by simp [Node.kind]) q).trans rfl
  by_contra hkind
  have hthere : t.kind? (place ++ [Path.name path]) = some old.kind := by
    rw [kind?, node?_concat hnode, hold, Option.map_some]
  exact h.not_dir (hasDir_of_isDir hthere (by simpa using hkind))

theorem GivesWay.parts_ne_nil (h : t.GivesWay path place) : Path.parts path ≠ [] := fun hnil =>
  h.name_ne_nil (by rw [Path.name, hnil]; rfl)

theorem resolve_tidy_of_parent (hname : IsStep (Path.name path)) (hparts : Path.parts path ≠ [])
    (hlong : Path.isOverlong (Path.tidy path) = false) (hparent : t.resolve (Path.parent path) = .ok place)
    (hdir : HasOpenDir t.kind? place) (hfile : t.kind? (place ++ [Path.name path]) = some (.file bytes mode)) :
    t.resolve (Path.tidy path) = .ok (place ++ [Path.name path]) := by
  obtain ⟨-, -, n, hn, hleads⟩ := resolve_eq_ok_iff.1 hparent
  have hroute := hleads.of_idle
  rw [← Path.parts, Path.parts_parent, startOf_parent] at hroute
  have hwhole := hroute.trans (.down hdir hname hfile (by simp) (.done _))
  rw [← Path.parts_eq_concat hparts] at hwhole
  exact resolve_tidy_of_leads hparts hlong hn hwhole

theorem isTooLong_of_spareFor {letters : List SpareLetters} {spare : Spare}
    (h : t.spareFor path letters = .ok spare) : Path.isTooLong (Path.name path) = false := by
  obtain ⟨tried, -, hname, -, hroom⟩ := spareFor_eq_ok h
  obtain ⟨-, -, -, hshort, -⟩ := roomFor_eq_ok_iff.1 hroom
  rw [hname, Path.isTooLong, length_encode_spareName, decide_eq_false_iff_not] at hshort
  rw [Path.isTooLong, decide_eq_false_iff_not]
  omega

theorem isOverlong_of_find? {found : Option Node} (h : t.find? (Path.tidy path) = .ok found) :
    Path.isOverlong (Path.tidy path) = false := by
  have hne : Path.tidy path ≠ [] := Path.ofParts_ne_nil _ (Path.isPart_parts path)
  by_contra hlong
  have hresolve : t.resolve (Path.tidy path) = .error .nameTooLong := by
    rw [resolve, if_neg (by simpa using hne), if_pos (by simpa using hlong)]
  cases h.symm.trans (find?_eq_error_iff.2 ⟨hresolve, rfl⟩)

/-- The entry is a link, and it leads to a directory. -/
def IsLinkToDirectory (t : Tree) (place : Place) (name : Text) : Prop :=
  ∃ aim, t.kind? (place ++ [name]) = some (.link aim) ∧
    ∃ n goal, Leads t.kind? n place [name] goal ∧ HasDir t.kind? goal

theorem not_dir_of_leads {name : Text} (hnot : ¬ HasDir t.kind? (place ++ [name])) (hname : IsStep name)
    (hlink : ¬ t.IsLinkToDirectory place name) (n : Nat) (goal : Place) (h : Leads t.kind? n place [name] goal) :
    ¬ HasDir t.kind? goal := by
  intro hgoal
  obtain ⟨-, -, ⟨_, -, -, hdone⟩ | ⟨aim, k, hkind, -, -⟩⟩ := h.cases_of_step hname.not_idle hname.not_up
  · exact hnot (hdone.eq_of_nil.2 ▸ hgoal)
  · exact hlink ⟨aim, hkind, n, goal, h, hgoal⟩

/-- In `t'` the last name of a path is that of a file with some contents, in the directory that the parent of the path
leads to in `t`. Nothing else has changed. The file has the permissions of what the path led to, if it led to anything.
The path leads to the file, unless its parent led through a link that has given way to it. -/
structure Writes (t t' : Tree) (path : Text) (bytes : Bytes) (place : Place) (mode : Nat) : Prop where
  parent : t.resolve (Path.parent path) = .ok place
  dir : HasWritableDir t.kind? place
  not_dir : ¬ HasDir t.kind? (place ++ [Path.name path])
  eq : t' = t.putEntry place (Path.name path) (.file bytes mode)
  file : t'.kind? (place ++ [Path.name path]) = some (.file bytes mode)
  elsewhere : ∀ other, other ≠ place ++ [Path.name path] → t'.kind? other = t.kind? other
  mode_of_file : ∀ was m, t.lookUp (Path.tidy path) = .ok (.file was m) → mode = m
  mode_of_dir : ∀ entries m, t.lookUp (Path.tidy path) = .ok (.dir entries m) → mode = m
  mode_of_new : (∀ node, t.lookUp (Path.tidy path) ≠ .ok node) → mode = privateMode
  found : t'.lookUp (Path.tidy path) = .ok (.file bytes mode) ∨
    t.IsLinkToDirectory place (Path.name path) ∧ t'.resolve (Path.parent path) ≠ .ok place

namespace GivesWay

variable {t' : Tree}

/-- The parent leads to the same directory, unless it may lead through the entry that gives way. -/
theorem resolve_parent (h : t.GivesWay path place) (hname : IsStep (Path.name path))
    (hlink : ¬ t.IsLinkToDirectory place (Path.name path)) (bytes : Bytes) (mode : Nat) :
    (t.putEntry place (Path.name path) (.file bytes mode)).resolve (Path.parent path) = .ok place := by
  obtain ⟨hempty, hlong, n, hn, hleads⟩ := resolve_eq_ok_iff.1 h.parent
  refine resolve_eq_ok_iff.2 ⟨hempty, hlong, n, hn, ?_⟩
  rw [h.kinds_putEntry]
  exact hleads.put_of_deadEnd h.dir.hasOpenDir hname (not_dir_of_leads h.not_dir hname hlink) _
    h.dir.hasOpenDir.hasDir

/-- The whole effect of a file that is put there. -/
theorem writes (h : t.GivesWay path place) (hname : Path.isTooLong (Path.name path) = false)
    (hlong : Path.isOverlong (Path.tidy path) = false) (bytes : Bytes) :
    t.Writes (t.putEntry place (Path.name path) (.file bytes (t.modeAt (Path.tidy path)))) path bytes place
      (t.modeAt (Path.tidy path)) := by
  have hstep : IsStep (Path.name path) := ⟨h.isPart.not_idle, h.name_ne_up, hname⟩
  have hlost := fun hlink => h.resolve_parent hstep hlink bytes (t.modeAt (Path.tidy path))
  generalize hmode : t.modeAt (Path.tidy path) = mode at hlost ⊢
  have hkinds := h.kinds_putEntry bytes mode
  generalize hnew : t.putEntry place (Path.name path) (.file bytes mode) = t' at hkinds hlost ⊢
  have hfile : t'.kind? (place ++ [Path.name path]) = some (.file bytes mode) := by rw [hkinds, Kinds.put_self]
  have helsewhere : ∀ other, other ≠ place ++ [Path.name path] → t'.kind? other = t.kind? other := fun other hne => by
    rw [hkinds, Kinds.put_of_ne hne]
  have hdir : HasOpenDir t'.kind? place := by
    obtain ⟨m, hm⟩ := h.dir.hasOpenDir
    exact ⟨m, by rw [helsewhere _ (by simp), hm.1], hm.2⟩
  refine ⟨h.parent, h.dir, h.not_dir, hnew.symm, hfile, helsewhere, fun was m hwas => ?_, fun entries m hentries => ?_,
    fun hnone => ?_, ?_⟩
  · rw [← hmode, modeAt, hwas]
  · rw [← hmode, modeAt, hentries]
  · rw [← hmode, modeAt]
    cases hlook : t.lookUp (Path.tidy path) with
    | error e => rfl
    | ok node => exact absurd hlook (hnone node)
  · by_cases hparent : t'.resolve (Path.parent path) = .ok place
    · have hresolve := resolve_tidy_of_parent hstep h.parts_ne_nil hlong hparent hdir hfile
      exact .inl (lookUp_eq_ok_iff.2 ⟨_, hresolve, kind?_eq_file.1 hfile⟩)
    · exact .inr ⟨by_contra fun hlink => hparent (hlost hlink), hparent⟩

end GivesWay

/-- A write is all or nothing. -/
theorem replaceFile_writes_or_error (ht : t.IsProper) (mishaps : Mishaps) (path : Text) (bytes : Bytes) :
    (∃ e, t.replaceFile mishaps path bytes = (t, .error e)) ∨
      ∃ t' place mode, t.replaceFile mishaps path bytes = (t', .ok ()) ∧ t.Writes t' path bytes place mode := by
  rcases hdone : t.replaceFile mishaps path bytes with ⟨t', result⟩
  cases result with
  | error e =>
    obtain rfl := replaceFile_error ht hdone
    exact .inl ⟨e, rfl⟩
  | ok _ =>
    obtain ⟨⟨spare, hspare⟩, ⟨found, hknown⟩, place, hgives, rfl⟩ := replaceFile_of_ok ht hdone
    exact .inr ⟨_, place, _, rfl, hgives.writes (isTooLong_of_spareFor hspare) (isOverlong_of_find? hknown) bytes⟩

/-- One of the spare files that are tried can be made, it can be told whether something is there at the path, and its
last name can be given to a file. -/
structure AllowsWrite (t : Tree) (letters : List SpareLetters) (path : Text) : Prop where
  spare : ∃ tried ∈ letters, ∃ place, t.roomFor (t.spareDirectory path) (spareName (Path.name path) tried) = .ok place
  known : ∃ found, t.find? (Path.tidy path) = .ok found
  entry : ∃ place, t.GivesWay path place

/-- Where nothing from outside fails, a write succeeds if and only if the tree allows it. -/
theorem exists_replaceFile_iff (ht : t.IsProper) {mishaps : Mishaps} (hfails : ∀ step, mishaps.fails step = none)
    (path : Text) (bytes : Bytes) :
    (∃ t', t.replaceFile mishaps path bytes = (t', .ok ())) ↔ t.AllowsWrite mishaps.letters path := by
  constructor
  · rintro ⟨t', h⟩
    obtain ⟨hspare, hknown, place, hgives, -⟩ := replaceFile_of_ok ht h
    exact ⟨exists_spareFor_iff.1 hspare, hknown, place, hgives⟩
  · rintro ⟨hspare, ⟨found, hknown⟩, place, hgives⟩
    obtain ⟨spare, hspare⟩ := exists_spareFor_iff.2 hspare
    exact ⟨_, replaceFile_of_fails ht hfails hspare hknown hgives bytes⟩

end SdkGraft.Tree
