import SdkGraft.Proofs.Tree.PathText
import SdkGraft.Proofs.Tree.Reroute

/-!
# Trees with a new file

* `IsNew` : two trees that differ by a file that is new; `IsNew.resolve` : what paths lead to in them;
* `modeAt_eq`, `IsNew.modeAt_eq` : the permissions of what a path leads to;
* `GivesWay` : the last name of a path can be given to a file (`entryOf_eq_ok_iff`, `rename_eq_ok_iff`).
-/

namespace SdkGraft.Tree

variable {t new : Tree} {spot place : Place} {path : Text} {bytes : Bytes} {mode : Nat}

/-! ## Looking past a new file -/

/-- What looking for something comes to once a new file is there: the same, or, where nothing was found, the file, or
that it is no directory. -/
def SameButNew (spot : Place) (before after : Except FileError Place) : Prop :=
  after = before ∨ before = .error .notFound ∧ (after = .ok spot ∨ after = .error .notADirectory)

/-- In `new` there is a file where nothing stands in `t`. -/
structure IsNew (t new : Tree) (spot : Place) (bytes : Bytes) (mode : Nat) : Prop where
  here : new.here = t.here
  kind?_eq_none : t.kind? spot = none
  kinds : new.kind? = Kinds.put t.kind? spot (.file bytes mode)

namespace IsNew

variable {links : Nat} {parts : List Text}

theorem kind?_spot (h : IsNew t new spot bytes mode) : new.kind? spot = some (.file bytes mode) := by
  rw [h.kinds, Kinds.put_self]

theorem kind?_of_ne (h : IsNew t new spot bytes mode) (hne : place ≠ spot) : new.kind? place = t.kind? place := by
  rw [h.kinds, Kinds.put_of_ne hne]

theorem kind?_of_some (h : IsNew t new spot bytes mode) {kind : Kind} (hkind : t.kind? place = some kind) :
    new.kind? place = some kind := by
  rw [h.kind?_of_ne, hkind]
  rintro rfl
  rw [h.kind?_eq_none] at hkind
  cases hkind

theorem spot_not_dir (h : IsNew t new spot bytes mode) : ¬ HasDir new.kind? spot := not_hasDir_of_file h.kind?_spot

theorem kind?_eq_dir_iff (h : IsNew t new spot bytes mode) {m : Nat} :
    new.kind? place = some (.dir m) ↔ t.kind? place = some (.dir m) := by
  refine ⟨fun hdir => ?_, h.kind?_of_some⟩
  rwa [← h.kind?_of_ne (ne_of_hasDir h.spot_not_dir ⟨m, hdir⟩)]

theorem hasDir_iff (h : IsNew t new spot bytes mode) : HasDir new.kind? place ↔ HasDir t.kind? place :=
  exists_congr fun _ => h.kind?_eq_dir_iff

/-- A part comes to the same, or it found nothing and finds the new file. -/
theorem turn_cases (h : IsNew t new spot bytes mode) (place : Place) (part : Text) :
    turn new.kind? place part = turn t.kind? place part ∨
      turn t.kind? place part = .stop .notFound ∧ turn new.kind? place part = .go spot := by
  by_cases hdir : HasDir t.kind? place
  · have hplace := h.kind?_of_ne (ne_of_hasDir h.spot_not_dir (h.hasDir_iff.2 hdir))
    by_cases hspot : place ++ [part] = spot
    · unfold turn
      rw [hplace, hspot, h.kind?_eq_none, h.kind?_spot]
      obtain ⟨m, hm⟩ := hdir
      simp only [hm]
      split
      · exact .inl rfl
      split
      · exact .inl rfl
      split
      · exact .inl rfl
      split
      · exact .inl rfl
      split
      · exact .inl rfl
      · exact .inr ⟨rfl, rfl⟩
    · exact .inl (turn_congr hplace (h.kind?_of_ne hspot))
  · exact .inl ((turn_of_not_dir (mt h.hasDir_iff.1 hdir)).trans (turn_of_not_dir hdir).symm)

/-- So it is for the parts of a path, if it is so behind every link. -/
theorem resolveFrom_of_follow (h : IsNew t new spot bytes mode)
    (hfollow : ∀ place aim rest,
      SameButNew spot (t.followFrom links place aim rest) (new.followFrom links place aim rest)) :
    SameButNew spot (t.resolveFrom links place parts) (new.resolveFrom links place parts) := by
  induction parts generalizing place with
  | nil =>
    rw [resolveFrom_nil, resolveFrom_nil]
    exact .inl rfl
  | cons part rest ih =>
    rw [resolveFrom_cons, resolveFrom_cons]
    obtain hsame | ⟨hnone, hspot⟩ := h.turn_cases place part
    · rw [hsame]
      cases turn t.kind? place part with
      | stop e => exact .inl rfl
      | go next => exact ih
      | follow aim => exact hfollow place aim rest
    · rw [hnone, hspot]
      refine .inr ⟨rfl, ?_⟩
      cases rest with
      | nil => exact .inl (resolveFrom_nil ..)
      | cons _ _ => exact .inr (resolveFrom_of_not_dir h.spot_not_dir)

theorem resolveFrom (h : IsNew t new spot bytes mode) :
    SameButNew spot (t.resolveFrom links place parts) (new.resolveFrom links place parts) := by
  induction links generalizing place parts with
  | zero => exact h.resolveFrom_of_follow fun _ _ _ => .inl rfl
  | succ links ih => exact h.resolveFrom_of_follow fun _ _ _ => ih

theorem resolve (h : IsNew t new spot bytes mode) (path : Text) :
    SameButNew spot (t.resolve path) (new.resolve path) := by
  rw [Tree.resolve, Tree.resolve, h.here]
  split
  · exact .inl rfl
  split
  · exact .inl rfl
  · exact h.resolveFrom

/-- Paths that lead somewhere are not disturbed by it. -/
theorem resolve_of_ok (h : IsNew t new spot bytes mode) (hplace : t.resolve path = .ok place) :
    new.resolve path = .ok place := by
  rcases h.resolve path with hsame | ⟨hnone, -⟩
  · rw [hsame, hplace]
  · cases hplace.symm.trans hnone

/-- Paths to directories lead where they led. -/
theorem resolve_dir_iff (h : IsNew t new spot bytes mode) (hdir : HasDir t.kind? place) :
    new.resolve path = .ok place ↔ t.resolve path = .ok place := by
  rcases h.resolve path with hsame | ⟨hnone, hnew | hnew⟩
  · rw [hsame]
  · rw [hnone, hnew]
    refine iff_of_false (fun hspot => ?_) fun hspot => by cases hspot
    obtain rfl := Except.ok.inj hspot
    exact h.spot_not_dir (h.hasDir_iff.2 hdir)
  · rw [hnone, hnew]
    exact iff_of_false (fun hspot => by cases hspot) fun hspot => by cases hspot

theorem find?_eq_error_iff (h : IsNew t new spot bytes mode) {e : FileError} :
    new.find? path = .error e ↔ t.find? path = .error e := by
  rw [Tree.find?_eq_error_iff, Tree.find?_eq_error_iff]
  refine and_congr_left fun habsent => ?_
  rcases h.resolve path with hsame | ⟨hnone, hnew⟩
  · rw [hsame]
  · refine iff_of_false (fun he => ?_) fun he => ?_
    · rcases hnew with hnew | hnew
      · cases hnew.symm.trans he
      · cases hnew.symm.trans he
        cases habsent
    · cases hnone.symm.trans he
      cases habsent

end IsNew

/-! ## Permissions and entries -/

/-- The permissions of what stands at a place; nobody else may see what is new there. -/
def modeOf : Option Kind → Nat
  | some (.file _ mode) => mode
  | some (.dir mode) => mode
  | _ => privateMode

theorem modeAt_eq (t : Tree) (path : Text) : t.modeAt path =
    match t.resolve path with
    | .ok goal => modeOf (t.kind? goal)
    | .error _ => privateMode := by
  unfold modeAt lookUp
  cases t.resolve path with
  | error e => rfl
  | ok goal =>
    simp only [kind?]
    cases t.node? goal with
    | none => rfl
    | some node => cases node <;> rfl

theorem IsNew.modeAt_eq (h : IsNew t new spot bytes privateMode) (path : Text) : new.modeAt path = t.modeAt path := by
  rw [Tree.modeAt_eq, Tree.modeAt_eq]
  rcases h.resolve path with hsame | ⟨hnone, hnew | hnew⟩
  · rw [hsame]
    cases t.resolve path with
    | error e => rfl
    | ok goal =>
      by_cases hgoal : goal = spot
      · subst hgoal
        simp only [h.kind?_spot, h.kind?_eq_none, modeOf]
      · simp only [h.kind?_of_ne hgoal]
  · simp only [hnone, hnew, h.kind?_spot, modeOf]
  · rw [hnone, hnew]

theorem entryOf_eq_ok_iff {name : Text} : t.entryOf path = .ok (place, name) ↔
    (t.resolve (Path.parent path) = .ok place ∧ HasWritableDir t.kind? place) ∧ name = Path.name path ∧
      name ≠ [] ∧ name ≠ ['.', '.'] := by
  rw [entryOf]
  cases t.resolve (Path.parent path) with
  | error e => simp
  | ok goal =>
    simp only [Except.ok.injEq]
    by_cases hdir : HasDir t.kind? goal
    · obtain ⟨entries, mode, hnode⟩ := Tree.hasDir_iff.1 hdir
      have hkind : t.kind? goal = some (.dir mode) := kind?_eq_dir.2 ⟨entries, hnode⟩
      have hwritable : HasWritableDir t.kind? goal ↔ isSearchable mode = true ∧ isWritable mode = true := by
        simp [HasWritableDir, hkind]
      simp only [hnode, List.isEmpty_iff]
      constructor
      · intro h
        split at h
        · cases h
        split at h
        · cases h
        split at h
        · cases h
        split at h
        · cases h
        rename_i hname hopen hup hwrite
        cases h
        exact ⟨⟨rfl, hwritable.2 ⟨by simpa using hopen, by simpa using hwrite⟩⟩, rfl, hname, hup⟩
      · rintro ⟨⟨rfl, hgoal⟩, rfl, hname, hup⟩
        obtain ⟨hopen, hwrite⟩ := hwritable.1 hgoal
        rw [if_neg hname, if_neg (by simp [hopen]), if_neg hup, if_neg (by simp [hwrite])]
    · refine iff_of_false ?_ fun h => hdir (h.1.1 ▸ h.1.2.hasOpenDir.hasDir)
      cases hnode : t.node? goal with
      | none => simp
      | some node =>
        cases node with
        | file bytes mode => simp
        | link goal => simp
        | dir entries mode => exact absurd (Tree.hasDir_iff.2 ⟨entries, mode, hnode⟩) hdir

/-- The last name of a path stands for a file, in the directory that its parent leads to: no directory is there. -/
structure GivesWay (t : Tree) (path : Text) (place : Place) : Prop where
  parent : t.resolve (Path.parent path) = .ok place
  dir : HasWritableDir t.kind? place
  name_ne_nil : Path.name path ≠ []
  name_ne_up : Path.name path ≠ ['.', '.']
  not_dir : ¬ HasDir t.kind? (place ++ [Path.name path])

theorem IsNew.hasWritableDir_iff (h : IsNew t new spot bytes mode) :
    HasWritableDir new.kind? place ↔ HasWritableDir t.kind? place :=
  exists_congr fun _ => and_congr_left fun _ => h.kind?_eq_dir_iff

theorem IsNew.givesWay_iff (h : IsNew t new spot bytes mode) : new.GivesWay path place ↔ t.GivesWay path place := by
  constructor
  · rintro ⟨hparent, hdir, hname, hup, hnot⟩
    have hdir' := h.hasWritableDir_iff.1 hdir
    exact ⟨(h.resolve_dir_iff hdir'.hasOpenDir.hasDir).1 hparent, hdir', hname, hup, mt h.hasDir_iff.2 hnot⟩
  · rintro ⟨hparent, hdir, hname, hup, hnot⟩
    exact ⟨(h.resolve_dir_iff hdir.hasOpenDir.hasDir).2 hparent, h.hasWritableDir_iff.2 hdir, hname, hup,
      mt h.hasDir_iff.1 hnot⟩

theorem rename_eq_ok_iff {spare : Spare} {done : Tree} : t.rename spare bytes mode path = .ok done ↔
    ∃ place, t.GivesWay path place ∧
      done = (t.eraseEntry spare.place spare.name).putEntry place (Path.name path) (.file bytes mode) := by
  rw [rename]
  constructor
  · intro h
    split at h
    · cases h
    rename_i place name hentry
    obtain ⟨⟨hparent, hdir⟩, rfl, hname, hup⟩ := entryOf_eq_ok_iff.1 hentry
    split at h
    · cases h
    rename_i hnode
    refine ⟨place, ⟨hparent, hdir, hname, hup, fun hspot => ?_⟩, (Except.ok.inj h).symm⟩
    obtain ⟨entries, m, hentries⟩ := Tree.hasDir_iff.1 hspot
    exact hnode entries m hentries
  · rintro ⟨place, ⟨hparent, hdir, hname, hup, hnot⟩, rfl⟩
    rw [entryOf_eq_ok_iff.2 ⟨⟨hparent, hdir⟩, rfl, hname, hup⟩]
    simp only
    split
    · rename_i entries m hnode
      exact absurd (Tree.hasDir_iff.2 ⟨entries, m, hnode⟩) hnot
    · rfl

end SdkGraft.Tree
