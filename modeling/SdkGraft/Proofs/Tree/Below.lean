import SdkGraft.Proofs.Tree.Replace
import SdkGraft.Tree.Walk

/-!
# Paths below a directory

* `Node.places`, `Node.isProper_of_places` : the places where something stands, for trees to be checked by;
* `Path.tidy_along` : tidied, names put behind a path one after the other are names put behind it;
* `Kind.shown`, `Tree.seen` : what can be seen at a place, and at the end of a path, links followed;
* `leadsToDirectory_iff` : what a walk sees behind a link, by what is found at its path;
* `leads_down`, `resolve_under_eq` : below a directory names of directories lead straight down;
* `canList_along_iff` : which directories a walk can list.
-/

namespace SdkGraft

/-! ## Places -/

def Node.places : Node → List Place
  | .dir entries _ => [] :: below entries
  | _ => [[]]
where
  /-- The places at and below the entries of a directory. -/
  below : List (Text × Node) → List Place
    | [] => []
    | (name, node) :: rest => node.places.map (name :: ·) ++ below rest

theorem Node.mem_places_below {entries : Entries} {name : Text} {child : Node} (h : (name, child) ∈ entries)
    {rest : Place} (hrest : rest ∈ child.places) : name :: rest ∈ places.below entries := by
  induction entries with
  | nil => cases h
  | cons e entries ih =>
    rw [places.below, List.mem_append]
    rcases List.mem_cons.1 h with rfl | h
    · exact .inl (List.mem_map_of_mem hrest)
    · exact .inr (ih h)

/-- There are no other places where something stands. -/
theorem Node.mem_places {node below : Node} {place : Place} (h : node.at? place = some below) :
    place ∈ node.places := by
  induction node using Node.induct generalizing place with
  | file bytes mode =>
    cases place with
    | nil => exact List.mem_singleton.2 rfl
    | cons n rest => cases h
  | link goal =>
    cases place with
    | nil => exact List.mem_singleton.2 rfl
    | cons n rest => cases h
  | dir entries mode ih =>
    rw [places]
    cases place with
    | nil => exact List.mem_cons_self
    | cons n rest =>
      rw [at?_dir_cons, Option.bind_eq_some_iff] at h
      obtain ⟨child, hget, hat⟩ := h
      have hmem := Entries.mem_of_get? hget
      exact List.mem_cons_of_mem _ (mem_places_below hmem (ih _ hmem hat))

/-- Properness is a matter of finitely many directories. -/
theorem Node.isProper_of_places {node : Node}
    (h : ∀ place ∈ node.places, ∀ entries ∈ (node.at? place).bind Node.entries?,
      (Entries.names entries).Nodup ∧ ∀ name ∈ Entries.names entries, IsEntryName name) : node.IsProper :=
  fun place entries mode hat => h place (mem_places hat) entries (by rw [hat]; rfl)

/-! ## What can be seen of it -/

/-- What can be seen of what stands at a place: not the contents of a file that cannot be read. -/
def Kind.shown : Kind → Kind
  | .file bytes mode => if Tree.isReadable mode then .file bytes mode else .file [] mode
  | kind => kind

theorem Kind.shown_eq_dir {kind : Kind} {mode : Nat} : kind.shown = .dir mode ↔ kind = .dir mode := by
  cases kind with
  | file bytes m => simp only [shown]; split <;> simp
  | link goal => simp [shown]
  | dir m => simp [shown]

@[simp] theorem Kind.isDir_shown (kind : Kind) : kind.shown.isDir = kind.isDir := by
  cases kind with
  | file bytes m => simp only [shown]; split <;> rfl
  | link goal => rfl
  | dir m => rfl

theorem Kind.shown_eq_link {kind : Kind} {goal : Text} : kind.shown = .link goal ↔ kind = .link goal := by
  cases kind with
  | file bytes mode => simp only [shown]; split <;> simp
  | link goal => simp [shown]
  | dir m => simp [shown]

theorem Kind.shown_eq_file {kind : Kind} {bytes : Bytes} {mode : Nat} (hmode : Tree.isReadable mode = true)
    (h : kind.shown = .file bytes mode) : kind = .file bytes mode := by
  cases kind with
  | file bytes' mode' =>
    rw [shown] at h
    split at h
    · exact h
    · rename_i hnot
      cases h
      exact absurd hmode hnot
  | link goal => cases h
  | dir m => cases h

/-! ## Paths -/

namespace Path

theorem rootOf_append {root : Text} (hroot : IsRoot root) {c : Char} (hc : c ≠ '/') (rest : Text) :
    rootOf (root ++ c :: rest) = root := by
  rcases hroot with rfl | rfl | rfl <;> simp [rootOf, hc]

/-- Names put behind a path one after the other count from where the path counts from. -/
theorem rootOf_along_tidy (path : Text) {names : List Text} (h : ∀ n ∈ names, IsPart n) :
    rootOf (along (tidy path) names) = rootOf path := by
  have hroot := isRoot_rootOf path
  obtain htidy | ⟨c, r, hc, htidy⟩ := ofParts_cases (rootOf path) (isPart_parts path)
  · cases names with
    | nil => exact rootOf_tidy path
    | cons name rest =>
      have hname := h name List.mem_cons_self
      obtain ⟨c, r, rfl⟩ := List.exists_cons_of_ne_nil fun hnil : name = [] => by
        rw [hnil] at hname
        cases hname.not_idle
      have hc : c ≠ '/' := fun hc => hname.no_slash (by simp [hc])
      rw [along, List.foldl_cons, ← along, tidy, htidy]
      rcases hroot with hroot | hroot | hroot <;> rw [hroot]
      · obtain ⟨r', hr'⟩ := exists_along (join ['.'] (c :: r)) rest
        show rootOf (along (join ['.'] (c :: r)) rest) = _
        rw [hr']
        exact rootOf_append (.inl rfl) (by decide) _
      · obtain ⟨r', hr'⟩ := exists_along (join ['/'] (c :: r)) rest
        show rootOf (along (join ['/'] (c :: r)) rest) = _
        rw [hr']
        exact rootOf_append (.inr (.inl rfl)) hc _
      · obtain ⟨r', hr'⟩ := exists_along (join ['/', '/'] (c :: r)) rest
        show rootOf (along (join ['/', '/'] (c :: r)) rest) = _
        rw [hr']
        exact rootOf_append (.inr (.inr rfl)) hc _
  · obtain ⟨r', hr'⟩ := exists_along (tidy path) names
    rw [hr', tidy, htidy, List.append_assoc]
    exact rootOf_append hroot hc _

theorem tidy_along (path : Text) {names : List Text} (h : ∀ n ∈ names, IsPart n) :
    tidy (along (tidy path) names) = under path names := by
  rw [tidy, rootOf_along_tidy path h, parts_along _ h, parts_tidy, under]

theorem under_tidy (path : Text) (names : List Text) : under (tidy path) names = under path names := by
  rw [under, rootOf_tidy, parts_tidy, under]

theorem parent_under (path : Text) {names : List Text} {name : Text} (h : ∀ n ∈ names ++ [name], IsPart n) :
    parent (under path (names ++ [name])) = under path names := by
  rw [parent, rootOf_under h, parts_under h, ← List.append_assoc, List.dropLast_concat, under]

theorem name_under (path : Text) {names : List Text} {name : Text} (h : ∀ n ∈ names ++ [name], IsPart n) :
    Path.name (under path (names ++ [name])) = name := by
  rw [Path.name, parts_under h, ← List.append_assoc, List.getLast?_concat, Option.getD_some]

theorem isAbsolute_under (path : Text) {names : List Text} (h : ∀ n ∈ names, IsPart n) :
    isAbsolute (under path names) = isAbsolute path := by
  rw [isAbsolute_eq, rootOf_under h, ← isAbsolute_eq]

end Path

namespace Tree

variable {t t' : Tree} {root path : Text} {top place goal : Place} {names : List Text} {name : Text}

/-! ## What is found at a path -/

def seen (t : Tree) (path : Text) : Except FileError Kind := (t.lookUp path).map fun node => node.kind.shown

theorem seen_eq_ok_iff {shown : Kind} :
    t.seen path = .ok shown ↔
      ∃ goal kind, t.resolve path = .ok goal ∧ t.kind? goal = some kind ∧ kind.shown = shown := by
  rw [seen]
  constructor
  · intro h
    obtain ⟨node, hnode, hshown⟩ := Except.exists_of_map_eq_ok h
    obtain ⟨goal, hgoal, hat⟩ := lookUp_eq_ok_iff.1 hnode
    exact ⟨goal, _, hgoal, by rw [kind?, hat, Option.map_some], hshown⟩
  · rintro ⟨goal, kind, hgoal, hkind, rfl⟩
    obtain ⟨node, hnode, rfl⟩ := Option.map_eq_some_iff.1 hkind
    rw [lookUp_eq_ok_iff.2 ⟨goal, hgoal, hnode⟩, Except.map]

theorem seen_eq_dir_iff {mode : Nat} :
    t.seen path = .ok (.dir mode) ↔ ∃ goal, t.resolve path = .ok goal ∧ t.kind? goal = some (.dir mode) := by
  rw [seen_eq_ok_iff]
  refine exists_congr fun goal => ⟨?_, fun ⟨hgoal, hkind⟩ => ⟨.dir mode, hgoal, hkind, rfl⟩⟩
  rintro ⟨kind, hgoal, hkind, hshown⟩
  exact ⟨hgoal, Kind.shown_eq_dir.1 hshown ▸ hkind⟩

theorem seen_eq_file_iff {bytes : Bytes} {mode : Nat} (hmode : isReadable mode = true) :
    t.seen path = .ok (.file bytes mode) ↔
      ∃ goal, t.resolve path = .ok goal ∧ t.kind? goal = some (.file bytes mode) := by
  rw [seen_eq_ok_iff]
  refine exists_congr fun goal => ⟨?_, fun ⟨hgoal, hkind⟩ => ⟨_, hgoal, hkind, if_pos hmode⟩⟩
  rintro ⟨kind, hgoal, hkind, hshown⟩
  exact ⟨hgoal, Kind.shown_eq_file hmode hshown ▸ hkind⟩

theorem readFile_eq (t : Tree) (path : Text) :
    t.readFile path =
      match t.seen path with
      | .ok (.file bytes mode) => if isReadable mode then .ok bytes else .error .denied
      | .ok (.link _) => .error .tooManyLinks
      | .ok (.dir _) => .error .isADirectory
      | .error e => .error e := by
  rw [readFile, file, seen]
  cases t.lookUp path with
  | error e => rfl
  | ok node =>
    cases node with
    | file bytes mode =>
      simp only [Except.map, Node.kind, Kind.shown]
      cases hmode : isReadable mode <;> simp [hmode]
    | link goal => rfl
    | dir entries mode => rfl

/-- To the same place leads every path of the same names, from the same place, that is not too long and ends in a
name. -/
theorem resolve_of_parts_eq {path' : Text} (hparts : Path.parts path' = Path.parts path)
    (habsolute : Path.isAbsolute path' = Path.isAbsolute path) (hempty : path' ≠ [])
    (hlong : Path.isOverlong path' = false) (hend : Path.EndsInName path') (hgoal : t.resolve path = .ok goal) :
    t.resolve path' = .ok goal := by
  obtain ⟨-, -, n, hn, hleads⟩ := resolve_eq_ok_iff.1 hgoal
  refine resolve_eq_ok_iff.2 ⟨hempty, hlong, n, hn, Leads.with_idle ?_ (.inl hend)⟩
  rw [← Path.parts, hparts, startOf, habsolute]
  exact hleads.of_idle

theorem along_ne_nil (root : Text) (place : Place) : Path.along (Path.tidy root) place ≠ [] := by
  obtain ⟨r, hr⟩ := Path.exists_along (Path.tidy root) place
  rw [hr]
  exact List.append_ne_nil_of_left_ne_nil (Path.ofParts_ne_nil _ (Path.isPart_parts root)) r

/-- A walk sees a directory behind a link if one is found at its path, and the path it knows it by is not too
long. -/
theorem leadsToDirectory_iff (hplace : ∀ n ∈ place, Path.IsPart n) (hne : place ≠ []) :
    t.leadsToDirectory (Path.tidy root) place = true ↔ '\x00' ∉ Path.along (Path.tidy root) place ∧
      Path.isOverlong (Path.along (Path.tidy root) place) = false ∧
        ∃ mode, t.seen (Path.under root place) = .ok (.dir mode) := by
  have hparts : Path.parts (Path.along (Path.tidy root) place) = Path.parts (Path.under root place) := by
    rw [Path.parts_along _ hplace, Path.parts_tidy, Path.parts_under hplace]
  have habsolute : Path.isAbsolute (Path.along (Path.tidy root) place) = Path.isAbsolute (Path.under root place) := by
    rw [Path.isAbsolute_eq, Path.rootOf_along_tidy root hplace, Path.isAbsolute_eq, Path.rootOf_under hplace]
  have hempty := along_ne_nil root place
  have hend : Path.EndsInName (Path.under root place) := Path.endsInName_ofParts (Path.isRoot_rootOf root)
    (Path.isPart_of_mem_under hplace) (List.append_ne_nil_of_right_ne_nil _ hne)
  rw [leadsToDirectory, isDirectory_iff]
  simp only [seen_eq_dir_iff]
  rw [exists_comm]
  simp only [exists_and_left]
  refine and_congr_right fun _ => ?_
  constructor
  · rintro ⟨goal, hgoal, hdir⟩
    obtain ⟨-, hlong, -⟩ := resolve_eq_ok_iff.1 hgoal
    have hshort := Path.isOverlong_tidy hempty hlong
    rw [Path.tidy_along root hplace] at hshort
    exact ⟨hlong, goal, resolve_of_parts_eq hparts.symm habsolute.symm
      (Path.ofParts_ne_nil _ (Path.isPart_of_mem_under hplace)) hshort hend hgoal, hdir⟩
  · rintro ⟨hlong, goal, hgoal, hdir⟩
    exact ⟨goal, resolve_of_parts_eq hparts habsolute hempty hlong (Path.endsInName_along _ hplace hne) hgoal, hdir⟩

/-! ## Straight down -/

theorem isStep_of_leads {kinds : Kinds} {n : Nat} {parts : List Text} (h : Leads kinds n place parts goal)
    (hmem : name ∈ parts) (hname : IsEntryName name) : IsStep name := by
  induction h with
  | done place => cases hmem
  | go hturn hrest ih =>
    rcases List.mem_cons.1 hmem with rfl | hmem
    · exact ((Leads.go hturn hrest).cases_of_step hname.not_idle hname.not_up).2.1
    · exact ih hmem
  | follow hturn _ ih =>
    rcases List.mem_cons.1 hmem with rfl | hmem
    · exact (turn_eq_follow_iff.1 hturn).2.1
    · exact ih (List.mem_append_right _ hmem)

/-- The names that lead to a directory lead straight down to it, if they can be looked up on the way. -/
theorem leads_down (hsteps : ∀ n ∈ names, IsStep n) (hdir : HasDir t.kind? (place ++ names))
    (hopen : ∀ above left, names = above ++ left → left ≠ [] → HasOpenDir t.kind? (place ++ above)) :
    Leads t.kind? 0 place names (place ++ names) := by
  induction names generalizing place with
  | nil =>
    rw [List.append_nil]
    exact .done place
  | cons name rest ih =>
    obtain ⟨hstep, hrest⟩ := List.forall_mem_cons.1 hsteps
    have hsplit : ∀ left, place ++ name :: left = (place ++ [name]) ++ left := fun left => by simp
    have hhere := hopen [] (name :: rest) rfl (by simp)
    rw [List.append_nil] at hhere
    rw [hsplit] at hdir ⊢
    obtain ⟨mode, hbelow⟩ : HasDir t.kind? (place ++ [name]) := by
      rcases eq_or_ne rest [] with rfl | hne
      · rwa [List.append_nil] at hdir
      · obtain ⟨kind, hkind⟩ := hdir.exists_kind
        exact hasDir_of_append hkind hne
    refine .down hhere hstep hbelow (by simp) (ih hrest hdir fun above left hleft hne => ?_)
    rw [← hsplit]
    exact hopen (name :: above) left (by rw [hleft, List.cons_append]) hne

theorem openDir_of_leads {n : Nat} (hnames : ∀ n ∈ names, IsEntryName n) (h : Leads t.kind? n place names goal)
    (hdir : HasDir t.kind? (place ++ names)) {above left : Place} (hsplit : names = above ++ left) (hleft : left ≠ []) :
    HasOpenDir t.kind? (place ++ above) := by
  subst hsplit
  obtain ⟨j, k, middle, -, hj, hk⟩ := h.split
  obtain ⟨kind, hkind⟩ := hdir.exists_kind
  rw [← List.append_assoc] at hkind
  have hmiddle := leads_straight (hasDir_of_append hkind hleft) (fun n hn => hnames n (List.mem_append_left _ hn)) hj
  obtain ⟨name, left, rfl⟩ := List.exists_cons_of_ne_nil hleft
  rw [← hmiddle]
  exact hk.openDir_of_cons (ne_nil_of_not_idle (hnames name (by simp)).not_idle)

section
variable (hroot : t.resolve root = .ok top)
include hroot

/-- A path of a root's names and some more leads where these lead from where the root leads to. -/
theorem leads_of_resolve_parts (hparts : Path.parts path = Path.parts root ++ names)
    (habsolute : Path.isAbsolute path = Path.isAbsolute root) (hgoal : t.resolve path = .ok goal) :
    ∃ n, Leads t.kind? n top names goal := by
  obtain ⟨-, -, j, -, hup⟩ := resolve_eq_ok_iff.1 hroot
  obtain ⟨-, -, n, -, hleads⟩ := resolve_eq_ok_iff.1 hgoal
  have hupper := hup.of_idle
  have hroute := hleads.of_idle
  rw [← Path.parts] at hupper
  rw [← Path.parts, hparts, startOf, habsolute, ← startOf] at hroute
  obtain ⟨_, k, middle, -, hmiddle, hk⟩ := hroute.split
  rw [(hmiddle.unique hupper).2] at hk
  exact ⟨k, hk⟩

variable (hnames : ∀ n ∈ names, Path.IsPart n)
include hnames

theorem leads_of_resolve_under (hgoal : t.resolve (Path.under root names) = .ok goal) :
    ∃ n, Leads t.kind? n top names goal :=
  leads_of_resolve_parts hroot (Path.parts_under hnames) (Path.isAbsolute_under root hnames) hgoal

theorem leads_of_resolve_along (hgoal : t.resolve (Path.along root names) = .ok goal) :
    ∃ n, Leads t.kind? n top names goal :=
  leads_of_resolve_parts hroot (Path.parts_along root hnames)
    (Path.isAbsolute_along (resolve_eq_ok_iff.1 hroot).1 names) hgoal

end

theorem resolve_under_eq (hnames : ∀ n ∈ names, IsEntryName n) (hroot : t.resolve root = .ok top)
    (hdir : HasDir t.kind? (top ++ names)) (hgoal : t.resolve (Path.under root names) = .ok goal) :
    goal = top ++ names := by
  obtain ⟨n, hleads⟩ := leads_of_resolve_under hroot (fun n hn => (hnames n hn).isPart) hgoal
  exact leads_straight hdir hnames hleads

/-! ## Listing -/

/-- What it takes for a directory below the place a root leads to, to be listed by its path. -/
structure IsListable (t : Tree) (root : Text) (top place : Place) : Prop where
  short : Path.isOverlong (Path.along root place) = false
  steps : ∀ n ∈ place, Path.isTooLong n = false
  isOpen : ∀ above left, place = above ++ left → left ≠ [] → HasOpenDir t.kind? (top ++ above)
  readable : ∃ mode, t.kind? (top ++ place) = some (.dir mode) ∧ isReadable mode = true

/-- A walk can list a directory by its path if that is not too long, its names can be looked up on the way, and it
can be read. -/
theorem canList_along_iff (hplace : ∀ n ∈ place, IsEntryName n) (hroot : t.resolve root = .ok top)
    (hdir : HasDir t.kind? (top ++ place)) :
    t.canList (Path.along root place) = true ↔ t.IsListable root top place := by
  have hparts : ∀ n ∈ place, Path.IsPart n := fun n hn => (hplace n hn).isPart
  have hlists : t.canList (Path.along root place) = true ↔
      ∃ goal mode, t.resolve (Path.along root place) = .ok goal ∧ t.kind? goal = some (.dir mode) ∧
        isReadable mode = true := by
    simp only [canList, Option.isSome_iff_exists, kind?_eq_dir]
    constructor
    · rintro ⟨entries, hentries⟩
      obtain ⟨goal, mode, hgoal, hnode, hreadable⟩ := list_eq_ok_iff.1 (Except.of_toOption_eq_some hentries)
      exact ⟨goal, mode, hgoal, ⟨entries, hnode⟩, hreadable⟩
    · rintro ⟨goal, mode, hgoal, ⟨entries, hnode⟩, hreadable⟩
      exact ⟨entries, by rw [list_eq_ok_iff.2 ⟨goal, mode, hgoal, hnode, hreadable⟩]; rfl⟩
  rw [hlists]
  constructor
  · rintro ⟨goal, mode, hgoal, hkind, hreadable⟩
    obtain ⟨n, hleads⟩ := leads_of_resolve_along hroot hparts hgoal
    rw [leads_straight hdir hplace hleads] at hkind
    exact ⟨(resolve_eq_ok_iff.1 hgoal).2.1, fun n hn => (isStep_of_leads hleads hn (hplace n hn)).not_long,
      fun above left hsplit hleft => openDir_of_leads hplace hleads hdir hsplit hleft, mode, hkind, hreadable⟩
  · rintro ⟨hshort, hsteps, hopen, mode, hkind, hreadable⟩
    refine ⟨top ++ place, mode, ?_, hkind, hreadable⟩
    rcases eq_or_ne place [] with rfl | hne
    · rwa [List.append_nil]
    obtain ⟨hempty, -, n, hn, hup⟩ := resolve_eq_ok_iff.1 hroot
    have hdown := leads_down (fun n hn => ⟨(hplace n hn).not_idle, (hplace n hn).not_up, hsteps n hn⟩) hdir hopen
    have hwhole := hup.of_idle.trans hdown
    rw [← Path.parts, ← Path.parts_along root hparts, Nat.add_zero] at hwhole
    refine resolve_eq_ok_iff.2 ⟨?_, hshort, n, hn, Leads.with_idle ?_ (.inl (Path.endsInName_along root hparts hne))⟩
    · obtain ⟨r, hr⟩ := Path.exists_along root place
      rw [hr]
      exact List.append_ne_nil_of_left_ne_nil hempty r
    · rw [startOf, Path.isAbsolute_along hempty, ← startOf]
      exact hwhole

end Tree

end SdkGraft
