import SdkGraft.Proofs.Tree.Entries

/-!
# Where paths lead

* `Turn`, `turn` : what a single part of a path comes to at a place; `resolveFrom_cons` : resolving takes one
  turn after the other;
* `Leads kinds n place parts goal` : the parts lead from one place to another through exactly `n` links,
  by what `kinds` says stands at places;
* `Leads.trans`, `Leads.split` : parts one after the other; `Leads.unique` : there is one goal;
* `Leads.of_idle`, `Leads.with_idle` : parts that lead nowhere can be left out, and put in again;
* `resolveFrom_of_leads` : resolving finds what parts lead to, or says that its links are too few;
  `leads_of_resolveFrom` : it finds nothing else;
* `Tree.resolve_eq_ok_iff` : the same for a path.
-/

namespace SdkGraft

/-! ## A single part -/

/-- A part of a path that is looked up by its name. -/
structure IsStep (part : Text) : Prop where
  not_idle : Path.isIdle part = false
  not_up : part ≠ ['.', '.']
  not_long : Path.isTooLong part = false

theorem Path.isIdle_iff {part : Text} : isIdle part = true ↔ part = [] ∨ part = ['.'] := by
  simp [isIdle]

theorem ne_nil_of_not_idle {part : Text} (h : Path.isIdle part = false) : part ≠ [] := by
  rintro rfl
  cases h

/-- What a part of a path comes to at a place. -/
inductive Turn where
  | stop (e : FileError)
  | go (next : Place)
  /-- A link stands there that leads to `aim`. -/
  | follow (aim : Text)

def turn (kinds : Kinds) (place : Place) (part : Text) : Turn :=
  match kinds place with
  | some (.dir mode) =>
    if part.isEmpty then .go place
    else if !Tree.isSearchable mode then .stop .denied
    else if part = ['.'] then .go place
    else if part = ['.', '.'] then .go place.dropLast
    else if Path.isTooLong part then .stop .nameTooLong
    else
      match kinds (place ++ [part]) with
      | none => .stop .notFound
      | some (.link aim) => .follow aim
      | some _ => .go (place ++ [part])
  | _ => .stop .notADirectory

section
variable {kinds kinds' : Kinds} {place next spot : Place} {part aim : Text}

theorem turn_congr (hplace : kinds' place = kinds place) (hbelow : kinds' (place ++ [part]) = kinds (place ++ [part])) :
    turn kinds' place part = turn kinds place part := by
  rw [turn, turn, hplace, hbelow]

theorem turn_of_not_dir (h : ¬ HasDir kinds place) : turn kinds place part = .stop .notADirectory := by
  unfold turn
  split
  · rename_i mode hmode
    exact absurd ⟨mode, hmode⟩ h
  · rfl

theorem turn_nil (h : HasDir kinds place) : turn kinds place [] = .go place := by
  obtain ⟨mode, hmode⟩ := h
  rw [turn, hmode]
  rfl

theorem turn_idle (h : HasOpenDir kinds place) (hpart : Path.isIdle part = true) :
    turn kinds place part = .go place := by
  rcases Path.isIdle_iff.1 hpart with rfl | rfl
  · exact turn_nil h.hasDir
  · obtain ⟨mode, hmode, hopen⟩ := h
    rw [turn, hmode]
    simp [hopen]

theorem turn_up (h : HasOpenDir kinds place) : turn kinds place ['.', '.'] = .go place.dropLast := by
  obtain ⟨mode, hmode, hopen⟩ := h
  rw [turn, hmode]
  simp [hopen]

theorem turn_step (h : HasOpenDir kinds place) (hpart : IsStep part) :
    turn kinds place part =
      match kinds (place ++ [part]) with
      | none => .stop .notFound
      | some (.link aim) => .follow aim
      | some _ => .go (place ++ [part]) := by
  obtain ⟨mode, hmode, hopen⟩ := h
  have hidle := hpart.not_idle
  rw [Path.isIdle, Bool.or_eq_false_iff] at hidle
  have hdot : part ≠ ['.'] := by simpa using hidle.2
  rw [turn, hmode]
  simp only [hidle.1, hopen, hdot, hpart.not_up, hpart.not_long, Bool.false_eq_true, if_false, Bool.not_true]

theorem turn_down (h : HasOpenDir kinds place) (hpart : IsStep part) {kind : Kind}
    (hkind : kinds (place ++ [part]) = some kind) (hlink : ∀ aim, kind ≠ .link aim) :
    turn kinds place part = .go (place ++ [part]) := by
  rw [turn_step h hpart, hkind]
  cases kind with
  | link aim => exact absurd rfl (hlink aim)
  | file bytes mode => rfl
  | dir mode => rfl

/-- Looking up a name, and whatever else is not idle, takes a directory that can be searched. -/
theorem hasOpenDir_of_turn (hturn : ∀ e, turn kinds place part ≠ .stop e) (hpart : part ≠ []) :
    HasOpenDir kinds place := by
  unfold turn at hturn
  split at hturn
  · rename_i mode hmode
    refine ⟨mode, hmode, ?_⟩
    rw [if_neg (by simpa using hpart)] at hturn
    split at hturn
    · exact absurd rfl (hturn _)
    · rename_i hopen
      simpa using hopen
  · exact absurd rfl (hturn _)

theorem hasDir_of_turn (hturn : ∀ e, turn kinds place part ≠ .stop e) : HasDir kinds place := by
  by_contra hdir
  exact hturn _ (turn_of_not_dir hdir)

theorem ne_stop_of_go (h : turn kinds place part = .go next) (e : FileError) : turn kinds place part ≠ .stop e := by
  simp [h]

theorem ne_stop_of_follow (h : turn kinds place part = .follow aim) (e : FileError) :
    turn kinds place part ≠ .stop e := by
  simp [h]

theorem turn_eq_go (h : turn kinds place part = .go next) :
    (Path.isIdle part = true ∧ next = place) ∨ (part = ['.', '.'] ∧ next = place.dropLast) ∨
      (IsStep part ∧ next = place ++ [part] ∧ ∃ kind, kinds next = some kind ∧ ∀ aim, kind ≠ .link aim) := by
  by_cases hnil : part = []
  · subst hnil
    rw [turn_nil (hasDir_of_turn (ne_stop_of_go h))] at h
    exact .inl ⟨rfl, (Turn.go.inj h).symm⟩
  have hopen := hasOpenDir_of_turn (ne_stop_of_go h) hnil
  by_cases hidle : Path.isIdle part = true
  · rw [turn_idle hopen hidle] at h
    exact .inl ⟨hidle, (Turn.go.inj h).symm⟩
  by_cases hup : part = ['.', '.']
  · subst hup
    rw [turn_up hopen] at h
    exact .inr (.inl ⟨rfl, (Turn.go.inj h).symm⟩)
  have hidle : Path.isIdle part = false := by simpa using hidle
  obtain ⟨mode, hmode, hsearch⟩ := hopen
  unfold turn at h
  have hdot : part ≠ ['.'] := by
    rintro rfl
    cases hidle
  simp only [hmode, List.isEmpty_iff, hnil, hsearch, hdot, hup, Bool.not_true, Bool.false_eq_true, if_false] at h
  split at h
  · cases h
  rename_i hlong
  have hstep : IsStep part := ⟨hidle, hup, by simpa using hlong⟩
  split at h
  · cases h
  · cases h
  · rename_i kind hlink hkind
    cases h
    exact .inr (.inr ⟨hstep, rfl, kind, hkind, hlink⟩)

theorem turn_eq_follow_iff : turn kinds place part = .follow aim ↔
    HasOpenDir kinds place ∧ IsStep part ∧ kinds (place ++ [part]) = some (.link aim) := by
  constructor
  · intro h
    have hnil : part ≠ [] := by
      rintro rfl
      rw [turn_nil (hasDir_of_turn (ne_stop_of_follow h))] at h
      cases h
    have hopen := hasOpenDir_of_turn (ne_stop_of_follow h) hnil
    have hidle : Path.isIdle part = false := by
      by_contra hidle
      rw [turn_idle hopen (by simpa using hidle)] at h
      cases h
    have hup : part ≠ ['.', '.'] := by
      rintro rfl
      rw [turn_up hopen] at h
      cases h
    by_cases hlong : Path.isTooLong part = true
    · obtain ⟨mode, hmode, hsearch⟩ := hopen
      unfold turn at h
      have hdot : part ≠ ['.'] := by
        rintro rfl
        cases hidle
      simp [hmode, hnil, hsearch, hdot, hup, hlong] at h
    have hstep : IsStep part := ⟨hidle, hup, by simpa using hlong⟩
    rw [turn_step hopen hstep] at h
    split at h
    · cases h
    · rename_i hkind
      cases h
      exact ⟨hopen, hstep, hkind⟩
    · cases h
  · rintro ⟨hopen, hstep, hkind⟩
    rw [turn_step hopen hstep, hkind]

end

/-! ## Routes -/

/-- The parts lead from one place to another through `n` links. -/
inductive Leads (kinds : Kinds) : Nat → Place → List Text → Place → Prop where
  | done (place : Place) : Leads kinds 0 place [] place
  | go {n : Nat} {place next goal : Place} {part : Text} {rest : List Text}
      (hturn : turn kinds place part = .go next) (h : Leads kinds n next rest goal) :
      Leads kinds n place (part :: rest) goal
  | follow {n : Nat} {place goal : Place} {part aim : Text} {rest : List Text}
      (hturn : turn kinds place part = .follow aim)
      (h : Leads kinds n (Tree.startOf place aim) (Text.splitAt '/' aim ++ rest) goal) :
      Leads kinds (n + 1) place (part :: rest) goal

namespace Leads

variable {kinds : Kinds} {n m : Nat} {place middle goal goal' : Place} {part : Text} {parts parts' : List Text}

theorem eq_of_nil (h : Leads kinds n place [] goal) : n = 0 ∧ goal = place := by
  cases h
  exact ⟨rfl, rfl⟩

theorem dir_of_cons (h : Leads kinds n place (part :: parts) goal) : HasDir kinds place := by
  cases h with
  | go hturn => exact hasDir_of_turn (ne_stop_of_go hturn)
  | follow hturn => exact hasDir_of_turn (ne_stop_of_follow hturn)

theorem openDir_of_cons (h : Leads kinds n place (part :: parts) goal) (hpart : part ≠ []) :
    HasOpenDir kinds place := by
  cases h with
  | go hturn => exact hasOpenDir_of_turn (ne_stop_of_go hturn) hpart
  | follow hturn => exact hasOpenDir_of_turn (ne_stop_of_follow hturn) hpart

theorem dir_start (h : Leads kinds n place parts goal) (hgoal : HasDir kinds goal) : HasDir kinds place := by
  cases parts with
  | nil => rw [← h.eq_of_nil.2]; exact hgoal
  | cons part rest => exact h.dir_of_cons

theorem down {kind : Kind} (hdir : HasOpenDir kinds place) (hpart : IsStep part)
    (hkind : kinds (place ++ [part]) = some kind) (hlink : ∀ aim, kind ≠ .link aim)
    (h : Leads kinds n (place ++ [part]) parts goal) : Leads kinds n place (part :: parts) goal :=
  .go (turn_down hdir hpart hkind hlink) h

theorem cases_of_step (h : Leads kinds n place (part :: parts) goal) (hidle : Path.isIdle part = false)
    (hup : part ≠ ['.', '.']) : HasOpenDir kinds place ∧ IsStep part ∧
      ((∃ kind, kinds (place ++ [part]) = some kind ∧ (∀ aim, kind ≠ .link aim) ∧
        Leads kinds n (place ++ [part]) parts goal) ∨
      ∃ aim k, kinds (place ++ [part]) = some (.link aim) ∧ n = k + 1 ∧
        Leads kinds k (Tree.startOf place aim) (Text.splitAt '/' aim ++ parts) goal) := by
  refine ⟨h.openDir_of_cons (ne_nil_of_not_idle hidle), ?_⟩
  cases h with
  | go hturn h =>
    obtain ⟨hpart, -⟩ | ⟨hpart, -⟩ | ⟨hstep, rfl, kind, hkind, hlink⟩ := turn_eq_go hturn
    · rw [hidle] at hpart
      cases hpart
    · exact absurd hpart hup
    · exact ⟨hstep, .inl ⟨kind, hkind, hlink, h⟩⟩
  | follow hturn h =>
    obtain ⟨-, hstep, hkind⟩ := turn_eq_follow_iff.1 hturn
    exact ⟨hstep, .inr ⟨_, _, hkind, rfl, h⟩⟩

theorem trans (h : Leads kinds n place parts middle) (h' : Leads kinds m middle parts' goal) :
    Leads kinds (n + m) place (parts ++ parts') goal := by
  induction h with
  | done place => rw [Nat.zero_add]; exact h'
  | go hturn _ ih => exact .go hturn (ih h')
  | follow hturn _ ih =>
    have hrest := ih h'
    rw [List.append_assoc] at hrest
    rw [Nat.add_right_comm]
    exact .follow hturn hrest

theorem split (h : Leads kinds n place (parts ++ parts') goal) :
    ∃ j k middle, n = j + k ∧ Leads kinds j place parts middle ∧ Leads kinds k middle parts' goal := by
  generalize hall : parts ++ parts' = all at h
  induction h generalizing parts with
  | done place =>
    obtain ⟨rfl, rfl⟩ := List.append_eq_nil_iff.1 hall
    exact ⟨0, 0, place, rfl, .done place, .done place⟩
  | @go n place next goal part rest hturn h ih =>
    cases parts with
    | nil => exact ⟨0, n, place, (Nat.zero_add n).symm, .done place, by subst hall; exact .go hturn h⟩
    | cons p ps =>
      obtain ⟨rfl, rfl⟩ := List.cons.inj hall
      obtain ⟨j, k, middle, hn, hj, hk⟩ := ih rfl
      exact ⟨j, k, middle, hn, .go hturn hj, hk⟩
  | @follow n place goal part aim rest hturn h ih =>
    cases parts with
    | nil => exact ⟨0, n + 1, place, (Nat.zero_add _).symm, .done place, by subst hall; exact .follow hturn h⟩
    | cons p ps =>
      obtain ⟨rfl, rfl⟩ := List.cons.inj hall
      obtain ⟨j, k, middle, hn, hj, hk⟩ := ih (List.append_assoc _ ps parts')
      exact ⟨j + 1, k, middle, by omega, .follow hturn hj, hk⟩

theorem unique (h : Leads kinds n place parts goal) (h' : Leads kinds m place parts goal') :
    n = m ∧ goal = goal' := by
  induction h generalizing m with
  | done place =>
    obtain ⟨rfl, rfl⟩ := h'.eq_of_nil
    exact ⟨rfl, rfl⟩
  | go hturn _ ih =>
    cases h' with
    | go hturn' h' =>
      rw [hturn, Turn.go.injEq] at hturn'
      subst hturn'
      exact ih h'
    | follow hturn' => rw [hturn] at hturn'; cases hturn'
  | follow hturn _ ih =>
    cases h' with
    | go hturn' => rw [hturn] at hturn'; cases hturn'
    | follow hturn' h' =>
      rw [hturn, Turn.follow.injEq] at hturn'
      subst hturn'
      obtain ⟨rfl, rfl⟩ := ih h'
      exact ⟨rfl, rfl⟩

theorem of_idle (h : Leads kinds n place parts goal) :
    Leads kinds n place (parts.filter fun p => !Path.isIdle p) goal := by
  induction parts generalizing n place with
  | nil => exact h
  | cons part rest ih =>
    cases h with
    | go hturn h =>
      obtain ⟨hidle, rfl⟩ | ⟨rfl, -⟩ | ⟨hstep, -⟩ := turn_eq_go hturn
      · rw [List.filter_cons_of_neg (by simp [hidle])]
        exact ih h
      · rw [List.filter_cons_of_pos (by decide)]
        exact .go hturn (ih h)
      · rw [List.filter_cons_of_pos (by simp [hstep.not_idle])]
        exact .go hturn (ih h)
    | follow hturn h =>
      obtain ⟨j, k, middle, rfl, hj, hk⟩ := h.split
      rw [List.filter_cons_of_pos (by simp [(turn_eq_follow_iff.1 hturn).2.1.not_idle])]
      exact .follow hturn (hj.trans (ih hk))

/-- Parts that lead nowhere can be put in before one that leads somewhere, and behind all of them if names can be looked
up in the goal. -/
theorem with_idle (h : Leads kinds n place (parts.filter fun p => !Path.isIdle p) goal)
    (hend : (∀ p ∈ parts.getLast?, Path.isIdle p = false) ∨ HasOpenDir kinds goal) :
    Leads kinds n place parts goal := by
  induction parts generalizing n place with
  | nil => exact h
  | cons part rest ih =>
    have hrest : (∀ p ∈ rest.getLast?, Path.isIdle p = false) ∨ HasOpenDir kinds goal := by
      refine hend.imp_left fun hlast => ?_
      cases rest with
      | nil => intro p hp; cases hp
      | cons q qs => rwa [List.getLast?_cons_cons] at hlast
    by_cases hpart : Path.isIdle part = true
    · rw [List.filter_cons_of_neg (by simp [hpart])] at h
      refine .go (turn_idle ?_ hpart) (ih h hrest)
      -- Either a part is left that is looked up from here, or this is the goal.
      cases hleft : rest.filter fun p => !Path.isIdle p with
      | cons q qs =>
        rw [hleft] at h
        have hq : q ∈ rest.filter fun p => !Path.isIdle p := by rw [hleft]; exact List.mem_cons_self
        exact h.openDir_of_cons (ne_nil_of_not_idle (by simpa using (List.mem_filter.1 hq).2))
      | nil =>
        rw [hleft] at h
        obtain hlast | hgoal := hend
        · have hidle : ∀ p ∈ part :: rest, Path.isIdle p = true :=
            List.forall_mem_cons.2 ⟨hpart, by simpa using List.filter_eq_nil_iff.1 hleft⟩
          have hnot := hlast _ (List.getLast?_eq_some_getLast (List.cons_ne_nil part rest))
          rw [hidle _ (List.getLast_mem _)] at hnot
          cases hnot
        · rw [← h.eq_of_nil.2]
          exact hgoal
    · rw [List.filter_cons_of_pos (by simp [hpart])] at h
      cases h with
      | go hturn h => exact .go hturn (ih h hrest)
      | follow hturn h =>
        obtain ⟨j, k, middle, rfl, hj, hk⟩ := h.split
        exact .follow hturn (hj.trans (ih hk hrest))

end Leads

/-! ## Resolving -/

namespace Tree

variable {t : Tree} {links : Nat} {place : Place} {part : Text} {rest : List Text}

def followFrom (t : Tree) : (links : Nat) → Place → Text → List Text → Except FileError Place
  | 0, _, _, _ => .error .tooManyLinks
  | links + 1, place, goal, rest => t.resolveFrom links (startOf place goal) (Text.splitAt '/' goal ++ rest)

theorem resolveFrom_eq (t : Tree) (links : Nat) (place : Place) (parts : List Text) :
    t.resolveFrom links place parts = t.descend (t.followFrom links) place parts := by
  cases links <;> rfl

theorem resolveFrom_nil (t : Tree) (links : Nat) (place : Place) : t.resolveFrom links place [] = .ok place := by
  rw [resolveFrom_eq, descend]

theorem resolveFrom_cons (t : Tree) (links : Nat) (place : Place) (part : Text) (rest : List Text) :
    t.resolveFrom links place (part :: rest) =
      match turn t.kind? place part with
      | .stop e => .error e
      | .go next => t.resolveFrom links next rest
      | .follow aim => t.followFrom links place aim rest := by
  simp only [resolveFrom_eq]
  rw [descend, turn, kind?]
  cases hnode : t.node? place with
  | none => rfl
  | some node =>
    cases node with
    | file bytes mode => rfl
    | link goal => rfl
    | dir entries mode =>
      simp only [Option.map_some, Node.kind]
      rw [kind?, node?_concat hnode]
      split
      · rfl
      split
      · rfl
      split
      · rfl
      split
      · rfl
      split
      · rfl
      cases Entries.get? entries part with
      | none => rfl
      | some node => cases node <;> rfl

theorem resolveFrom_of_not_dir (h : ¬ HasDir t.kind? place) :
    t.resolveFrom links place (part :: rest) = .error .notADirectory := by
  rw [resolveFrom_cons, turn_of_not_dir h]

/-- Resolving finds what parts lead to, if its links are enough. -/
theorem resolveFrom_of_leads {n : Nat} {parts : List Text} {goal : Place}
    (h : Leads t.kind? n place parts goal) (links : Nat) :
    t.resolveFrom links place parts = if n ≤ links then .ok goal else .error .tooManyLinks := by
  induction h generalizing links with
  | done place => rw [resolveFrom_nil, if_pos (Nat.zero_le _)]
  | go hturn _ ih =>
    rw [resolveFrom_cons, hturn]
    exact ih links
  | follow hturn _ ih =>
    rw [resolveFrom_cons, hturn]
    cases links with
    | zero => rw [if_neg (by omega)]; rfl
    | succ links =>
      simp only [Nat.add_le_add_iff_right]
      exact ih links

/-- What resolving finds is found along a route, if it is so behind every link. -/
theorem leads_of_resolveFrom_of_follow
    (hfollow : ∀ place aim rest goal, t.followFrom links place aim rest = .ok goal →
      ∃ n < links, Leads t.kind? n (startOf place aim) (Text.splitAt '/' aim ++ rest) goal)
    {parts : List Text} {goal : Place} (h : t.resolveFrom links place parts = .ok goal) :
    ∃ n ≤ links, Leads t.kind? n place parts goal := by
  induction parts generalizing place with
  | nil =>
    rw [resolveFrom_nil, Except.ok.injEq] at h
    exact ⟨0, Nat.zero_le _, h ▸ .done place⟩
  | cons part rest ih =>
    rw [resolveFrom_cons] at h
    cases hturn : turn t.kind? place part with
    | stop e => rw [hturn] at h; cases h
    | go next =>
      rw [hturn] at h
      obtain ⟨n, hn, hleads⟩ := ih h
      exact ⟨n, hn, .go hturn hleads⟩
    | follow aim =>
      rw [hturn] at h
      obtain ⟨n, hn, hleads⟩ := hfollow place aim rest goal h
      exact ⟨n + 1, hn, .follow hturn hleads⟩

/-- Resolving finds nothing but what parts lead to. -/
theorem leads_of_resolveFrom {parts : List Text} {goal : Place}
    (h : t.resolveFrom links place parts = .ok goal) : ∃ n ≤ links, Leads t.kind? n place parts goal := by
  induction links generalizing place parts goal with
  | zero =>
    refine leads_of_resolveFrom_of_follow (fun place aim rest goal hf => ?_) h
    cases hf
  | succ links ih =>
    refine leads_of_resolveFrom_of_follow (fun place aim rest goal hf => ?_) h
    obtain ⟨n, hn, hleads⟩ := ih hf
    exact ⟨n, by omega, hleads⟩

/-! ## Paths -/

theorem resolve_eq_ok_iff {path : Text} {goal : Place} :
    t.resolve path = .ok goal ↔ path ≠ [] ∧ Path.isOverlong path = false ∧
      ∃ n ≤ linkLimit, Leads t.kind? n (startOf t.here path) (Text.splitAt '/' path) goal := by
  rw [resolve]
  constructor
  · intro h
    split at h
    · cases h
    split at h
    · cases h
    rename_i hempty hlong
    exact ⟨by simpa using hempty, by simpa using hlong, leads_of_resolveFrom h⟩
  · rintro ⟨hempty, hlong, n, hn, hleads⟩
    rw [if_neg (by simp [hempty]), if_neg (by simp [hlong]), resolveFrom_of_leads hleads, if_pos hn]

/-- A path through too many links cannot be used. -/
theorem resolve_of_leads {path : Text} {goal : Place} {n : Nat} (hempty : path ≠ [])
    (hlong : Path.isOverlong path = false)
    (h : Leads t.kind? n (startOf t.here path) (Text.splitAt '/' path) goal) :
    t.resolve path = if n ≤ linkLimit then .ok goal else .error .tooManyLinks := by
  rw [resolve, if_neg (by simp [hempty]), if_neg (by simp [hlong]), resolveFrom_of_leads h]

/-! ## Looking at paths -/

theorem startOf_dir_of_resolve {path : Text} {goal : Place} (h : t.resolve path = .ok goal) :
    HasDir t.kind? (startOf t.here path) := by
  obtain ⟨-, -, n, -, hleads⟩ := resolve_eq_ok_iff.1 h
  obtain ⟨part, parts, hparts⟩ := List.exists_cons_of_ne_nil (Text.splitAt_ne_nil '/' path)
  rw [hparts] at hleads
  exact hleads.dir_of_cons

theorem startOf_dir {path : Text} (h : HasDir t.kind? place) : HasDir t.kind? (startOf place path) := by
  rw [startOf]
  split
  · exact hasDir_nil h
  · exact h

theorem kind?_ne_link_of_leads {n : Nat} {parts : List Text} {goal : Place}
    (h : Leads t.kind? n place parts goal) (hplace : HasDir t.kind? place) (aim : Text) :
    t.kind? goal ≠ some (.link aim) := by
  induction h with
  | done place => exact fun hlink => not_hasDir_of_link hlink hplace
  | @go n place next goal part rest hturn h ih =>
    obtain ⟨-, rfl⟩ | ⟨-, rfl⟩ | ⟨-, -, kind, hkind, hlink⟩ := turn_eq_go hturn
    · exact ih hplace
    · exact ih (hasDir_dropLast hplace)
    · cases rest with
      | nil =>
        rw [h.eq_of_nil.2, hkind]
        exact fun haim => hlink aim (Option.some.inj haim)
      | cons p ps => exact ih h.dir_of_cons
  | follow hturn _ ih => exact ih (startOf_dir (hasDir_of_turn (ne_stop_of_follow hturn)))

/-- Below a directory, the names of directories lead straight down. -/
theorem leads_straight {n : Nat} {names : List Text} {goal : Place} (hdir : HasDir t.kind? (place ++ names))
    (hnames : ∀ name ∈ names, IsEntryName name) (h : Leads t.kind? n place names goal) : goal = place ++ names := by
  induction names generalizing place n with
  | nil => rw [h.eq_of_nil.2, List.append_nil]
  | cons name rest ih =>
    have hname := hnames name List.mem_cons_self
    have hsplit : place ++ name :: rest = (place ++ [name]) ++ rest := by simp
    rw [hsplit] at hdir ⊢
    have hbelow : HasDir t.kind? (place ++ [name]) := by
      rcases eq_or_ne rest [] with rfl | hrest
      · rwa [List.append_nil] at hdir
      · obtain ⟨kind, hkind⟩ := hdir.exists_kind
        exact hasDir_of_append hkind hrest
    obtain ⟨-, -, ⟨_, -, -, h⟩ | ⟨aim, -, hlink, -⟩⟩ := h.cases_of_step hname.not_idle hname.not_up
    · exact ih hdir (fun n hn => hnames n (List.mem_cons_of_mem _ hn)) h
    · exact absurd hbelow (not_hasDir_of_link hlink)

theorem lookUp_eq_ok_iff {path : Text} {node : Node} :
    t.lookUp path = .ok node ↔ ∃ goal, t.resolve path = .ok goal ∧ t.node? goal = some node := by
  rw [lookUp]
  cases t.resolve path with
  | error e => simp
  | ok goal => cases h : t.node? goal <;> simp [h]

theorem find?_eq_some_iff {path : Text} {node : Node} :
    t.find? path = .ok (some node) ↔ t.lookUp path = .ok node := by
  rw [find?]
  cases t.lookUp path with
  | ok found => simp
  | error e => cases h : e.isAbsence <;> simp [h]

theorem lookUp_eq_error_iff {path : Text} {e : FileError} : t.lookUp path = .error e ↔
    t.resolve path = .error e ∨ e = .notFound ∧ ∃ goal, t.resolve path = .ok goal ∧ t.node? goal = none := by
  rw [lookUp]
  cases t.resolve path with
  | error e' => simp
  | ok goal => cases h : t.node? goal <;> simp [h, eq_comm]

/-- Looking for what may be there fails where an error says more than that it is not. -/
theorem find?_eq_error_iff {path : Text} {e : FileError} :
    t.find? path = .error e ↔ t.resolve path = .error e ∧ e.isAbsence = false := by
  rw [find?]
  constructor
  · intro h
    split at h
    · cases h
    rename_i e' hlook
    split at h
    · cases h
    rename_i habsent
    cases h
    rcases lookUp_eq_error_iff.1 hlook with hresolve | ⟨rfl, -⟩
    · exact ⟨hresolve, by simpa using habsent⟩
    · exact absurd rfl habsent
  · rintro ⟨hresolve, habsent⟩
    rw [lookUp_eq_error_iff.2 (.inl hresolve)]
    simp only [habsent, Bool.false_eq_true, if_false]

theorem readFile_eq_ok_iff {path : Text} {bytes : Bytes} :
    t.readFile path = .ok bytes ↔ ∃ goal mode, t.resolve path = .ok goal ∧
      t.kind? goal = some (.file bytes mode) ∧ isReadable mode = true := by
  simp only [kind?_eq_file]
  rw [readFile, file]
  constructor
  · intro h
    cases hlook : t.lookUp path with
    | error e => rw [hlook] at h; cases h
    | ok node =>
      rw [hlook] at h
      cases node with
      | link goal => cases h
      | dir entries mode => cases h
      | file bytes' mode =>
        simp only at h
        split at h
        · rename_i hreadable
          cases h
          obtain ⟨goal, hgoal, hnode⟩ := lookUp_eq_ok_iff.1 hlook
          exact ⟨goal, mode, hgoal, hnode, hreadable⟩
        · cases h
  · rintro ⟨goal, mode, hgoal, hnode, hreadable⟩
    rw [lookUp_eq_ok_iff.2 ⟨goal, hgoal, hnode⟩]
    exact if_pos hreadable

theorem readFile_of_resolve_eq_error {path : Text} {e : FileError} (h : t.resolve path = .error e) :
    t.readFile path = .error e := by
  rw [readFile, file, lookUp, h]

theorem directory_eq_ok_iff {path : Text} {entries : Entries} {mode : Nat} :
    t.directory path = .ok (entries, mode) ↔
      ∃ goal, t.resolve path = .ok goal ∧ t.node? goal = some (.dir entries mode) := by
  rw [← lookUp_eq_ok_iff, directory]
  cases t.lookUp path with
  | error e => simp
  | ok node => cases node <;> simp

theorem list_eq_ok_iff {path : Text} {entries : Entries} :
    t.list path = .ok entries ↔ ∃ goal mode, t.resolve path = .ok goal ∧
      t.node? goal = some (.dir entries mode) ∧ isReadable mode = true := by
  rw [list]
  constructor
  · intro h
    split at h
    · rename_i es mode hdirectory
      split at h
      · rename_i hreadable
        cases h
        obtain ⟨goal, hgoal, hnode⟩ := directory_eq_ok_iff.1 hdirectory
        exact ⟨goal, mode, hgoal, hnode, hreadable⟩
      · cases h
    · cases h
  · rintro ⟨goal, mode, hgoal, hnode, hreadable⟩
    rw [directory_eq_ok_iff.2 ⟨goal, hgoal, hnode⟩]
    exact if_pos hreadable

theorem isDirectory_iff {path : Text} :
    t.isDirectory path = true ↔ '\x00' ∉ path ∧ ∃ goal, t.resolve path = .ok goal ∧ HasDir t.kind? goal := by
  have hdirectory : (t.directory path).toOption.isSome = true ↔
      ∃ entries mode, t.directory path = .ok (entries, mode) := by
    rcases t.directory path with e | ⟨entries, mode⟩ <;> simp [Except.toOption]
  rw [isDirectory, Bool.and_eq_true, hdirectory]
  simp only [directory_eq_ok_iff, hasDir_iff, Bool.not_eq_true', List.contains_eq_mem, decide_eq_false_iff_not]
  constructor
  · rintro ⟨hnull, entries, mode, goal, hgoal, hnode⟩
    exact ⟨hnull, goal, hgoal, entries, mode, hnode⟩
  · rintro ⟨hnull, goal, hgoal, entries, mode, hnode⟩
    exact ⟨hnull, entries, mode, goal, hgoal, hnode⟩

end Tree

end SdkGraft
