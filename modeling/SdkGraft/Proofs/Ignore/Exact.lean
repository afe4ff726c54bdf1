import SdkGraft.Proofs.Ignore.Names

/-!
# Exclusions that are matched exactly

* `Fits` : the pieces of one part take a text as a whole; `startWith_append`, `isIgnored_alone` : what that says of
  a directory at the root;
* `length_le_of_globPiecesFrom`, `isVerbatim_of_tight` : only a text without anything special is as long as what its
  pieces take, whatever the pieces take;
* `Spec.IsExactFor` : a directory is ignored exactly for its names;
* `exclusions_exact` : which names and which endings are matched exactly.
-/

namespace SdkGraft.Ignore

/-! ## Texts that pieces take as a whole -/

/-- The pieces take the text as a whole. -/
inductive Fits : List Piece → Text → Prop where
  | nil : Fits [] []
  | one {s : CharSet} {c : Char} {ps : List Piece} {t : Text} (hc : s.has c = true) (h : Fits ps t) :
      Fits (.one s :: ps) (c :: t)
  | done {s : CharSet} {ps : List Piece} {t : Text} (h : Fits ps t) : Fits (.many s :: ps) t
  | more {s : CharSet} {c : Char} {ps : List Piece} {t : Text} (hc : s.has c = true) (h : Fits (.many s :: ps) t) :
      Fits (.many s :: ps) (c :: t)

def Piece.isStar (p : Piece) : Bool := p == .many .notSlash

/-- The piece can come of a part of a path. -/
def Piece.IsOfPart (p : Piece) : Prop := p.isStar = true ∨ ∃ s, p = .one s

variable {ps qs : List Piece} {t : Text}

theorem fits_many_iff {s : CharSet} :
    Fits (.many s :: ps) t ↔ ∃ taken r, t = taken ++ r ∧ (∀ c ∈ taken, s.has c = true) ∧ Fits ps r := by
  constructor
  · intro h
    generalize hqs : Piece.many s :: ps = qs at h
    induction h with
    | nil => cases hqs
    | one => cases hqs
    | done h =>
      cases hqs
      exact ⟨[], _, rfl, by simp, h⟩
    | more hc _ ih =>
      obtain ⟨taken, r, rfl, htaken, hr⟩ := ih hqs
      cases hqs
      exact ⟨_ :: taken, r, rfl, List.forall_mem_cons.2 ⟨hc, htaken⟩, hr⟩
  · rintro ⟨taken, r, rfl, htaken, hr⟩
    induction taken with
    | nil => exact .done hr
    | cons c taken ih =>
      obtain ⟨hc, htaken⟩ := List.forall_mem_cons.1 htaken
      exact .more hc (ih htaken)

theorem startWith_append (hps : ∀ p ∈ ps, p.IsOfPart) :
    startWith (ps ++ qs) t = true ↔ ∃ a b, t = a ++ b ∧ Fits ps a ∧ startWith qs b = true := by
  induction ps generalizing t with
  | nil =>
    constructor
    · intro h
      exact ⟨[], t, rfl, .nil, h⟩
    · rintro ⟨_, b, rfl, hnil, h⟩
      cases hnil
      exact h
  | cons p ps ih =>
    obtain ⟨hp, hrest⟩ := List.forall_mem_cons.1 hps
    rcases hp with hstar | ⟨s, rfl⟩
    · rw [eq_of_beq hstar, List.cons_append, startWith_many]
      simp only [ih hrest, fits_many_iff]
      constructor
      · rintro ⟨taken, _, rfl, htaken, a, b, rfl, ha, hb⟩
        exact ⟨taken ++ a, b, by rw [List.append_assoc], ⟨taken, a, rfl, htaken, ha⟩, hb⟩
      · rintro ⟨_, b, rfl, ⟨taken, a, rfl, htaken, ha⟩, hb⟩
        exact ⟨taken, a ++ b, by rw [List.append_assoc], htaken, a, b, rfl, ha, hb⟩
    · rw [List.cons_append, startWith_oneOf]
      simp only [ih hrest]
      constructor
      · rintro ⟨c, _, rfl, hc, a, b, rfl, ha, hb⟩
        exact ⟨c :: a, b, rfl, .one hc ha, hb⟩
      · rintro ⟨_, b, rfl, ha, hb⟩
        cases ha with
        | one hc ha => exact ⟨_, _, rfl, hc, _, b, rfl, ha, hb⟩

theorem eq_of_slash_last {n a r : Text} (hn : '/' ∉ n) (h : n ++ ['/'] = a ++ '/' :: r) : a = n ∧ r = [] := by
  have hcount := congrArg (List.count '/') h
  rw [List.count_append, List.count_append, List.count_eq_zero.2 hn, List.count_cons_self] at hcount
  have ha : '/' ∉ a := List.count_eq_zero.1 (by simp at hcount; omega)
  obtain rfl := eq_of_append_slash hn ha h
  exact ⟨rfl, ((List.cons.inj (List.append_cancel_left h)).2).symm⟩

/-- The pattern of one part ignores a directory at the root if its pieces take the name. -/
theorem isIgnored_alone (hps : ∀ p ∈ ps, p.IsOfPart) {n : Text} (hn : Path.IsPart n) :
    Spec.isIgnored [⟨true, .directoriesBefore :: (ps ++ [.one (.only '/')])⟩] (n ++ ['/']) = true ↔ Fits ps n := by
  have hrelative : relative (n ++ ['/']) = n ++ ['/'] := by
    have h := relative_slashed (List.forall_mem_singleton.2 hn)
    rwa [← joinWith_slash (List.cons_ne_nil n [])] at h
  rw [isIgnored_of_ignores (List.forall_mem_singleton.2 rfl), hrelative]
  simp only [List.mem_singleton, exists_eq_left]
  rw [startWith_directoriesBefore]
  simp only [startWith_append hps]
  constructor
  · rintro (⟨a, b, hab, ha, hb⟩ | ⟨passed, r, -, -, hpassed, a, b, hr, -, hb⟩)
    · obtain ⟨r, rfl, -⟩ := startWith_one.1 hb
      rwa [← (eq_of_slash_last hn.no_slash hab).1]
    · -- nothing is left behind the slash for the slash of the pattern
      obtain ⟨r', rfl, -⟩ := startWith_one.1 hb
      rw [(eq_of_slash_last hn.no_slash hpassed).2] at hr
      simp at hr
  · intro h
    exact .inl ⟨n, ['/'], rfl, h, rfl⟩

/-! ## How much pieces take -/

def stars (ps : List Piece) : Nat := ps.countP Piece.isStar

theorem stars_star : stars (.many .notSlash :: ps) = stars ps + 1 := List.countP_cons_of_pos rfl

theorem stars_one {s : CharSet} : stars (.one s :: ps) = stars ps := List.countP_cons_of_neg (by simp [Piece.isStar])

theorem Fits.length_eq (h : Fits ps t) (hps : ∀ p ∈ ps, p.IsOfPart) (hstars : stars ps = 0) :
    t.length = ps.length := by
  induction h with
  | nil => rfl
  | one _ _ ih =>
    rw [stars_one] at hstars
    rw [List.length_cons, List.length_cons, ih (fun p hp => hps p (List.mem_cons_of_mem _ hp)) hstars]
  | done | more =>
    obtain hstar | ⟨_, ⟨⟩⟩ := hps _ List.mem_cons_self
    rw [eq_of_beq hstar, stars_star] at hstars
    omega

/-- The pieces take a text in which each star stands for `k` letters. -/
theorem Fits.exists_refilled (h : Fits ps t) (hps : ∀ p ∈ ps, p.IsOfPart) (k : Nat) :
    ∃ u, Fits ps u ∧ u.length + stars ps = ps.length + k * stars ps ∧ ∀ c ∈ u, c = 'x' ∨ c ∈ t := by
  induction h with
  | nil => exact ⟨[], .nil, rfl, by simp⟩
  | one hc _ ih =>
    obtain ⟨u, hu, hlength, hchars⟩ := ih fun p hp => hps p (List.mem_cons_of_mem _ hp)
    refine ⟨_ :: u, .one hc hu, ?_, ?_⟩
    · rw [stars_one, List.length_cons, List.length_cons]
      omega
    · exact List.forall_mem_cons.2 ⟨.inr List.mem_cons_self, fun c hc =>
        (hchars c hc).imp_right (List.mem_cons_of_mem _)⟩
  | done _ ih =>
    obtain ⟨u, hu, hlength, hchars⟩ := ih fun p hp => hps p (List.mem_cons_of_mem _ hp)
    obtain hstar | ⟨_, ⟨⟩⟩ := hps _ List.mem_cons_self
    cases eq_of_beq hstar
    refine ⟨List.replicate k 'x' ++ u, fits_many_iff.2 ⟨_, u, rfl, ?_, hu⟩, ?_, ?_⟩
    · intro c hc
      rw [List.eq_of_mem_replicate hc]
      rfl
    · rw [stars_star, List.length_append, List.length_replicate, List.length_cons, Nat.mul_add]
      omega
    · intro c hc
      rcases List.mem_append.1 hc with hc | hc
      · exact .inl (List.eq_of_mem_replicate hc)
      · exact hchars c hc
  | more _ _ ih =>
    obtain ⟨u, hu, hlength, hchars⟩ := ih hps
    exact ⟨u, hu, hlength, fun c hc => (hchars c hc).imp_right (List.mem_cons_of_mem _)⟩

/-! ## Pieces of a part -/

theorem isOfPart_of_globPiecesFrom {k : Nat} (h : globPiecesFrom k t = some ps) : ∀ p ∈ ps, p.IsOfPart := by
  have hstep : ∀ {p : Piece} {rest : Option (List Piece)} {ps : List Piece}, p.IsOfPart →
      (∀ {ps}, rest = some ps → ∀ p ∈ ps, p.IsOfPart) → rest.map (p :: ·) = some ps → ∀ p ∈ ps, p.IsOfPart := by
    intro p rest ps hp hrest h
    obtain ⟨qs, hqs, rfl⟩ := Option.map_eq_some_iff.1 h
    exact List.forall_mem_cons.2 ⟨hp, hrest hqs⟩
  fun_induction globPiecesFrom k t generalizing ps with
  | case1 =>
    cases h
    simp
  | case2 _ _ _ ih => exact ih h
  | case3 _ _ ih => exact hstep (.inr ⟨_, rfl⟩) ih h
  | case4 => cases h
  | case5 _ ih => exact hstep (.inl rfl) ih h
  | case6 _ ih => exact hstep (.inr ⟨_, rfl⟩) ih h
  | case7 _ _ ih => exact hstep (.inr ⟨_, rfl⟩) ih h
  | case8 _ _ _ _ ih => exact hstep (.inr ⟨_, rfl⟩) ih h
  | case9 _ _ _ _ _ _ _ ih => exact hstep (.inr ⟨_, rfl⟩) ih h

theorem length_le_of_globPiecesFrom {k : Nat} (h : globPiecesFrom k t = some ps) : ps.length ≤ t.length - k := by
  have hstep : ∀ {p : Piece} {rest : Option (List Piece)} {ps : List Piece} {n m : Nat},
      (∀ {ps}, rest = some ps → ps.length ≤ n) → n < m → rest.map (p :: ·) = some ps → ps.length ≤ m := by
    intro p rest ps n m hrest hnm h
    obtain ⟨qs, hqs, rfl⟩ := Option.map_eq_some_iff.1 h
    exact Nat.lt_of_le_of_lt (hrest hqs) hnm
  fun_induction globPiecesFrom k t generalizing ps with
  | case1 =>
    cases h
    simp
  | case2 k _ r ih => simpa using ih h
  | case3 _ _ ih => exact hstep ih (by simp only [List.length_cons]; omega) h
  | case4 => cases h
  | case5 _ ih => exact hstep ih (by simp) h
  | case6 _ ih => exact hstep ih (by simp) h
  | case7 _ _ ih => exact hstep ih (by simp) h
  | case8 r _ width _ ih => exact hstep ih (by simp only [List.length_cons]; omega) h
  | case9 _ _ _ _ _ _ _ ih => exact hstep ih (by simp) h

theorem length_lt_of_find? {e : Text × Text} (h : closeClass?.find? t = some e) : e.2.length < t.length := by
  induction t generalizing e with
  | nil => cases h
  | cons c r ih =>
    rw [closeClass?.find?] at h
    split at h
    · cases h
      exact Nat.lt_succ_self _
    · obtain ⟨e', he', rfl⟩ := Option.map_eq_some_iff.1 h
      have hrest := ih he'
      exact Nat.lt_succ_of_lt hrest

theorem width_of_charClass? {r : Text} {set : CharSet} {width : Nat} (h : charClass? r = some (set, width)) :
    0 < width ∧ width ≤ r.length := by
  have hclose : ∀ {inside : Text} {e : Text × Text}, closeClass? inside = some e → e.2.length < inside.length := by
    intro inside e h
    cases inside with
    | nil => cases h
    | cons c r =>
      obtain ⟨e', he', rfl⟩ := Option.map_eq_some_iff.1 h
      have hrest := length_lt_of_find? he'
      exact Nat.lt_succ_of_lt hrest
  obtain ⟨e, he, hset⟩ := Option.map_eq_some_iff.1 h
  cases hset
  have hinside := hclose he
  split at hinside
  · rw [List.length_drop] at hinside
    omega
  · omega

/-- What the first character of a part comes to: a wildcard, the character itself, or a piece that takes less than its
writing. -/
theorem globPiecesFrom_cons_cases {c : Char} {r : Text} (h : globPiecesFrom 0 (c :: r) = some ps) :
    (∃ qs, ps = .many .notSlash :: qs) ∨
    (c = '?' ∧ ∃ qs, ps = .one .notSlash :: qs ∧ globPiecesFrom 0 r = some qs) ∨
    ((c ≠ '*' ∧ c ≠ '?' ∧ c ≠ '\\' ∧ (c = '[' → opensClass r = false)) ∧
      ∃ qs, ps = .one (.only c) :: qs ∧ globPiecesFrom 0 r = some qs) ∨
    ps.length < (c :: r).length := by
  rcases eq_or_ne c '*' with rfl | hstar
  · rw [globPiecesFrom] at h
    obtain ⟨qs, -, rfl⟩ := Option.map_eq_some_iff.1 h
    exact .inl ⟨qs, rfl⟩
  rcases eq_or_ne c '?' with rfl | hany
  · rw [globPiecesFrom] at h
    obtain ⟨qs, hqs, rfl⟩ := Option.map_eq_some_iff.1 h
    exact .inr (.inl ⟨rfl, qs, rfl, hqs⟩)
  rcases eq_or_ne c '\\' with rfl | hescape
  · cases r with
    | nil =>
      rw [globPiecesFrom] at h
      cases h
    | cons d r =>
      rw [globPiecesFrom] at h
      obtain ⟨qs, hqs, rfl⟩ := Option.map_eq_some_iff.1 h
      have hlength := length_le_of_globPiecesFrom hqs
      refine .inr (.inr (.inr ?_))
      simp only [List.length_cons]
      omega
  cases hclass : charClass? r with
  | none =>
    rw [globPiecesFrom_cons hstar hany hescape fun _ => hclass] at h
    obtain ⟨qs, hqs, rfl⟩ := Option.map_eq_some_iff.1 h
    exact .inr (.inr (.inl ⟨⟨hstar, hany, hescape, fun _ => charClass?_eq_none_iff.1 hclass⟩, qs, rfl, hqs⟩))
  | some class_ =>
    rcases eq_or_ne c '[' with rfl | hbracket
    · rw [globPiecesFrom, hclass] at h
      obtain ⟨qs, hqs, rfl⟩ := Option.map_eq_some_iff.1 h
      have hlength := length_le_of_globPiecesFrom hqs
      have hwidth := width_of_charClass? hclass
      refine .inr (.inr (.inr ?_))
      simp only [List.length_cons]
      omega
    · have hplain : c = '[' → opensClass r = false := fun hc => absurd hc hbracket
      rw [globPiecesFrom_cons hstar hany hescape fun hc => charClass?_eq_none_iff.2 (hplain hc)] at h
      obtain ⟨qs, hqs, rfl⟩ := Option.map_eq_some_iff.1 h
      exact .inr (.inr (.inl ⟨⟨hstar, hany, hescape, hplain⟩, qs, rfl, hqs⟩))

/-- The text with a letter for each wildcard of one character. -/
def settled (t : Text) : Text := t.map fun c => if c = '?' then 'x' else c

theorem mem_settled {c : Char} (h : c ∈ settled t) : c ≠ '?' ∧ (c = 'x' ∨ c ∈ t) := by
  obtain ⟨d, hd, rfl⟩ := List.mem_map.1 h
  split
  · exact ⟨by decide, .inl rfl⟩
  · exact ⟨‹_›, .inr hd⟩

theorem settled_cons {c : Char} {r : Text} : settled (c :: r) = (if c = '?' then 'x' else c) :: settled r := rfl

/-- Where the pieces take as much as the text has, and none of them is a star, all that can be special in the text are
wildcards of one character. -/
theorem fits_settled_of_tight (hps : globPiecesFrom 0 t = some ps) (hstars : stars ps = 0)
    (hlength : ps.length = t.length) : Fits ps (settled t) ∧ ('?' ∉ t → isVerbatim t = true) := by
  induction t generalizing ps with
  | nil =>
    cases hps
    exact ⟨.nil, fun _ => rfl⟩
  | cons c r ih =>
    rw [settled_cons]
    rcases globPiecesFrom_cons_cases hps with ⟨qs, rfl⟩ | ⟨rfl, qs, rfl, hqs⟩ |
      ⟨⟨hstar, hany, hescape, hclass⟩, qs, rfl, hqs⟩ | hshort
    · rw [stars_star] at hstars
      omega
    · rw [stars_one] at hstars
      obtain ⟨hfits, -⟩ := ih hqs hstars (Nat.succ.inj hlength)
      exact ⟨.one rfl hfits, fun h => absurd List.mem_cons_self h⟩
    · rw [stars_one] at hstars
      obtain ⟨hfits, hverbatim⟩ := ih hqs hstars (Nat.succ.inj hlength)
      rw [if_neg hany]
      refine ⟨.one (beq_self_eq_true c) hfits, fun h => ?_⟩
      exact isVerbatim_cons.2 ⟨hstar, hany, hescape, hclass, hverbatim fun hr => h (List.mem_cons_of_mem _ hr)⟩
    · omega

/-- A text with nothing special is told by what its pieces take of texts of its own length. -/
theorem isVerbatim_of_tight (hps : globPiecesFrom 0 t = some ps) (hstars : stars ps = 0)
    (hlength : ps.length = t.length) (hsettled : '?' ∈ t → Fits ps (settled t) → settled t = t) :
    isVerbatim t = true := by
  obtain ⟨hfits, hverbatim⟩ := fits_settled_of_tight hps hstars hlength
  refine hverbatim fun hany => ?_
  rw [← hsettled hany hfits] at hany
  exact (mem_settled hany).1 rfl

/-! ## Patterns alone -/

theorem Spec.parse_singleton (line : Text) : Spec.parse [line] = (Pattern.parse? line).map Option.toList := by
  rw [Spec.parse, List.mapM_cons, List.mapM_nil]
  cases Pattern.parse? line with
  | error f => rfl
  | ok found => cases found <;> rfl

theorem of_ofPath_eq_ok {ignores : Bool} {path : Text} {p : Pattern} (h : Pattern.ofPath ignores path = .ok p) :
    p.ignores = ignores ∧ pathPieces path = some p.pieces := by
  rw [Pattern.ofPath] at h
  split at h
  · cases h
  · rename_i pieces hpieces
    split at h <;> cases h
    exact ⟨rfl, hpieces⟩

theorem parse?_cons_cases {c : Char} {r : Text} {found : Option Pattern} (h : Pattern.parse? (c :: r) = .ok found) :
    (c = '#' ∧ found = none) ∨ (c = '!' ∧ ∃ p, found = some p ∧ p.ignores = false) ∨
      (c ≠ '#' ∧ c ≠ '!' ∧ ∃ pieces, found = some ⟨true, pieces⟩ ∧ pathPieces (c :: r) = some pieces) := by
  rw [Pattern.parse?.eq_def] at h
  split at h
  · cases ‹c :: r = []›
  · cases ‹c :: r = _›
    cases h
    exact .inl ⟨rfl, rfl⟩
  · cases ‹c :: r = _›
    obtain ⟨p, hp, rfl⟩ := Except.exists_of_map_eq_ok h
    exact .inr (.inl ⟨rfl, p, rfl, (of_ofPath_eq_ok hp).1⟩)
  · rename_i hremark hreturn
    obtain ⟨⟨_, pieces⟩, hp, rfl⟩ := Except.exists_of_map_eq_ok h
    obtain ⟨rfl, hpieces⟩ := of_ofPath_eq_ok hp
    refine .inr (.inr ⟨?_, ?_, pieces, rfl, hpieces⟩)
    · rintro rfl
      exact hremark r rfl
    · rintro rfl
      exact hreturn r rfl

/-- A pattern that ignores what it matches stands behind each directory that is ignored. -/
theorem exists_ignores_of_isIgnored {spec : Spec} {path : Text} (h : spec.isIgnored path = true) :
    ∃ p ∈ spec, p.ignores = true := by
  rw [Spec.isIgnored] at h
  split at h
  · rename_i p hp
    exact ⟨p, (List.mem_filter.1 (List.mem_of_getLast? hp)).1, h⟩
  · cases h

/-- The patterns ignore a directory exactly if one of the names on its path is one of `names`, or ends in one of
`endings`. -/
def Spec.IsExactFor (spec : Spec) (names endings : List Text) : Prop :=
  ∀ place ≠ [], (∀ n ∈ place, Path.IsPart n ∧ '\n' ∉ n) →
    (spec.isIgnored (Text.joinWith ['/'] place ++ ['/']) = true ↔
      ∃ n ∈ place, n ∈ names ∨ ∃ e ∈ endings, Text.endsWith n e = true)

theorem Spec.IsExactFor.alone {spec : Spec} {names endings : List Text} (h : spec.IsExactFor names endings) {n : Text}
    (hn : Path.IsPart n ∧ '\n' ∉ n) :
    spec.isIgnored (n ++ ['/']) = true ↔ n ∈ names ∨ ∃ e ∈ endings, Text.endsWith n e = true := by
  refine (h [n] (List.cons_ne_nil n []) (List.forall_mem_singleton.2 hn)).trans ?_
  simp only [List.mem_singleton, exists_eq_left]

theorem isPart_of_chars {u : Text} (hu : ∀ c ∈ u, c = 'x' ∨ c ∈ t) (hslash : '/' ∉ t) (hline : '\n' ∉ t)
    (hidle : Path.isIdle u = false) : Path.IsPart u ∧ '\n' ∉ u :=
  ⟨⟨fun h => (hu _ h).elim (by decide) hslash, hidle⟩, fun h => (hu _ h).elim (by decide) hline⟩

theorem not_idle_of_length {u : Text} (h : 2 ≤ u.length) : Path.isIdle u = false := by
  cases u with
  | nil => cases h
  | cons c u =>
    cases u with
    | nil => exact absurd h (Nat.lt_irrefl 1)
    | cons d u => simp [Path.isIdle]

theorem not_idle_of_mem {u : Text} (h : 'x' ∈ u) : Path.isIdle u = false := by
  rw [Path.isIdle, Bool.or_eq_false_iff, List.isEmpty_eq_false_iff, beq_eq_false_iff_ne]
  constructor
  · exact List.ne_nil_of_mem h
  · rintro rfl
    exact absurd h (by decide)

/-! ## One name -/

/-- A name whose pieces take itself and no other name holds nothing special. -/
theorem isVerbatim_of_fits_iff {name : Text} (hslash : '/' ∉ name) (hline : '\n' ∉ name)
    (hidle : Path.isIdle name = false) (hps : globPiecesFrom 0 name = some ps)
    (hfits : ∀ m, Path.IsPart m ∧ '\n' ∉ m → (Fits ps m ↔ m = name)) : isVerbatim name = true := by
  have hpart : ∀ p ∈ ps, p.IsOfPart := isOfPart_of_globPiecesFrom hps
  have hself : Fits ps name := (hfits name ⟨⟨hslash, hidle⟩, hline⟩).2 rfl
  -- stars that stand for more letters than the name has would take another name
  have hstars : stars ps = 0 := by
    rcases Nat.eq_zero_or_pos (stars ps) with hnone | hsome
    · exact hnone
    obtain ⟨u, hu, hlength, hchars⟩ := hself.exists_refilled hpart (name.length + 2)
    have hmore : name.length + 2 ≤ (name.length + 2) * stars ps := Nat.le_mul_of_pos_right _ hsome
    have hle : stars ps ≤ ps.length := List.countP_le_length
    have hlong : name.length + 2 ≤ u.length := by omega
    have hu' := (hfits u (isPart_of_chars hchars hslash hline (not_idle_of_length (by omega)))).1 hu
    rw [hu'] at hlong
    omega
  refine isVerbatim_of_tight hps hstars (hself.length_eq hpart hstars).symm fun hany hsettled => ?_
  have hletter : 'x' ∈ settled name := List.mem_map.2 ⟨'?', hany, rfl⟩
  exact (hfits _ (isPart_of_chars (fun c hc => (mem_settled hc).2) hslash hline (not_idle_of_mem hletter))).1 hsettled

/-- A line ignores the directories of a name and no others only if it names the name. -/
theorem namesItself_of_isExactFor {name : Text} {spec : Spec} (hne : name ≠ []) (hslash : '/' ∉ name)
    (hline : '\n' ∉ name) (hspec : Spec.parse [skipDirPattern name] = .ok spec)
    (hexact : spec.IsExactFor [name] []) : NamesItself name := by
  have halone : ∀ m, Path.IsPart m ∧ '\n' ∉ m → (spec.isIgnored (m ++ ['/']) = true ↔ m = name) := by
    intro m hm
    simpa using hexact.alone hm
  -- no directory is called by a dot
  rcases eq_or_ne name ['.'] with rfl | hdot
  · exact ⟨by decide, by decide, by decide⟩
  have hidle : Path.isIdle name = false := by
    simp [Path.isIdle, hne, hdot]
  have hself : spec.isIgnored (name ++ ['/']) = true := (halone name ⟨⟨hslash, hidle⟩, hline⟩).2 rfl
  rw [Spec.parse_singleton] at hspec
  obtain ⟨found, hfound, rfl⟩ := Except.exists_of_map_eq_ok hspec
  have hother : Path.IsPart ['x'] ∧ '\n' ∉ ['x'] := ⟨⟨by decide, by decide⟩, by decide⟩
  rcases eq_or_ne name ['*'] with rfl | hstar
  · cases hfound
    cases (halone ['x'] hother).1 (by decide)
  rcases eq_or_ne name deep with rfl | hdeep
  · cases hfound
    cases (halone ['x'] hother).1 (by decide)
  have hpieces := pathPieces_skipDirPattern hne hslash hdeep hstar
  obtain ⟨c, r, rfl⟩ := List.exists_cons_of_ne_nil hne
  have hpattern : skipDirPattern (c :: r) = c :: (r ++ ['/']) := by
    rw [skipDirPattern, trimSlashes_of_not_mem hslash]
    rfl
  rw [hpattern] at hfound hpieces
  rcases parse?_cons_cases hfound with ⟨-, rfl⟩ | ⟨-, p, rfl, hp⟩ | ⟨hremark, hreturn, pieces, rfl, hpieces'⟩
  · cases hself
  · obtain ⟨q, hq, hignores⟩ := exists_ignores_of_isIgnored hself
    rw [Option.toList_some, List.mem_singleton] at hq
    rw [hq, hp] at hignores
    cases hignores
  · rw [hpieces] at hpieces'
    obtain ⟨ps, hps, rfl⟩ := Option.map_eq_some_iff.1 hpieces'
    refine ⟨isVerbatim_of_fits_iff hslash hline hidle hps fun m hm => ?_, ?_, ?_⟩
    · rw [← halone m hm]
      exact (isIgnored_alone (isOfPart_of_globPiecesFrom hps) hm.1).symm
    · exact fun h => hremark (Option.some.inj h)
    · exact fun h => hreturn (Option.some.inj h)

/-! ## One ending -/

/-- An ending whose pieces take the ends of exactly the names that end in it holds nothing special. -/
theorem isVerbatim_of_fits_end_iff {e : Text} (hdot : e.head? = some '.') (hlength : 2 ≤ e.length) (hslash : '/' ∉ e)
    (hline : '\n' ∉ e) (hps : globPiecesFrom 0 e = some ps)
    (hfits : ∀ m, Path.IsPart m ∧ '\n' ∉ m → (Fits (.many .notSlash :: ps) m ↔ e <:+ m)) : isVerbatim e = true := by
  have hpart : ∀ p ∈ ps, p.IsOfPart := isOfPart_of_globPiecesFrom hps
  obtain ⟨taken, r, hsplit, -, hr⟩ := fits_many_iff.1
    ((hfits e ⟨⟨hslash, not_idle_of_length hlength⟩, hline⟩).2 List.suffix_rfl)
  obtain ⟨u, hu, hcount, hchars⟩ := hr.exists_refilled hpart 0
  -- pieces that take less than the ending has would take the end of a name too short for it
  have hlong : e.length ≤ u.length := by
    rcases Nat.lt_or_ge u.length e.length with hshort | hlong
    · have hchars' : ∀ c ∈ 'x' :: u, c = 'x' ∨ c ∈ e := by
        refine List.forall_mem_cons.2 ⟨.inl rfl, fun c hc => (hchars c hc).imp_right fun hc => ?_⟩
        rw [hsplit]
        exact List.mem_append_right _ hc
      have hname := isPart_of_chars hchars' hslash hline (not_idle_of_mem List.mem_cons_self)
      have hend : e <:+ 'x' :: u := (hfits _ hname).1
        (fits_many_iff.2 ⟨['x'], u, rfl, List.forall_mem_singleton.2 rfl, hu⟩)
      have hwhole := hend.eq_of_length_le hshort
      rw [hwhole] at hdot
      cases hdot
    · exact hlong
  have hle := length_le_of_globPiecesFrom hps
  refine isVerbatim_of_tight hps (by omega) (by omega) fun hany hsettled => ?_
  have hsame : (settled e).length = e.length := List.length_map ..
  have hend : e <:+ settled e := (hfits _ (isPart_of_chars (fun c hc => (mem_settled hc).2) hslash hline
    (not_idle_of_length (by omega)))).1 (.done hsettled)
  exact (hend.eq_of_length_le (Nat.le_of_eq hsame)).symm

/-- A line ignores the directories with an ending and no others only if the ending holds nothing special. -/
theorem isVerbatim_of_isExactFor {e : Text} {spec : Spec} (hdot : e.head? = some '.') (hlength : 2 ≤ e.length)
    (hslash : '/' ∉ e) (hline : '\n' ∉ e) (hspec : Spec.parse [suffixPattern e] = .ok spec)
    (hexact : spec.IsExactFor [] [e]) : isVerbatim e = true := by
  have halone : ∀ m, Path.IsPart m ∧ '\n' ∉ m → (spec.isIgnored (m ++ ['/']) = true ↔ e <:+ m) := by
    intro m hm
    simpa [Text.endsWith] using hexact.alone hm
  rw [Spec.parse_singleton] at hspec
  obtain ⟨found, hfound, rfl⟩ := Except.exists_of_map_eq_ok hspec
  have hne : e ≠ [] := by
    rintro rfl
    cases hdot
  have hstar : e ≠ ['*'] := by
    rintro rfl
    cases hdot
  rcases parse?_cons_cases hfound with ⟨⟨⟩, -⟩ | ⟨⟨⟩, -⟩ | ⟨-, -, pieces, rfl, hpieces⟩
  have hpattern : pathPieces (suffixPattern e) = some pieces := hpieces
  rw [pathPieces_suffixPattern hne hslash hstar] at hpattern
  obtain ⟨ps, hps, rfl⟩ := Option.map_eq_some_iff.1 hpattern
  refine isVerbatim_of_fits_end_iff hdot hlength hslash hline hps fun m hm => ?_
  have hpart : ∀ p ∈ Piece.many .notSlash :: ps, p.IsOfPart :=
    List.forall_mem_cons.2 ⟨.inl rfl, isOfPart_of_globPiecesFrom hps⟩
  rw [← halone m hm]
  exact (isIgnored_alone hpart hm.1).symm

/-! ## All exclusions -/

theorem checkSkipDirs_alone {skipDirs : Value} {names : List Text} (h : checkSkipDirs skipDirs = .ok names)
    {name : Text} (hname : name ∈ names) : checkSkipDirs (.list [.text name]) = .ok [name] :=
  checkSkipDirs_eq_ok_iff.2 ⟨rfl, List.forall_mem_singleton.2 ((checkSkipDirs_eq_ok_iff.1 h).2 name hname)⟩

theorem checkSuffixes_alone {suffixes : Value} {endings : List Text} (h : checkSuffixes suffixes = .ok endings)
    {e : Text} (he : e ∈ endings) : checkSuffixes (.list [.text e]) = .ok [e] :=
  checkSuffixes_eq_ok_iff.2 ⟨rfl, List.forall_mem_singleton.2 ((checkSuffixes_eq_ok_iff.1 h).2 e he)⟩

theorem isExactFor_of_verbatim {skipDirs suffixes : Value} {names endings : List Text}
    (hskip : checkSkipDirs skipDirs = .ok names) (hsuffixes : checkSuffixes suffixes = .ok endings)
    (hslash : ∀ t ∈ names ++ endings, '/' ∉ t) (hnames : ∀ n ∈ names, NamesItself n)
    (hendings : ∀ e ∈ endings, isVerbatim e = true) :
    ∃ spec, exclusions skipDirs suffixes = .ok spec ∧ spec.IsExactFor names endings := by
  obtain ⟨hslashN, hslashE⟩ := List.forall_mem_append.1 hslash
  exact ⟨_, exclusions_eq hskip hsuffixes hslash hnames hendings,
    fun _ hne hplace => isIgnored_iff hslashN hslashE hne hplace⟩

/-- Names and endings that hold nothing special are matched exactly, at any depth. Nothing else is matched exactly:
alone, a name on one line is only if it begins like no other kind of line and holds nothing special, and an ending is
only if it holds nothing special. -/
theorem exclusions_exact {skipDirs suffixes : Value} {names endings : List Text}
    (hskip : checkSkipDirs skipDirs = .ok names) (hsuffixes : checkSuffixes suffixes = .ok endings)
    (hslash : ∀ t ∈ names ++ endings, '/' ∉ t) :
    ((∀ n ∈ names, NamesItself n) → (∀ e ∈ endings, isVerbatim e = true) →
      ∃ spec, exclusions skipDirs suffixes = .ok spec ∧ spec.IsExactFor names endings) ∧
    (∀ n ∈ names, '\n' ∉ n →
      ((∃ spec, exclusions (.list [.text n]) (.list []) = .ok spec ∧ spec.IsExactFor [n] []) ↔ NamesItself n)) ∧
    ∀ e ∈ endings, '\n' ∉ e →
      ((∃ spec, exclusions (.list []) (.list [.text e]) = .ok spec ∧ spec.IsExactFor [] [e]) ↔
        isVerbatim e = true) := by
  obtain ⟨hslashN, hslashE⟩ := List.forall_mem_append.1 hslash
  have hnoSkip : checkSkipDirs (.list []) = .ok [] := rfl
  have hnoSuffix : checkSuffixes (.list []) = .ok [] := rfl
  refine ⟨isExactFor_of_verbatim hskip hsuffixes hslash, fun n hn hline => ?_, fun e he hline => ?_⟩
  · have hchecked := checkSkipDirs_alone hskip hn
    constructor
    · rintro ⟨spec, hspec, hexact⟩
      rw [exclusions_of_checked hchecked hnoSuffix] at hspec
      exact namesItself_of_isExactFor (ne_nil_of_checkSkipDirs hskip n hn) (hslashN n hn) hline
        (Except.of_mapError_eq_ok hspec) hexact
    · intro h
      exact isExactFor_of_verbatim hchecked hnoSuffix (List.forall_mem_singleton.2 (hslashN n hn))
        (List.forall_mem_singleton.2 h) (by simp)
  · have hchecked := checkSuffixes_alone hsuffixes he
    obtain ⟨hdot, hlength⟩ := (checkSuffixes_eq_ok_iff.1 hsuffixes).2 e he
    constructor
    · rintro ⟨spec, hspec, hexact⟩
      rw [exclusions_of_checked hnoSkip hchecked] at hspec
      exact isVerbatim_of_isExactFor hdot hlength (hslashE e he) hline (Except.of_mapError_eq_ok hspec) hexact
    · intro h
      exact isExactFor_of_verbatim hnoSkip hchecked (List.forall_mem_singleton.2 (hslashE e he)) (by simp)
        (List.forall_mem_singleton.2 h)

/-- A space and a bracket that opens no class are nothing special. -/
theorem exclusions_exact_of_odd_names :
    checkSkipDirs (.list [.text "Old Pods".toList, .text "a[b".toList]) = .ok ["Old Pods".toList, "a[b".toList] ∧
    checkSuffixes (.list [.text ".x!".toList]) = .ok [".x!".toList] ∧
    (∀ t ∈ ["Old Pods".toList, "a[b".toList] ++ [".x!".toList], '/' ∉ t) ∧
    ∃ spec, exclusions (.list [.text "Old Pods".toList, .text "a[b".toList]) (.list [.text ".x!".toList]) = .ok spec ∧
      spec.IsExactFor ["Old Pods".toList, "a[b".toList] [".x!".toList] := by
  have hskip : checkSkipDirs (.list [.text "Old Pods".toList, .text "a[b".toList]) =
      .ok ["Old Pods".toList, "a[b".toList] := by rfl
  have hsuffixes : checkSuffixes (.list [.text ".x!".toList]) = .ok [".x!".toList] := by rfl
  have hslash : ∀ t ∈ ["Old Pods".toList, "a[b".toList] ++ [".x!".toList], '/' ∉ t := by decide
  refine ⟨hskip, hsuffixes, hslash, (exclusions_exact hskip hsuffixes hslash).1 ?_ (by decide)⟩
  simp only [List.forall_mem_cons]
  exact ⟨⟨by decide, by decide, by decide⟩, ⟨by decide, by decide, by decide⟩, by simp⟩

/-- A name that is read as a remark is accepted and leaves nothing out; one with a wildcard leaves out too much. -/
theorem exclusions_misread :
    checkSkipDirs (.list [.text "#cache".toList]) = .ok ["#cache".toList] ∧
    (∃ spec, exclusions (.list [.text "#cache".toList]) (.list []) = .ok spec ∧
      spec.isIgnored "#cache/".toList = false) ∧
    checkSkipDirs (.list [.text "Pods*".toList]) = .ok ["Pods*".toList] ∧
    ∃ spec, exclusions (.list [.text "Pods*".toList]) (.list []) = .ok spec ∧
      spec.isIgnored "PodsKit/".toList = true :=
  ⟨rfl, ⟨_, rfl, rfl⟩, rfl, _, rfl, by decide⟩

end SdkGraft.Ignore
