import SdkGraft.Proofs.Source.Targets
import SdkGraft.Settings.Basic

/-!
# Whether the initialization goes inside its construct

* `Unclosed n t` : `t` never closes more than `n` braces that it has not opened;
* `FirstBraceOpen t` : the first brace that `t` opens is still open at its end; both are decided by reading
  the text once (`unclosed_iff`, `opensFirst_iff`);
* `LandsInside codes c a` : so it is for the code from line `c` to the end of line `a`;
* `IsTarget.landsInside_iff` : for a target, the code of the line it anchors at decides;
* `classify_landsInside` : which targets are inside their construct, and which constructors are refused.
-/

namespace SdkGraft.Source

/-! ## Open braces -/

/-- However far the text is read, it has closed at most `n` braces that it did not open. -/
def Unclosed (n : Nat) (t : Text) : Prop := ∀ part, part <+: t → part.count '\x7d' ≤ part.count '\x7b' + n

/-- The same, told by reading the text with `n` braces open. -/
def unclosed : (n : Nat) → Text → Bool
  | _, [] => true
  | n, c :: r =>
    if c = '\x7b' then unclosed (n + 1) r
    else if c = '\x7d' then
      match n with
      | 0 => false
      | n + 1 => unclosed n r
    else unclosed n r

theorem unclosed_cons_iff {n : Nat} {c : Char} {r : Text} :
    Unclosed n (c :: r) ↔ ∀ part, part <+: r → (c :: part).count '\x7d' ≤ (c :: part).count '\x7b' + n := by
  constructor
  · intro h part hpart
    exact h _ (List.cons_prefix_cons.2 ⟨rfl, hpart⟩)
  · intro h part hpart
    rcases List.prefix_cons_iff.1 hpart with rfl | ⟨part', rfl, hpart'⟩
    · simp
    · exact h part' hpart'

theorem unclosed_iff {n : Nat} {t : Text} : unclosed n t = true ↔ Unclosed n t := by
  induction t generalizing n with
  | nil => simp [unclosed, Unclosed]
  | cons c r ih =>
    rw [unclosed_cons_iff]
    unfold unclosed
    split
    · rename_i hc
      subst hc
      rw [ih]
      refine forall₂_congr fun part _ => ?_
      simp
      omega
    split
    · rename_i hc
      subst hc
      cases n with
      | zero =>
        constructor
        · intro h
          cases h
        · intro h
          have hclose := h [] List.nil_prefix
          simp at hclose
      | succ n =>
        rw [ih]
        refine forall₂_congr fun part _ => ?_
        simp
        omega
    · rename_i hopening hclosing
      rw [ih]
      refine forall₂_congr fun part _ => ?_
      simp [hopening, hclosing]

/-- A brace is opened in the text, and the first one is still open at its end. -/
def FirstBraceOpen (t : Text) : Prop :=
  ∃ before body, t = before ++ '\x7b' :: body ∧ '\x7b' ∉ before ∧ Unclosed 0 body

/-- The same, told by reading the text. -/
def opensFirst : Text → Bool
  | [] => false
  | c :: r => if c = '\x7b' then unclosed 0 r else opensFirst r

theorem not_firstBraceOpen_of_not_mem {t : Text} (h : '\x7b' ∉ t) : ¬ FirstBraceOpen t := by
  rintro ⟨before, body, rfl, -, -⟩
  exact h (by simp)

/-- What stands before the first brace does not matter. -/
theorem firstBraceOpen_append_iff {before t : Text} (h : '\x7b' ∉ before) :
    FirstBraceOpen (before ++ t) ↔ FirstBraceOpen t := by
  constructor
  · rintro ⟨before', body, heq, hnone, hbody⟩
    rcases List.append_eq_append_iff.1 heq with ⟨middle, rfl, rfl⟩ | ⟨middle, rfl, hcons⟩
    · exact ⟨middle, body, rfl, fun hm => hnone (List.mem_append_right _ hm), hbody⟩
    · cases middle with
      | nil => exact ⟨[], body, hcons.symm, List.not_mem_nil, hbody⟩
      | cons c middle =>
        cases hcons
        exact absurd (by simp) h
  · rintro ⟨before', body, rfl, hnone, hbody⟩
    refine ⟨before ++ before', body, (List.append_assoc _ _ _).symm, ?_, hbody⟩
    rw [List.mem_append, not_or]
    exact ⟨h, hnone⟩

theorem firstBraceOpen_cons_iff {body : Text} : FirstBraceOpen ('\x7b' :: body) ↔ Unclosed 0 body := by
  constructor
  · rintro ⟨before, body', heq, hnone, hbody⟩
    cases before with
    | nil =>
      cases heq
      exact hbody
    | cons c before =>
      cases heq
      exact absurd List.mem_cons_self hnone
  · intro h
    exact ⟨[], body, rfl, List.not_mem_nil, h⟩

theorem opensFirst_iff {t : Text} : opensFirst t = true ↔ FirstBraceOpen t := by
  induction t with
  | nil => simp [opensFirst, not_firstBraceOpen_of_not_mem]
  | cons c r ih =>
    unfold opensFirst
    split
    · rename_i hc
      subst hc
      rw [unclosed_iff, firstBraceOpen_cons_iff]
    · rename_i hc
      rw [ih, ← firstBraceOpen_append_iff (show '\x7b' ∉ [c] by simpa using Ne.symm hc)]
      rfl

instance (t : Text) : Decidable (FirstBraceOpen t) := decidable_of_iff _ opensFirst_iff

/-- Where a text opens one brace only and closes none, it leaves it open. -/
theorem firstBraceOpen_of_count {t : Text} (hopening : t.count '\x7b' = 1) (hclosing : t.count '\x7d' = 0) :
    FirstBraceOpen t := by
  obtain ⟨before, body, rfl⟩ := List.append_of_mem (List.count_pos_iff.1 (show 0 < t.count '\x7b' by omega))
  rw [List.count_append, List.count_cons_self] at hopening
  refine ⟨before, body, rfl, List.count_eq_zero.1 (by omega), fun part hpart => ?_⟩
  have hnone : '\x7d' ∉ part := by
    intro hm
    exact List.count_eq_zero.1 hclosing (by simp [hpart.subset hm])
  rw [List.count_eq_zero.2 hnone]
  exact Nat.zero_le _

/-! ## Targets -/

/-- The end of line `a` is inside the braces that the code first opens from line `c` on. -/
def LandsInside (codes : List Text) (c a : Nat) : Prop :=
  FirstBraceOpen ((codes.drop c).take (a + 1 - c)).flatten

instance (codes : List Text) (c a : Nat) : Decidable (LandsInside codes c a) :=
  inferInstanceAs (Decidable (FirstBraceOpen _))

/-- If no brace is opened before line `a`, its code alone decides. -/
theorem landsInside_iff_of_quiet {codes : List Text} {c a : Nat} (hle : c ≤ a) {code : Text}
    (hcode : codes[a]? = some code) (hquiet : ∀ j, c ≤ j → j < a → ∀ q ∈ codes[j]?, '\x7b' ∉ q) :
    LandsInside codes c a ↔ FirstBraceOpen code := by
  have hlines : (codes.drop c).take (a + 1 - c) = (codes.drop c).take (a - c) ++ [code] := by
    rw [Nat.sub_add_comm hle, List.take_add_one, List.getElem?_drop, Nat.add_sub_cancel' hle, hcode]
    rfl
  have hnone : '\x7b' ∉ ((codes.drop c).take (a - c)).flatten := by
    intro hm
    obtain ⟨q, hq, hm⟩ := List.mem_flatten.1 hm
    obtain ⟨j, hj⟩ := List.getElem?_of_mem hq
    rw [List.getElem?_take] at hj
    split at hj
    · rw [List.getElem?_drop] at hj
      exact hquiet (c + j) (by omega) (by omega) q hj hm
    · cases hj
  unfold LandsInside
  rw [hlines, List.flatten_append, firstBraceOpen_append_iff hnone, List.flatten_singleton]

variable {p : EntryPatterns} {kind : Option EntryKind} {codes : List Text} {c a : Nat} {t : Target}

theorem IsBody.not_mem {b : Nat} (h : IsBody codes c b) {j : Nat} (hj : c ≤ j) (hjb : j < b) :
    ∀ q ∈ codes[j]?, '\x7b' ∉ q := by
  intro q hq
  rw [Option.mem_def] at hq
  rcases Nat.eq_or_lt_of_le hj with rfl | hlt
  · obtain ⟨code, hcode, hnone⟩ := h.first hjb
    cases hcode.symm.trans hq
    exact hnone
  · cases (h.quiet j hlt hjb).symm.trans hq
    exact List.not_mem_nil

theorem IsTarget.le (h : IsTarget p kind codes c a t) : c ≤ a := by
  cases h with
  | callback _ => exact Nat.le_refl _
  | root _ _ _ _ => exact Nat.le_refl _
  | constructor _ _ _ _ hbody => exact hbody.le

/-- The code of the line a target anchors at decides whether the initialization goes inside the construct. -/
theorem IsTarget.landsInside_iff (h : IsTarget p kind codes c a t) {code : Text} (hcode : codes[a]? = some code) :
    LandsInside codes c a ↔ FirstBraceOpen code := by
  apply landsInside_iff_of_quiet h.le hcode
  cases h with
  | callback _ => intro j hj hja; omega
  | root _ _ _ _ => intro j hj hja; omega
  | constructor _ _ _ _ hbody => intro j hj hja; exact hbody.not_mem hj hja

/-- A constructor whose first brace is closed in the line where it is opened has no body to go into. -/
theorem not_isBody_of_not_leavesOpen {b : Nat} (hle : c ≤ b) {code : Text} (hcode : codes[b]? = some code)
    (hmem : '\x7b' ∈ code) (hquiet : ∀ j, c ≤ j → j < b → ∀ q ∈ codes[j]?, '\x7b' ∉ q)
    (hclosed : leavesOpen code = false) (b' : Nat) : ¬ IsBody codes c b' := by
  intro h
  obtain ⟨code', hcode', hopen⟩ := h.opens
  rcases Nat.lt_trichotomy b b' with hlt | rfl | hlt
  · exact h.not_mem hle hlt code hcode hmem
  · cases hcode.symm.trans hcode'
    rw [hclosed] at hopen
    cases hopen
  · exact hquiet b' h.le hlt code' hcode' (mem_of_leavesOpen hopen)

/-- Every target anchors in its construct's own line or, for a constructor, in the line where the body is
opened. The point behind that line is inside the construct if and only if the line leaves open the first brace
it opens; a constructor's line leaves some brace open, the first one at least if it is the only one. A constructor
with a body that is closed in the line where it is opened is no target. -/
theorem classify_landsInside (p : EntryPatterns) (kind : Option EntryKind) (lines : List Text) :
    (∀ t, classify p kind lines = some t → ∃ c a code, IsTarget p kind (codeParts lines) c a t ∧
      t.anchor = (a : Nat) ∧ c ≤ a ∧ (codeParts lines)[a]? = some code ∧
      (LandsInside (codeParts lines) c a ↔ FirstBraceOpen code) ∧
      (t.hasConstructor = true → leavesOpen code = true ∧
        (code.count '\x7b' = 1 → LandsInside (codeParts lines) c a))) ∧
    (∀ declaration c b code, findCallback? p (codeParts lines) = none →
      findDeclaration? p (codeParts lines) = some declaration →
      findConstructor? (codeParts lines) declaration = some c →
      c ≤ b → (codeParts lines)[b]? = some code → '\x7b' ∈ code → leavesOpen code = false →
      (∀ j, c ≤ j → j < b → ∀ q ∈ (codeParts lines)[j]?, '\x7b' ∉ q) →
      classify p kind lines = none) := by
  constructor
  · intro t ht
    obtain ⟨c, a, htarget⟩ := classify_eq_some_iff.1 ht
    obtain ⟨code, hcode⟩ : ∃ code, (codeParts lines)[a]? = some code :=
      ⟨_, List.getElem?_eq_getElem htarget.anchor_lt⟩
    have hinside := htarget.landsInside_iff hcode
    refine ⟨c, a, code, htarget, htarget.anchor_eq, htarget.le, hcode, hinside, fun hhas => ?_⟩
    cases htarget with
    | callback _ => cases hhas
    | root _ _ _ _ => cases hhas
    | constructor _ _ _ _ hbody =>
      obtain ⟨code', hcode', hopen⟩ := hbody.opens
      cases hcode.symm.trans hcode'
      refine ⟨hopen, fun hone => hinside.2 (firstBraceOpen_of_count hone ?_)⟩
      unfold leavesOpen at hopen
      rw [decide_eq_true_eq] at hopen
      omega
  · intro declaration c b code hnone hdeclaration hc hle hcode hmem hclosed hquiet
    have hbody := not_isBody_of_not_leavesOpen hle hcode hmem hquiet hclosed
    rw [Option.eq_none_iff_forall_ne_some]
    intro t ht
    obtain ⟨c', a, htarget⟩ := classify_eq_some_iff.1 ht
    cases htarget with
    | callback hline => cases hnone.symm.trans hline
    | root _ _ hdeclaration' hconstructor =>
      cases hdeclaration.symm.trans hdeclaration'
      cases hc.symm.trans hconstructor
    | constructor _ _ hdeclaration' hc' hbody' =>
      cases hdeclaration.symm.trans hdeclaration'
      cases hc.symm.trans hc'
      exact hbody _ hbody'

/-- The initialization goes inside a constructor that opens its body some lines further down. -/
theorem classify_landsInside_of_late_brace :
    let lines := ["@main".toList, "struct DemoApp: App \x7b".toList, "    init()".toList, "    // \x7d".toList,
      "    \x7b".toList, "    \x7d".toList, "\x7d".toList]
    ∃ p, Settings.byDefault.patterns = .ok p ∧ ∃ t c, classify p none lines = some t ∧ t.anchor = 4 ∧
      IsTarget p none (codeParts lines) c 4 t ∧ LandsInside (codeParts lines) c 4 := by
  intro lines
  obtain ⟨p, hp, ht⟩ : ∃ p, Settings.byDefault.patterns = .ok p ∧
      classify p none lines = some ⟨.annotatedRoot, 1, true, some 4⟩ := ⟨_, rfl, rfl⟩
  obtain ⟨c, a, code, htarget, hanchor, -, hcode, -, hinside⟩ := (classify_landsInside p none lines).1 _ ht
  cases hanchor
  cases hcode
  exact ⟨p, hp, _, c, ht, rfl, htarget, (hinside rfl).2 (by decide)⟩

/-- A callback with its brace in the next line, a root that is closed in its own line and a constructor that
is closed before another body is opened are targets, but the initialization does not go inside. -/
theorem classify_not_landsInside : ∃ p, Settings.byDefault.patterns = .ok p ∧
    (let lines := ["func application(didFinishLaunchingWithOptions)".toList, "\x7b".toList, "\x7d".toList]
    ∃ t, classify p none lines = some t ∧ IsTarget p none (codeParts lines) 0 0 t ∧
      ¬ LandsInside (codeParts lines) 0 0) ∧
    (let lines := ["@main".toList, "struct DemoApp: App \x7b\x7d".toList, "struct Other \x7b\x7d".toList]
    ∃ t, classify p none lines = some t ∧ IsTarget p none (codeParts lines) 1 1 t ∧
      ¬ LandsInside (codeParts lines) 1 1) ∧
    (let lines := ["@main".toList, "struct DemoApp: App \x7b".toList, "    init() \x7b\x7d func run() \x7b".toList,
      "    \x7d".toList, "\x7d".toList]
    ∃ t, classify p none lines = some t ∧ IsTarget p none (codeParts lines) 2 2 t ∧
      ¬ LandsInside (codeParts lines) 2 2) := by
  refine ⟨_, rfl, ⟨.callback 0, rfl, .callback rfl, by decide⟩, ⟨⟨.annotatedRoot, 1, false, none⟩, rfl, ?_, by decide⟩,
    ⟨⟨.annotatedRoot, 1, true, some 2⟩, rfl, ?_, by decide⟩⟩
  · exact .root rfl (by decide) rfl rfl
  · exact .constructor rfl (by decide) rfl rfl (findBody?_eq_some_iff.1 rfl)

end SdkGraft.Source
