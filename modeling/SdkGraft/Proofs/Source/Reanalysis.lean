import SdkGraft.Proofs.Source.NewConstructor

/-!
# A second search finds the same construct

* `not_startsConstructor_of_isImport`, `importIndex_beside` : no import goes between a constructor and its body;
* `IsTarget.insertAt_quiet` : a target stays the target where it stands then, if quiet code is put in;
* `IsTarget.insertAt_behind` : so it does if anything overlooked is put in behind its anchor;
* `IsTarget.insertAt_root` : a root gets the inserted constructor, if it stands directly inside;
* `EntryPatterns.OverlooksGraft` : what is put in names no entry point (`overlooksGraft_byDefault`);
* `Refound`, `classify_of_graft` : what the search finds in a grafted document.
-/

namespace SdkGraft.Source

variable {p : EntryPatterns} {kind : Option EntryKind} {sdk : Sdk} {lines codes xs : List Text}

/-! ## Imports and constructors -/

theorem exists_of_afterLast {q : Text → Bool} {n : Nat} (h : afterLast q codes = n + 1) :
    ∃ code, codes[n]? = some code ∧ q code = true := by
  induction codes generalizing n with
  | nil => cases h
  | cons code rest ih =>
    unfold afterLast at h
    split at h
    · split at h
      · rename_i hq
        cases h
        exact ⟨code, rfl, hq⟩
      · cases h
    · rename_i m hm
      cases h
      exact ih hm

theorem modifier?_of_attribute {t rest : Text} (h : attribute? t = some rest) : modifier? t = some rest := by
  unfold attribute? at h
  split at h
  · rename_i r
    have hwords : modifierWords.findSome? (fun w => (Text.dropStart? w ('@' :: r)).bind Text.dropBlanks?) = none :=
      rfl
    unfold modifier?
    rw [hwords, Option.none_or]
    exact h
  · cases h

/-- The attributes of an import are skipped by the search for a constructor too, and nothing else is. -/
theorem dropUpTo_modifier_of_import {n : Nat} {t rest : Text}
    (h : dropUpTo attribute? n t = "import".toList ++ rest) :
    dropUpTo modifier? n t = "import".toList ++ rest := by
  induction n generalizing t with
  | zero => exact h
  | succ n ih =>
    unfold dropUpTo at h ⊢
    cases hattribute : attribute? t with
    | some next =>
      rw [hattribute] at h
      rw [modifier?_of_attribute hattribute]
      exact ih h
    | none =>
      rw [hattribute] at h
      have ht : t = "import".toList ++ rest := h
      have hnone : modifier? ("import".toList ++ rest) = none := rfl
      rw [ht, hnone]

theorem not_startsConstructor_of_isImport {code : Text} (h : isImport code = true) :
    startsConstructor code = false := by
  unfold isImport at h
  split at h
  · rename_i rest hrest
    have himport := dropUpTo_modifier_of_import (Text.dropStart?_eq_some_iff.1 hrest)
    unfold startsConstructor dropAll
    rw [himport]
    rfl
  · cases h

theorem exists_of_findConstructorFrom? {b : Braces} {k : Nat} (h : findConstructorFrom? b codes = some k) :
    ∃ code, codes[k]? = some code ∧ startsConstructor code = true := by
  induction codes generalizing b k with
  | nil => cases h
  | cons code rest ih =>
    unfold findConstructorFrom? at h
    split at h
    · rename_i hfound
      cases h
      exact ⟨code, rfl, (Bool.and_eq_true_iff.1 hfound).2⟩
    split at h
    · cases h
    · obtain ⟨k', hk', rfl⟩ := Option.map_eq_some_iff.1 h
      exact ih hk'

theorem exists_of_findConstructor? {declaration c : Nat} (h : findConstructor? codes declaration = some c) :
    declaration ≤ c ∧ ∃ code, codes[c]? = some code ∧ startsConstructor code = true := by
  unfold findConstructor? at h
  obtain ⟨k, hk, rfl⟩ := Option.map_eq_some_iff.1 h
  obtain ⟨code, hcode, hstart⟩ := exists_of_findConstructorFrom? hk
  rw [List.getElem?_drop] at hcode
  exact ⟨Nat.le_add_right _ _, code, hcode, hstart⟩

/-- The last import is not between a constructor and the line that opens its body: there is no code. -/
theorem importIndex_beside {declaration c b : Nat} (hc : findConstructor? (codeParts lines) declaration = some c)
    (hbody : IsBody (codeParts lines) c b) : importIndex lines ≤ c ∨ b < importIndex lines := by
  rcases Nat.lt_or_ge c (importIndex lines) with hlt | hge
  · refine .inr (Nat.lt_of_not_le fun hle => ?_)
    obtain ⟨n, hn⟩ : ∃ n, importIndex lines = n + 1 := ⟨importIndex lines - 1, by omega⟩
    obtain ⟨code, hcode, himport⟩ := exists_of_afterLast hn
    rcases Nat.eq_or_lt_of_le (show c ≤ n by omega) with rfl | hcn
    · obtain ⟨-, code', hcode', hstart⟩ := exists_of_findConstructor? hc
      cases hcode.symm.trans hcode'
      rw [not_startsConstructor_of_isImport himport] at hstart
      cases hstart
    · cases hcode.symm.trans (hbody.quiet n hcn (by omega))
      cases himport
  · exact .inl hge

/-! ## Quiet code anywhere -/

/-- The target `t'` is for the same construct as `t`, its line taken along by `f`. -/
structure Target.MovedBy (f : Nat → Nat) (t t' : Target) : Prop where
  kind : t'.kind = t.kind
  hasConstructor : t'.hasConstructor = t.hasConstructor
  line : ∃ line : Nat, t.line = line ∧ t'.line = (f line : Nat)

theorem Target.MovedBy.needsConstructor_eq {f : Nat → Nat} {t t' : Target} (h : t.MovedBy f t') :
    needsConstructor t' = needsConstructor t := by
  unfold needsConstructor
  rw [h.kind, h.hasConstructor]

/-- The body of a constructor moves as a whole if nothing is put between its lines. -/
theorem IsBody.insertAt {i c b : Nat} (h : IsBody codes c b) (xs : List Text) (hi : i ≤ codes.length)
    (hbeside : i ≤ c ∨ b < i) :
    IsBody (insertAt i xs codes) (shiftFrom i xs.length c) (shiftFrom i xs.length b) := by
  have hle := h.le
  rcases hbeside with hic | hbi
  · rw [shiftFrom_of_le hic, shiftFrom_of_le (by omega)]
    apply h.shift
    intro j hj _
    rw [← shiftFrom_of_le (show i ≤ j by omega)]
    exact getElem?_insertAt hi xs j
  · rw [shiftFrom_of_lt (by omega), shiftFrom_of_lt hbi]
    apply h.shift (n := 0)
    intro j _ hj
    have hget := getElem?_insertAt hi xs j
    rwa [shiftFrom_of_lt (by omega)] at hget

/-- If quiet code is put in that names no entry point, a target stays the target where it stands then. -/
theorem IsTarget.insertAt_quiet {i c a : Nat} {t : Target} (h : IsTarget p kind codes c a t)
    (hover : ∀ x ∈ xs, p.overlooks x = true) (hquiet : ∀ x ∈ xs, IsQuiet x) (hi : i ≤ codes.length)
    (hbeside : ∀ declaration c b, findConstructor? codes declaration = some c → IsBody codes c b → i ≤ c ∨ b < i) :
    ∃ t', IsTarget p kind (insertAt i xs codes) (shiftFrom i xs.length c) (shiftFrom i xs.length a) t' ∧
      t.MovedBy (shiftFrom i xs.length) t' := by
  cases h with
  | callback hline =>
    refine ⟨_, .callback ?_, rfl, rfl, _, rfl, rfl⟩
    rw [findCallback?_insertAt hover hi, hline]
    rfl
  | root hnone hkind hdeclaration hconstructor =>
    refine ⟨_, .root ?_ hkind ?_ ?_, rfl, rfl, _, rfl, rfl⟩
    · rw [findCallback?_insertAt hover hi, hnone]
      rfl
    · rw [findDeclaration?_insertAt hover hi, hdeclaration]
      rfl
    · rw [findConstructor?_insertAt hquiet hi, hconstructor]
      rfl
  | @constructor declaration _ _ hnone hkind hdeclaration hc hbody =>
    have hbody' := hbody.insertAt xs hi (hbeside _ _ _ hc hbody)
    refine ⟨⟨.annotatedRoot, (shiftFrom i xs.length declaration : Nat), true, some (shiftFrom i xs.length a : Nat)⟩,
      .constructor ?_ hkind ?_ ?_ hbody', rfl, rfl, declaration, rfl, rfl⟩
    · rw [findCallback?_insertAt hover hi, hnone]
      rfl
    · rw [findDeclaration?_insertAt hover hi, hdeclaration]
      rfl
    · rw [findConstructor?_insertAt hquiet hi, hc]
      rfl

/-! ## Anything behind the anchor -/

/-- What is put in behind its anchor, and names no entry point, leaves a target alone that needs no constructor. -/
theorem IsTarget.insertAt_behind {c a : Nat} {t : Target} (h : IsTarget p kind codes c a t)
    (hneeds : needsConstructor t = false) (hover : ∀ x ∈ xs, p.overlooks x = true) :
    IsTarget p kind (insertAt (a + 1) xs codes) c a t := by
  have hi : a + 1 ≤ codes.length := h.anchor_lt
  cases h with
  | callback hline =>
    apply IsTarget.callback
    rw [findCallback?_insertAt hover hi, hline, Option.map_some, shiftFrom_of_lt (Nat.lt_succ_self _)]
  | root _ _ _ _ => cases hneeds
  | constructor hnone hkind hdeclaration hc hbody =>
    obtain ⟨hle, -⟩ := exists_of_findConstructor? hc
    have hlt : c < a + 1 := Nat.lt_succ_of_le hbody.le
    have hbody' := hbody.insertAt xs hi (.inr (Nat.lt_succ_self _))
    rw [shiftFrom_of_lt hlt, shiftFrom_of_lt (Nat.lt_succ_self _)] at hbody'
    refine .constructor ?_ hkind ?_ ?_ hbody'
    · rw [findCallback?_insertAt hover hi, hnone]
      rfl
    · rw [findDeclaration?_insertAt hover hi, hdeclaration, Option.map_some, shiftFrom_of_lt (by omega)]
    · exact findConstructor?_of_take_eq hc hlt (take_insertAt_le hi xs (Nat.le_refl _))

/-- A target that needs a constructor is a root without one. -/
theorem IsTarget.eq_root {c a : Nat} {t : Target} (h : IsTarget p kind codes c a t)
    (hneeds : needsConstructor t = true) : c = a ∧ t = ⟨.annotatedRoot, a, false, none⟩ := by
  cases h with
  | callback _ => cases hneeds
  | root _ _ _ _ => exact ⟨rfl, rfl⟩
  | constructor _ _ _ _ _ => cases hneeds

/-- Behind the line of a root, the inserted constructor becomes the root's if it stands directly inside and in no
comment. Otherwise it is overlooked. -/
theorem IsTarget.insertAt_root {declaration : Nat} {code : Text} (hsdk : sdk.IsInert)
    (hcall : startsConstructor (bareCall sdk) = false)
    (h : IsTarget p kind codes declaration declaration ⟨.annotatedRoot, declaration, false, none⟩)
    (hcode : codes[declaration]? = some code) (inBlock : Bool)
    (hover : ∀ x ∈ insertedCodes sdk true inBlock, p.overlooks x = true) :
    (code.count '\x7b' = code.count '\x7d' + 1 ∧ inBlock = false →
      (insertAt (declaration + 1) (insertedCodes sdk true inBlock) codes)[declaration + 1]? =
        some "init() \x7b".toList ∧
      IsTarget p kind (insertAt (declaration + 1) (insertedCodes sdk true inBlock) codes)
        (declaration + 1) (declaration + 1)
        ⟨.annotatedRoot, declaration, true, some ((declaration + 1 : Nat) : Int)⟩) ∧
    (¬ (code.count '\x7b' = code.count '\x7d' + 1 ∧ inBlock = false) →
      IsTarget p kind (insertAt (declaration + 1) (insertedCodes sdk true inBlock) codes) declaration declaration
        ⟨.annotatedRoot, declaration, false, none⟩) := by
  have hi : declaration + 1 ≤ codes.length := h.anchor_lt
  cases h with
  | root hnone hkind hdeclaration hconstructor =>
    have hfound := findConstructor?_insertedCodes hsdk hcall hcode hconstructor inBlock
    have hnone' : findCallback? p (insertAt (declaration + 1) (insertedCodes sdk true inBlock) codes) = none := by
      rw [findCallback?_insertAt hover hi, hnone]
      rfl
    have hdeclaration' : findDeclaration? p (insertAt (declaration + 1) (insertedCodes sdk true inBlock) codes) =
        some declaration := by
      rw [findDeclaration?_insertAt hover hi, hdeclaration, Option.map_some, shiftFrom_of_lt (Nat.lt_succ_self _)]
    constructor
    · intro hboth
      obtain ⟨-, rfl⟩ := id hboth
      rw [if_pos hboth] at hfound
      have hopening : (insertAt (declaration + 1) (insertedCodes sdk true false) codes)[declaration + 1]? =
          some "init() \x7b".toList := getElem?_insertAt_snippetCodes hi
      refine ⟨hopening, .constructor hnone' hkind hdeclaration' hfound ?_⟩
      exact ⟨Nat.le_refl _, fun hlt => absurd hlt (Nat.lt_irrefl _), fun j hj hj' => by omega,
        _, hopening, rfl⟩
    · intro hboth
      rw [if_neg hboth] at hfound
      exact .root hnone' hkind hdeclaration' hfound

/-! ## What a graft puts in -/

/-- No search for an entry point stops at what a graft puts in, and none for a constructor but at its own. -/
structure EntryPatterns.OverlooksGraft (p : EntryPatterns) (sdk : Sdk) : Prop where
  importing : ∀ inBlock, p.overlooks (lineCode inBlock (importStatement sdk.moduleName)).1 = true
  quiet : ∀ inBlock, IsQuiet (lineCode inBlock (importStatement sdk.moduleName)).1
  code : ∀ x ∈ snippetCodes sdk true, p.overlooks x = true
  call : startsConstructor (bareCall sdk) = false

theorem mem_snippetCodes_of_mem_insertedCodes {withConstructor inBlock : Bool} {x : Text}
    (h : x ∈ insertedCodes sdk withConstructor inBlock) : x ∈ snippetCodes sdk true := by
  cases inBlock with
  | true =>
    rw [List.eq_of_mem_replicate h]
    simp [snippetCodes, branchCodes]
  | false =>
    cases withConstructor with
    | true => exact h
    | false => exact List.mem_cons_of_mem _ (List.mem_append_left _ h)

theorem EntryPatterns.OverlooksGraft.inserted (h : p.OverlooksGraft sdk) {withConstructor inBlock : Bool} :
    ∀ x ∈ insertedCodes sdk withConstructor inBlock, p.overlooks x = true := fun x hx =>
  h.code x (mem_snippetCodes_of_mem_insertedCodes hx)

/-- A target stays the target where it stands in the lines with the import. -/
theorem IsTarget.imported (hsdk : sdk.IsInert) (hover : p.OverlooksGraft sdk) {c a : Nat} {t : Target}
    (h : IsTarget p kind (codeParts lines) c a t) :
    ∃ t', IsTarget p kind (codeParts (imported sdk.moduleName lines)) (importedIndex sdk.moduleName lines c)
        (importedIndex sdk.moduleName lines a) t' ∧ t.MovedBy (importedIndex sdk.moduleName lines) t' := by
  cases himport : hasImport sdk.moduleName lines with
  | true =>
    have hlines : Source.imported sdk.moduleName lines = lines := if_pos himport
    have hindex : ∀ j, importedIndex sdk.moduleName lines j = j := fun j => if_pos himport
    obtain ⟨line, hline⟩ : ∃ line : Nat, t.line = line := by cases h <;> exact ⟨_, rfl⟩
    rw [hlines, hindex, hindex]
    exact ⟨t, h, rfl, rfl, line, hline, by rw [hindex, hline]⟩
  | false =>
    have hi : importIndex lines ≤ (codeParts lines).length := afterLast_le isImport (codeParts lines)
    rw [codeParts_imported hsdk himport, importedIndex_of_not_hasImport himport]
    refine h.insertAt_quiet ?_ ?_ hi fun _ _ _ hc hbody => importIndex_beside hc hbody
    · intro x hx
      rw [List.mem_singleton.1 hx]
      exact hover.importing _
    · intro x hx
      rw [List.mem_singleton.1 hx]
      exact hover.quiet _

/-! ## The second search -/

/-- Where the line `j` of a document stands after the import of an edit. -/
def Edit.pastImport (e : Edit) (j : Nat) : Nat :=
  match e.importIndex with
  | none => j
  | some i => shiftFrom i 1 j

/-- The target `t'` is for the construct of `t`, where the edit has left it; a root that had no constructor may
have the inserted one. -/
structure Refound (d : Document) (t : Target) (d' : Document) (e : Edit) (t' : Target) : Prop where
  kind : t'.kind = t.kind
  line : ∃ line : Nat, t.line = line ∧ t'.line = (e.pastImport line : Nat)
  anchor : t.kind = .delegateCallback ∨ t.hasConstructor = true →
    ∃ a : Nat, t.anchor = a ∧ t'.anchor = (e.pastImport a : Nat)
  constructor : t.kind = .annotatedRoot → t.hasConstructor = false →
    ∃ (line : Nat) (code : Text), t.line = line ∧ (codeParts d.lines)[line]? = some code ∧
      (t'.hasConstructor = true ↔
        code.count '\x7b' = code.count '\x7d' + 1 ∧ openAfter false (d.lines.take (line + 1)) = false) ∧
      (t'.hasConstructor = true → t'.constructorLine = some ((e.pastImport line + 1 : Nat) : Int) ∧
        (codeParts d'.lines)[e.pastImport line + 1]? = some "init() \x7b".toList)

theorem GraftedCode.pastImport_eq {d d' : Document} {t : Target} {a : Nat} {e : Edit}
    (h : GraftedCode sdk d t a d' e) (j : Nat) : e.pastImport j = importedIndex sdk.moduleName d.lines j := by
  unfold Edit.pastImport importedIndex
  rw [h.importIndex]
  unfold importedAt?
  cases hasImport sdk.moduleName d.lines <;> rfl

/-- A target that needs no constructor is found where it stands then. -/
theorem IsTarget.refound_of_not_needs {d d' : Document} {t : Target} {c a : Nat} {e : Edit} (hsdk : sdk.IsInert)
    (hover : p.OverlooksGraft sdk) (h : IsTarget p kind (codeParts d.lines) c a t)
    (hgrafted : GraftedCode sdk d t a d' e) (hneeds : needsConstructor t = false) :
    ∃ c' a' t', IsTarget p kind (codeParts d'.lines) c' a' t' ∧ Refound d t d' e t' := by
  obtain ⟨t', himported, hmoved⟩ := h.imported hsdk hover
  have hpast := hgrafted.pastImport_eq
  have hover' : ∀ x ∈ insertedCodes sdk (needsConstructor t) (openAfter false (d.lines.take (a + 1))),
      p.overlooks x = true := hover.inserted
  have htarget := himported.insertAt_behind (hmoved.needsConstructor_eq.trans hneeds) hover'
  rw [← hgrafted.codes] at htarget
  refine ⟨_, _, t', htarget, ?_⟩
  exact {
    kind := hmoved.kind
    line := by
      obtain ⟨line, hline, hline'⟩ := hmoved.line
      exact ⟨line, hline, by rw [hpast, hline']⟩
    anchor := fun _ => ⟨a, h.anchor_eq, by rw [hpast, himported.anchor_eq]⟩
    constructor := fun hkind hhas => by
      unfold needsConstructor at hneeds
      rw [hkind, hhas] at hneeds
      cases hneeds }

/-- A root that needs a constructor is found where it stands then, with the inserted constructor or without one. -/
theorem IsTarget.refound_of_needs {d d' : Document} {t : Target} {c a : Nat} {e : Edit} (hsdk : sdk.IsInert)
    (hover : p.OverlooksGraft sdk) (h : IsTarget p kind (codeParts d.lines) c a t)
    (hgrafted : GraftedCode sdk d t a d' e) (hneeds : needsConstructor t = true) :
    ∃ c' a' t', IsTarget p kind (codeParts d'.lines) c' a' t' ∧ Refound d t d' e t' := by
  obtain ⟨t', himported, hmoved⟩ := h.imported hsdk hover
  have hpast := hgrafted.pastImport_eq a
  have hcodes := hgrafted.codes
  have hcode := getElem?_codeParts_imported hsdk d.lines a
  obtain ⟨code, hold⟩ : ∃ code, (codeParts d.lines)[a]? = some code := ⟨_, List.getElem?_eq_getElem h.anchor_lt⟩
  obtain ⟨rfl, rfl⟩ := h.eq_root hneeds
  obtain ⟨-, rfl⟩ := himported.eq_root (hmoved.needsConstructor_eq.trans hneeds)
  generalize importedIndex sdk.moduleName d.lines c = declaration at himported hcodes hpast hcode
  rw [hold] at hcode
  rw [hneeds] at hcodes
  obtain ⟨hinside, houtside⟩ := himported.insertAt_root hsdk hover.call hcode
    (openAfter false (d.lines.take (c + 1))) hover.inserted
  rw [← hcodes, ← hpast] at hinside houtside
  by_cases hboth : code.count '\x7b' = code.count '\x7d' + 1 ∧ openAfter false (d.lines.take (c + 1)) = false
  · obtain ⟨hopening, htarget⟩ := hinside hboth
    refine ⟨_, _, _, htarget, ?_⟩
    exact {
      kind := rfl
      line := ⟨c, rfl, rfl⟩
      anchor := by rintro (hkind | hhas) <;> contradiction
      constructor := fun _ _ => ⟨c, code, rfl, hold, ⟨fun _ => hboth, fun _ => rfl⟩, fun _ => ⟨rfl, hopening⟩⟩ }
  · refine ⟨_, _, _, houtside hboth, ?_⟩
    exact {
      kind := rfl
      line := ⟨c, rfl, rfl⟩
      anchor := by rintro (hkind | hhas) <;> contradiction
      constructor := fun _ _ => ⟨c, code, rfl, hold, ⟨fun hhas => absurd hhas Bool.false_ne_true, fun h => absurd h hboth⟩,
        fun hhas => absurd hhas Bool.false_ne_true⟩ }

theorem classify_of_graftedCode {d d' : Document} {t : Target} {a : Nat} {e : Edit} (hsdk : sdk.IsInert)
    (hover : p.OverlooksGraft sdk) (ht : classify p kind d.lines = some t) (ha : t.anchor = a)
    (hgrafted : GraftedCode sdk d t a d' e) : ∃ t', classify p kind d'.lines = some t' ∧ Refound d t d' e t' := by
  obtain ⟨c, a', htarget⟩ := classify_eq_some_iff.1 ht
  cases Int.ofNat.inj (ha.symm.trans htarget.anchor_eq)
  obtain ⟨c', a', t', htarget', hrefound⟩ :
      ∃ c' a' t', IsTarget p kind (codeParts d'.lines) c' a' t' ∧ Refound d t d' e t' := by
    cases hneeds : needsConstructor t with
    | false => exact htarget.refound_of_not_needs hsdk hover hgrafted hneeds
    | true => exact htarget.refound_of_needs hsdk hover hgrafted hneeds
  exact ⟨t', classify_eq_some_iff.2 ⟨c', a', htarget'⟩, hrefound⟩

/-! ## Default settings -/

/-- What entry points are recognised by where no settings say anything else. -/
def EntryPatterns.byDefault : EntryPatterns where
  delegateKeyword := "func application".toList
  launchOptions := "didFinishLaunchingWithOptions".toList
  rootMarker := "@main".toList
  rootTypeKeyword := "struct".toList
  rootTypeFragment := "App".toList

theorem patterns_byDefault : Settings.byDefault.patterns = .ok .byDefault := rfl

theorem plan_byDefault : Settings.byDefault.plan = .ok .byDefault := rfl

theorem overlooksGraft_byDefault : EntryPatterns.byDefault.OverlooksGraft Plan.byDefault.sdk where
  importing := by decide +kernel
  quiet := by
    intro inBlock
    cases inBlock
    · exact ⟨by decide +kernel, by decide +kernel, by decide +kernel⟩
    · exact ⟨by decide +kernel, by decide +kernel, by decide +kernel⟩
  code := by decide +kernel
  call := by decide +kernel

/-- Under default settings, a second search finds the construct of the first one where the graft has left it. -/
theorem classify_of_graft {plan : Plan} {d d' : Document} {t : Target} {c : Credentials} {e : Edit}
    (hp : Settings.byDefault.patterns = .ok p) (hplan : Settings.byDefault.plan = .ok plan)
    (ht : classify p kind d.lines = some t) (h : graft plan d (some t) c = .ok (d', e))
    (hins : e.outcome = .inserted) : ∃ t', classify p kind d'.lines = some t' ∧ Refound d t d' e t' := by
  obtain rfl : EntryPatterns.byDefault = p := Except.ok.inj (patterns_byDefault.symm.trans hp)
  obtain rfl : Plan.byDefault = plan := Except.ok.inj (plan_byDefault.symm.trans hplan)
  obtain ⟨a, ha, -, hgrafted⟩ := exists_graftedCode Plan.byDefault_isInert (by decide) h hins
  exact classify_of_graftedCode Plan.byDefault_isInert overlooksGraft_byDefault ht ha hgrafted

/-- The import goes in front of a root, which gets the constructor. -/
theorem classify_of_graft_in_root :
    let lines := ["import SwiftUI".toList, "@main".toList, "struct DemoApp: App \x7b".toList, "\x7d".toList]
    ∃ d' e t', graft Plan.byDefault ⟨[], lines, .lf, false, []⟩ (some ⟨.annotatedRoot, 2, false, none⟩)
        ⟨"id".toList, "secret".toList, by decide, by decide⟩ = .ok (d', e) ∧ e.outcome = .inserted ∧
      e.importIndex = some 1 ∧ classify .byDefault none d'.lines = some t' ∧
      t'.line = 3 ∧ t'.constructorLine = some 4 := by
  intro lines
  obtain ⟨d', e, h, hins, himport⟩ : ∃ d' e, graft Plan.byDefault ⟨[], lines, .lf, false, []⟩
      (some ⟨.annotatedRoot, 2, false, none⟩) ⟨"id".toList, "secret".toList, by decide, by decide⟩ = .ok (d', e) ∧
      e.outcome = .inserted ∧ e.importIndex = some 1 := ⟨_, _, rfl, rfl, rfl⟩
  obtain ⟨t', ht', hrefound⟩ := classify_of_graft patterns_byDefault plan_byDefault
    (show classify .byDefault none lines = some ⟨.annotatedRoot, 2, false, none⟩ from rfl) h hins
  obtain ⟨line, hline, hline'⟩ := hrefound.line
  obtain ⟨line', code, hroot, hcode, hhas, hconstructor⟩ := hrefound.constructor rfl rfl
  cases hline
  cases hroot
  cases hcode
  have hpast : e.pastImport 2 = 3 := by
    unfold Edit.pastImport
    rw [himport]
    rfl
  rw [hpast] at hline' hconstructor
  exact ⟨d', e, t', h, hins, himport, ht', hline', (hconstructor (hhas.2 (by decide))).1⟩

end SdkGraft.Source
