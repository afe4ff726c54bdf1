import SdkGraft.Proofs.Source.Insertion
import SdkGraft.Proofs.Source.SnippetLines
import SdkGraft.Settings.Basic

/-!
# What a graft does

* `Edit.newIndex` : where a line of a document stands after an edit; `Edit.undo` : the lines without what
  an edit has put in;
* `Grafted` : a document with code behind one of its lines, and the import where it was missing;
* `grafted_insertLines` : the insertion puts both in their places;
* `exists_target_of_graft_inserted` : the only way to an insertion;
* `graft_effect` : the whole effect of a graft, the next one included.
-/

namespace SdkGraft.Source

/-- What is inserted where no settings say anything else. -/
def Plan.byDefault : Plan where
  sdk := ⟨"Plengi".toList, "Plengi.initialize".toList, ".SUCCESS".toList⟩
  fault? := none
  preserveEndings := true
  defaultIndent := some "    ".toList

/-! ## Places -/

def Edit.codeLength (e : Edit) : Nat := e.linesAdded - if e.importIndex.isSome then 1 else 0

/-- Where the line `j` of a document stands after an edit: first the import goes in, then the code
behind the anchor. -/
def Edit.newIndex (e : Edit) (j : Nat) : Nat :=
  let imported := match e.importIndex with
    | none => j
    | some i => shiftFrom i 1 j
  match e.anchorIndex with
  | none => imported
  | some a => shiftFrom (a + 1) e.codeLength imported

/-- The lines after an edit without what it has put in: first the code behind the anchor goes, then the
import. -/
def Edit.undo (e : Edit) (lines : List Text) : List Text :=
  let imported := match e.anchorIndex with
    | none => lines
    | some a => removeAt (a + 1) e.codeLength lines
  match e.importIndex with
  | none => imported
  | some i => removeAt i 1 imported

theorem Edit.newIndex_strictMono (e : Edit) : StrictMono e.newIndex := by
  intro j k h
  obtain ⟨_, importIndex, anchorIndex, _⟩ := e
  cases importIndex with
  | none =>
    cases anchorIndex with
    | none => exact h
    | some a => exact shiftFrom_strictMono _ _ h
  | some i =>
    cases anchorIndex with
    | none => exact shiftFrom_strictMono _ _ h
    | some a => exact shiftFrom_strictMono _ _ (shiftFrom_strictMono _ _ h)

/-- The document `d'` is `d` with `code` directly behind line `a`, and with the import behind its
last import unless it was there. -/
structure Grafted (sdk : Sdk) (d : Document) (a : Nat) (code : List Text) (d' : Document) (e : Edit) :
    Prop where
  outcome : e.outcome = .inserted
  frame : d' = { d with lines := d'.lines }
  imported : hasImport sdk.moduleName d.lines = true →
    e.importIndex = none ∧ d'.lines = d.lines.take (a + 1) ++ code ++ d.lines.drop (a + 1)
  import_before : ∀ i, hasImport sdk.moduleName d.lines = false → i = importIndex d.lines → i ≤ a →
    e.importIndex = some i ∧
      d'.lines = d.lines.take i ++ [importStatement sdk.moduleName] ++ (d.lines.take (a + 1)).drop i ++ code
        ++ d.lines.drop (a + 1)
  import_after : ∀ i, hasImport sdk.moduleName d.lines = false → i = importIndex d.lines → a < i →
    e.importIndex = some i ∧
      d'.lines = d.lines.take (a + 1) ++ code ++ (d.lines.take i).drop (a + 1)
        ++ [importStatement sdk.moduleName] ++ d.lines.drop i
  survive : ∀ j, d'.lines[e.newIndex j]? = d.lines[j]?
  ordered : StrictMono e.newIndex
  anchor : e.anchorIndex = some (e.newIndex a)
  follows : code <+: d'.lines.drop (e.newIndex a + 1)
  added : d'.lines.length = d.lines.length + e.linesAdded

/-! ## The insertion -/

theorem insertLines_of_hasImport {sdk : Sdk} {lines : List Text} (h : hasImport sdk.moduleName lines = true)
    (a : Nat) (code : List Text) :
    insertLines sdk lines a code =
      (insertAt (a + 1) code lines, ⟨.inserted, none, some a, code.length⟩) := by
  rw [insertLines, insertImport?, if_pos h]
  rfl

theorem insertLines_of_not_hasImport {sdk : Sdk} {lines : List Text}
    (h : hasImport sdk.moduleName lines = false) (a : Nat) (code : List Text) :
    insertLines sdk lines a code =
      (insertAt (shiftFrom (importIndex lines) 1 a + 1) code
          (insertAt (importIndex lines) [importStatement sdk.moduleName] lines),
        ⟨.inserted, some (importIndex lines), some (shiftFrom (importIndex lines) 1 a),
          code.length + 1⟩) := by
  rw [insertLines, insertImport?, if_neg (by simp [h])]
  simp only [insertAt, shiftFrom, List.append_assoc, List.singleton_append]

theorem grafted_of_hasImport {sdk : Sdk} {d : Document} (h : hasImport sdk.moduleName d.lines = true)
    {a : Nat} (ha : a < d.lines.length) (code : List Text) :
    Grafted sdk d a code { d with lines := insertAt (a + 1) code d.lines }
      ⟨.inserted, none, some a, code.length⟩ where
  outcome := rfl
  frame := rfl
  imported := fun _ => ⟨rfl, rfl⟩
  import_before := fun i hno => by rw [h] at hno; cases hno
  import_after := fun i hno => by rw [h] at hno; cases hno
  survive := getElem?_insertAt ha code
  ordered := Edit.newIndex_strictMono _
  anchor := congrArg some (shiftFrom_of_lt (Nat.lt_succ_self a) _).symm
  follows := by
    have hplace : Edit.newIndex ⟨.inserted, none, some a, code.length⟩ a = a :=
      shiftFrom_of_lt (Nat.lt_succ_self a) _
    rw [hplace]
    exact prefix_drop_insertAt ha code
  added := length_insertAt ha code

theorem grafted_of_not_hasImport {sdk : Sdk} {d : Document}
    (h : hasImport sdk.moduleName d.lines = false) {a : Nat} (ha : a < d.lines.length) (code : List Text) :
    Grafted sdk d a code
      { d with
        lines := insertAt (shiftFrom (importIndex d.lines) 1 a + 1) code
          (insertAt (importIndex d.lines) [importStatement sdk.moduleName] d.lines) }
      ⟨.inserted, some (importIndex d.lines), some (shiftFrom (importIndex d.lines) 1 a),
        code.length + 1⟩ := by
  have hi := importIndex_le d.lines
  have hlength : (insertAt (importIndex d.lines) [importStatement sdk.moduleName] d.lines).length =
      d.lines.length + 1 := length_insertAt hi _
  have hanchor : shiftFrom (importIndex d.lines) 1 a + 1 ≤
      (insertAt (importIndex d.lines) [importStatement sdk.moduleName] d.lines).length :=
    shiftFrom_lt_length_insertAt hi [importStatement sdk.moduleName] ha
  have hplace : Edit.newIndex ⟨.inserted, some (importIndex d.lines),
      some (shiftFrom (importIndex d.lines) 1 a), code.length + 1⟩ a =
      shiftFrom (importIndex d.lines) 1 a := shiftFrom_of_lt (Nat.lt_succ_self _) _
  exact {
    outcome := rfl
    frame := rfl
    imported := fun hyes => by rw [h] at hyes; cases hyes
    import_before := fun i _ hindex hia => by
      subst hindex
      have hshift : shiftFrom (importIndex d.lines) 1 a = a + 1 := shiftFrom_of_le hia 1
      have hbefore : importIndex d.lines ≤ a + 1 := by omega
      have htake := take_insertAt_ge hi [importStatement sdk.moduleName] hbefore
      have hdrop := drop_insertAt_ge hi [importStatement sdk.moduleName] hbefore
      refine ⟨rfl, ?_⟩
      rw [List.length_singleton] at htake hdrop
      rw [hshift]
      show insertAt (a + 1 + 1) code _ = _
      rw [insertAt, htake, hdrop]
    import_after := fun i _ hindex hai => by
      subst hindex
      have hshift : shiftFrom (importIndex d.lines) 1 a = a := shiftFrom_of_lt hai 1
      have hafter : a + 1 ≤ importIndex d.lines := hai
      have htake := take_insertAt_le hi [importStatement sdk.moduleName] hafter
      have hdrop := drop_insertAt_le hi [importStatement sdk.moduleName] hafter
      refine ⟨rfl, ?_⟩
      rw [hshift]
      show insertAt (a + 1) code _ = _
      rw [insertAt, htake, hdrop]
      simp only [List.append_assoc]
    survive := fun j => by
      have hcode := getElem?_insertAt hanchor code (shiftFrom (importIndex d.lines) 1 j)
      have himport := getElem?_insertAt hi [importStatement sdk.moduleName] j
      exact hcode.trans himport
    ordered := Edit.newIndex_strictMono _
    anchor := by rw [hplace]
    follows := by
      rw [hplace]
      exact prefix_drop_insertAt hanchor code
    added := by
      rw [length_insertAt hanchor, hlength]
      show _ = d.lines.length + (code.length + 1)
      omega }

/-- Where the code goes, and what is told about it, depends on its length only. -/
theorem exists_insertLines (sdk : Sdk) {lines : List Text} {a : Nat} (ha : a < lines.length) :
    ∃ withImport index anchor added, anchor < withImport.length ∧ ∀ code,
      insertLines sdk lines a code = (insertAt (anchor + 1) code withImport,
        ⟨.inserted, index, some anchor, code.length + added⟩) := by
  cases himport : hasImport sdk.moduleName lines with
  | true => exact ⟨lines, none, a, 0, ha, insertLines_of_hasImport himport a⟩
  | false =>
    have hanchor := shiftFrom_lt_length_insertAt (importIndex_le lines) [importStatement sdk.moduleName] ha
    exact ⟨_, _, _, 1, hanchor, insertLines_of_not_hasImport himport a⟩

/-- An insertion puts the code and the import in their places, whichever of them comes first. -/
theorem grafted_insertLines (sdk : Sdk) (d : Document) {a : Nat} (ha : a < d.lines.length)
    (code : List Text) :
    Grafted sdk d a code { d with lines := (insertLines sdk d.lines a code).1 }
      (insertLines sdk d.lines a code).2 := by
  cases himport : hasImport sdk.moduleName d.lines with
  | true =>
    rw [insertLines_of_hasImport himport]
    exact grafted_of_hasImport himport ha code
  | false =>
    rw [insertLines_of_not_hasImport himport]
    exact grafted_of_not_hasImport himport ha code

/-- An insertion puts in the import and the code only. -/
theorem mem_of_mem_insertLines {sdk : Sdk} {lines code : List Text} {a : Nat} {l : Text}
    (h : l ∈ (insertLines sdk lines a code).1) :
    l ∈ lines ∨ l = importStatement sdk.moduleName ∨ l ∈ code := by
  cases himport : hasImport sdk.moduleName lines with
  | true =>
    rw [insertLines_of_hasImport himport] at h
    exact (mem_of_mem_insertAt h).imp_right .inr
  | false =>
    rw [insertLines_of_not_hasImport himport] at h
    obtain h | h := mem_of_mem_insertAt h
    · exact (mem_of_mem_insertAt h).imp_right fun h => .inl (List.mem_singleton.1 h)
    · exact .inr (.inr h)

theorem undo_insertLines (sdk : Sdk) {lines : List Text} {a : Nat} (ha : a < lines.length) (code : List Text) :
    (insertLines sdk lines a code).2.undo (insertLines sdk lines a code).1 = lines := by
  cases himport : hasImport sdk.moduleName lines with
  | true =>
    rw [insertLines_of_hasImport himport]
    exact removeAt_insertAt ha code
  | false =>
    have hi := importIndex_le lines
    have hanchor := shiftFrom_lt_length_insertAt hi [importStatement sdk.moduleName] ha
    have hcode := removeAt_insertAt hanchor code
    have himported := removeAt_insertAt hi [importStatement sdk.moduleName]
    rw [insertLines_of_not_hasImport himport]
    exact (congrArg (removeAt (importIndex lines) 1) hcode).trans himported

theorem Grafted.lines_subset {sdk : Sdk} {d d' : Document} {a : Nat} {code : List Text} {e : Edit}
    (h : Grafted sdk d a code d' e) : d.lines ⊆ d'.lines := fun line hline => by
  obtain ⟨j, hj⟩ := List.getElem?_of_mem hline
  exact List.mem_of_getElem? ((h.survive j).trans hj)

theorem Grafted.code_subset {sdk : Sdk} {d d' : Document} {a : Nat} {code : List Text} {e : Edit}
    (h : Grafted sdk d a code d' e) : code ⊆ d'.lines :=
  fun _ hline => List.mem_of_mem_drop (h.follows.subset hline)

/-! ## The graft -/

theorem isInstalled_of_mem {sdk : Sdk} (hlf : '\n' ∉ sdk.initCall) {d : Document} {line : Text}
    (hm : line ∈ d.lines) (h : Text.occursIn sdk.initCall line = true) : isInstalled sdk d = true := by
  rcases eq_or_ne sdk.initCall [] with hnil | hne
  · rw [isInstalled, hnil, Text.occursIn_nil_left]
  · rw [isInstalled, Document.text, Text.occursIn_unlines hlf hne, List.any_eq_true]
    exact ⟨line, hm, h⟩

theorem graft_of_isInstalled {plan : Plan} {d : Document} (h : isInstalled plan.sdk d = true)
    (target : Option Target) (c : Credentials) :
    graft plan d target c = .ok (d, .nothing .alreadyPresent) := by
  unfold graft
  exact if_pos h

theorem graft_of_anchorIn?_eq_none {plan : Plan} {d : Document} (h : isInstalled plan.sdk d = false)
    {target : Option Target} (hnone : anchorIn? d.lines target = none) (c : Credentials) :
    graft plan d target c = .ok (d, .nothing .noAnchor) := by
  unfold graft
  rw [if_neg (by simp [h]), hnone]
  cases target <;> rfl

/-- The code that a graft puts behind line `a`. -/
def graftCode (sdk : Sdk) (d : Document) (t : Target) (c : Credentials) (a : Nat) (unit : Text) : List Text :=
  snippet sdk c (Text.leading (d.lines.getD a []) ++ unit) unit (needsConstructor t)

/-- The document with that code and the import in it. -/
def graftAt (sdk : Sdk) (d : Document) (t : Target) (c : Credentials) (a : Nat) (unit : Text) :
    Document × Edit :=
  let done := insertLines sdk d.lines a (graftCode sdk d t c a unit)
  ({ d with lines := done.1 }, done.2)

theorem graft_of_anchor {plan : Plan} {d : Document} (h : isInstalled plan.sdk d = false) {t : Target}
    {a : Nat} (ht : t.anchor = a) (ha : a < d.lines.length) (c : Credentials) :
    graft plan d (some t) c =
      match (detectUnit d.lines).or plan.defaultIndent with
      | none => .error .indentNotText
      | some unit =>
        if plan.isWritable then .ok (graftAt plan.sdk d t c a unit) else .error .unwritable := by
  have hanchor : anchorIn? d.lines (some t) = some a := by
    rw [anchorIn?, if_pos (by rw [ht]; omega), ht, Int.toNat_natCast]
  unfold graft
  rw [if_neg (by simp [h]), hanchor]
  rfl

/-- A graft at a target in the document inserts the code, where it can be written. -/
theorem exists_graft_of_target {plan : Plan} {d : Document} {target : Target} {indent : Text}
    (hindent : plan.defaultIndent = some indent) (hwritable : plan.isWritable = true)
    (hnot : isInstalled plan.sdk d = false)
    (hrange : 0 ≤ target.anchor ∧ target.anchor < d.lines.length) (c : Credentials) :
    ∃ (a : Nat) (unit : Text), target.anchor = a ∧ a < d.lines.length ∧
      graft plan d (some target) c = .ok (graftAt plan.sdk d target c a unit) := by
  have hanchor : target.anchor = (target.anchor.toNat : Nat) := (Int.toNat_of_nonneg hrange.1).symm
  have ha : target.anchor.toNat < d.lines.length := by omega
  have hgraft := graft_of_anchor hnot hanchor ha c
  rw [hindent, hwritable] at hgraft
  cases hunit : detectUnit d.lines with
  | none =>
    rw [hunit] at hgraft
    exact ⟨_, indent, hanchor, ha, hgraft⟩
  | some unit =>
    rw [hunit] at hgraft
    exact ⟨_, unit, hanchor, ha, hgraft⟩

/-- Whether a graft does anything, and where, does not depend on the credentials. -/
theorem graft_cases (plan : Plan) (d : Document) (target : Option Target) :
    (∃ e, e.outcome ≠ .inserted ∧ ∀ c, graft plan d target c = .ok (d, e)) ∨
    (∃ f, ∀ c, graft plan d target c = .error f) ∨
    ∃ t a unit, target = some t ∧ t.anchor = (a : Nat) ∧ a < d.lines.length ∧
      (detectUnit d.lines).or plan.defaultIndent = some unit ∧
      ∀ c, graft plan d target c = .ok (graftAt plan.sdk d t c a unit) := by
  cases h : isInstalled plan.sdk d with
  | true => exact .inl ⟨.nothing .alreadyPresent, by simp [Edit.nothing], graft_of_isInstalled h target⟩
  | false =>
  cases target with
  | none => exact .inl ⟨.nothing .noAnchor, by simp [Edit.nothing], graft_of_anchorIn?_eq_none h rfl⟩
  | some t =>
  by_cases hrange : 0 ≤ t.anchor ∧ t.anchor < d.lines.length
  · have ht : t.anchor = (t.anchor.toNat : Nat) := (Int.toNat_of_nonneg hrange.1).symm
    have ha : t.anchor.toNat < d.lines.length := by omega
    have hgraft := fun c => graft_of_anchor h ht ha c
    cases hunit : (detectUnit d.lines).or plan.defaultIndent with
    | none => exact .inr (.inl ⟨.indentNotText, fun c => by rw [hgraft c, hunit]⟩)
    | some unit =>
      cases hw : plan.isWritable with
      | false => exact .inr (.inl ⟨.unwritable, fun c => by rw [hgraft c, hunit, hw]; rfl⟩)
      | true =>
        exact .inr (.inr ⟨t, _, unit, rfl, ht, ha, rfl, fun c => by rw [hgraft c, hunit, hw]; rfl⟩)
  · exact .inl ⟨.nothing .noAnchor, by simp [Edit.nothing],
      graft_of_anchorIn?_eq_none h (if_neg hrange)⟩

/-- A later graft finds the call in the code of the first one. -/
theorem isInstalled_of_grafted {sdk : Sdk} (hlf : '\n' ∉ sdk.initCall) {d d' : Document} {t : Target}
    {c : Credentials} {a : Nat} {unit : Text} {e : Edit}
    (h : Grafted sdk d a (graftCode sdk d t c a unit) d' e) : isInstalled sdk d' = true := by
  obtain ⟨line, hm, hline⟩ := exists_call_in_snippet c hlf (Text.leading (d.lines.getD a []) ++ unit) unit
    (needsConstructor t)
  exact isInstalled_of_mem hlf (h.code_subset hm) hline

/-- The only way to an insertion: there is a line to put the code behind, and a unit to indent it by. -/
theorem exists_target_of_graft_inserted {plan : Plan} {d d' : Document} {target : Option Target}
    {c : Credentials} {e : Edit} (h : graft plan d target c = .ok (d', e)) (hins : e.outcome = .inserted) :
    ∃ t a unit, (target = some t ∧ t.anchor = (a : Nat)) ∧ a < d.lines.length ∧
      (detectUnit d.lines).or plan.defaultIndent = some unit ∧
      (d', e) = graftAt plan.sdk d t c a unit := by
  obtain ⟨e', hne, hgraft⟩ | ⟨f, hgraft⟩ | ⟨t, a, unit, ht, hanchor, ha, hunit, hgraft⟩ :=
    graft_cases plan d target
  · rw [hgraft] at h
    cases h
    exact absurd hins hne
  · rw [hgraft] at h
    cases h
  · rw [hgraft] at h
    exact ⟨t, a, unit, ⟨ht, hanchor⟩, ha, hunit, (Except.ok.inj h).symm⟩

theorem exists_of_graft_inserted {plan : Plan} {d d' : Document} {target : Option Target} {c : Credentials}
    {e : Edit} (h : graft plan d target c = .ok (d', e)) (hins : e.outcome = .inserted) :
    ∃ t a unit, target = some t ∧ a < d.lines.length ∧
      (detectUnit d.lines).or plan.defaultIndent = some unit ∧
      (d', e) = graftAt plan.sdk d t c a unit := by
  obtain ⟨t, a, unit, ⟨ht, -⟩, hrest⟩ := exists_target_of_graft_inserted h hins
  exact ⟨t, a, unit, ht, hrest⟩

/-- A graft leaves a document where it is. -/
theorem path_of_graft {plan : Plan} {d d' : Document} {target : Option Target} {c : Credentials} {e : Edit}
    (h : graft plan d target c = .ok (d', e)) : d'.path = d.path := by
  obtain ⟨e', -, hgraft⟩ | ⟨f, hgraft⟩ | ⟨t, a, unit, -, -, -, -, hgraft⟩ := graft_cases plan d target
  · rw [hgraft] at h
    cases h
    rfl
  · rw [hgraft] at h
    cases h
  · rw [hgraft] at h
    cases h
    rfl

/-- The whole effect of a graft. Where the call is there already, or no line is there to put it behind,
nothing changes. Otherwise, unless there is no unit to indent by or a name cannot be written, the code
goes behind the anchor and the import behind the last import, every line stays, in order, and no later
graft does anything. -/
theorem graft_effect (plan : Plan) (d : Document) (target : Option Target) (c : Credentials) :
    (isInstalled plan.sdk d = true → graft plan d target c = .ok (d, .nothing .alreadyPresent)) ∧
    (isInstalled plan.sdk d = false →
      (∀ t ∈ target, ¬ (0 ≤ t.anchor ∧ t.anchor < d.lines.length)) →
      graft plan d target c = .ok (d, .nothing .noAnchor)) ∧
    (isInstalled plan.sdk d = false → ∀ t ∈ target, ∀ a : Nat, t.anchor = a → a < d.lines.length →
      ((detectUnit d.lines).or plan.defaultIndent = none →
        graft plan d target c = .error .indentNotText) ∧
      ∀ unit, (detectUnit d.lines).or plan.defaultIndent = some unit →
        (plan.isWritable = false → graft plan d target c = .error .unwritable) ∧
        (plan.isWritable = true → ∃ d' e, graft plan d target c = .ok (d', e) ∧
          Grafted plan.sdk d a (graftCode plan.sdk d t c a unit) d' e ∧
          ('\n' ∉ plan.sdk.initCall → isInstalled plan.sdk d' = true ∧ ∀ target' c',
            graft plan d' target' c' = .ok (d', .nothing .alreadyPresent)))) := by
  refine ⟨fun h => graft_of_isInstalled h target c, fun h hout => ?_, fun h t ht a hta ha => ?_⟩
  · have hanchor : anchorIn? d.lines target = none := by
      cases target with
      | none => rfl
      | some t => exact if_neg (hout t rfl)
    exact graft_of_anchorIn?_eq_none h hanchor c
  · rw [Option.mem_def] at ht
    subst ht
    have hgraft := graft_of_anchor h hta ha c
    refine ⟨fun hunit => by rw [hgraft, hunit], fun unit hunit => ⟨fun hw => ?_, fun hw => ?_⟩⟩
    · rw [hgraft, hunit]
      exact if_neg (by simp [hw])
    · have hdone := grafted_insertLines plan.sdk d ha (graftCode plan.sdk d t c a unit)
      refine ⟨_, _, ?_, hdone, fun hlf => ?_⟩
      · rw [hgraft, hunit]
        exact if_pos hw
      · have hinstalled := isInstalled_of_grafted hlf hdone
        exact ⟨hinstalled, fun target' c' => graft_of_isInstalled hinstalled target' c'⟩

/-- In a callback without an import, both go in, the import on top. -/
theorem graft_effect_in_callback : ∃ d' e,
    graft Plan.byDefault ⟨[], ["func a() \x7b".toList, "\x7d".toList], .lf, false, []⟩ (some (.callback 0))
      ⟨"id".toList, "secret".toList, by decide, by decide⟩ = .ok (d', e) ∧ e.outcome = .inserted ∧
      e.importIndex = some 0 ∧
      ∀ target' c', graft Plan.byDefault d' target' c' = .ok (d', .nothing .alreadyPresent) := by
  have heffect := graft_effect Plan.byDefault ⟨[], ["func a() \x7b".toList, "\x7d".toList], .lf, false, []⟩
    (some (.callback 0)) ⟨"id".toList, "secret".toList, by decide, by decide⟩
  have hinserts := (heffect.2.2 (by decide) _ rfl 0 rfl (by decide)).2 "    ".toList (by decide)
  obtain ⟨d', e, hgraft, hgrafted, hlater⟩ := hinserts.2 rfl
  have himport := hgrafted.import_before 0 (by decide) (by decide) (by decide)
  exact ⟨d', e, hgraft, hgrafted.outcome, himport.1, (hlater (by decide)).2⟩

end SdkGraft.Source
