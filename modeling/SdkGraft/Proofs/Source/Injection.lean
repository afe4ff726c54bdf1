import SdkGraft.Proofs.Source.GraftEffect
import SdkGraft.Proofs.Source.SnippetCode

/-!
# Credentials cannot inject code

* `SameButCall` : two lists of lines that are the same code and differ in one line, which holds the
  credentials as its literals;
* `sameButCall_insertAt` : inserted codes for two credentials are so, wherever they are put;
* `graft_credentials` : two grafts into one document with two credentials come out alike.
-/

namespace SdkGraft.Source

/-! ## One line apart -/

theorem getElem?_append_cons_of_ne {α : Type} (before after : List α) (x y : α) {j : Nat}
    (h : j ≠ before.length) : (before ++ x :: after)[j]? = (before ++ y :: after)[j]? := by
  rcases Nat.lt_or_gt_of_ne h with hlt | hgt
  · rw [List.getElem?_append_left hlt, List.getElem?_append_left hlt]
  · obtain ⟨k, hk⟩ : ∃ k, j - before.length = k + 1 := ⟨j - before.length - 1, by omega⟩
    rw [List.getElem?_append_right (by omega), List.getElem?_append_right (by omega), hk,
      List.getElem?_cons_succ, List.getElem?_cons_succ]

/-- The lines are the same code and differ at most in the line `k`; the literals of that line are the
credentials, word for word. -/
structure SameButCall (k : Nat) (c c' : Credentials) (ls ms : List Text) : Prop where
  length : ls.length = ms.length
  others : ∀ j, j ≠ k → ls[j]? = ms[j]?
  code : codeParts ls = codeParts ms
  call : ∃ l ∈ ls[k]?, literals l = [c.clientId, c.clientSecret]
  call' : ∃ m ∈ ms[k]?, literals m = [c'.clientId, c'.clientSecret]

def callOffset (withConstructor : Bool) : Nat := if withConstructor then 1 else 0

theorem length_openingLines (base : Text) (withConstructor : Bool) :
    (openingLines base withConstructor).length = callOffset withConstructor := by
  cases withConstructor <;> rfl

theorem no_quote_of_isAllBlank {t : Text} (h : Text.isAllBlank t = true) : '"' ∉ t := fun hm =>
  absurd (Text.isBlank_of_mem h hm) (by decide)

/-- Wherever the inserted code is put, the credentials are in one line of it, and in literals there. -/
theorem sameButCall_insertAt {sdk : Sdk} (hquote : sdk.Lacks '"') (hlf : sdk.Lacks '\n')
    {base unit : Text} (hb : Text.isAllBlank base = true) (hu : Text.isAllBlank unit = true)
    (c c' : Credentials) (withConstructor : Bool) {i : Nat} {ls : List Text} (hi : i ≤ ls.length) :
    SameButCall (i + callOffset withConstructor) c c'
      (insertAt i (snippet sdk c base unit withConstructor) ls)
      (insertAt i (snippet sdk c' base unit withConstructor) ls) := by
  have hmargin : Text.isAllBlank (callMargin base unit withConstructor) = true := by
    cases withConstructor with
    | false => exact hb
    | true => exact Text.isAllBlank_append hb hu
  have hbare := map_bare_snippet hb hu hquote hlf c c' withConstructor
  obtain ⟨after, hsnippet⟩ := snippet_eq_around hlf base unit withConstructor
  have hplace : (ls.take i ++ openingLines base withConstructor).length = i + callOffset withConstructor := by
    rw [List.length_append, List.length_take, Nat.min_eq_left hi, length_openingLines]
  have hinsert : ∀ c, insertAt i (snippet sdk c base unit withConstructor) ls =
      (ls.take i ++ openingLines base withConstructor) ++
        (callMargin base unit withConstructor ++ callLine sdk c) :: (after ++ ls.drop i) := fun c => by
    rw [insertAt, hsnippet c]
    simp only [List.append_assoc, List.cons_append]
  have hcall : ∀ c, (insertAt i (snippet sdk c base unit withConstructor) ls)[
      i + callOffset withConstructor]? = some (callMargin base unit withConstructor ++ callLine sdk c) :=
    fun c => by
      rw [hinsert c, ← hplace, List.getElem?_append_right (Nat.le_refl _), Nat.sub_self]
      rfl
  exact {
    length := by rw [hinsert c, hinsert c']; simp
    others := fun j hj => by
      rw [hinsert c, hinsert c']
      exact getElem?_append_cons_of_ne _ _ _ _ (by rw [hplace]; exact hj)
    code := by
      refine (codePartsFrom_eq_of_bare ?_ false).1
      rw [insertAt, insertAt, List.map_append, List.map_append, hbare, ← List.map_append, ← List.map_append]
    call := ⟨_, hcall c, literals_callLine c hquote (no_quote_of_isAllBlank hmargin)⟩
    call' := ⟨_, hcall c', literals_callLine c' hquote (no_quote_of_isAllBlank hmargin)⟩ }

/-! ## Two grafts -/

/-- Grafts into the same document with different credentials fail alike, or do nothing alike, or put in
lines that differ in the call only: there the literals are the credentials, and all the rest is the same
code at the same place. -/
theorem graft_credentials {plan : Plan} (hquote : plan.sdk.Lacks '"') (hlf : plan.sdk.Lacks '\n')
    (hindent : ∀ unit ∈ plan.defaultIndent, Text.isAllBlank unit = true) (d : Document)
    (target : Option Target) (c c' : Credentials) :
    (∃ f, graft plan d target c = .error f ∧ graft plan d target c' = .error f) ∨
    (∃ e, e.outcome ≠ .inserted ∧ graft plan d target c = .ok (d, e) ∧
      graft plan d target c' = .ok (d, e)) ∨
    ∃ d₁ d₂ e t a, graft plan d target c = .ok (d₁, e) ∧ graft plan d target c' = .ok (d₂, e) ∧
      e.outcome = .inserted ∧ target = some t ∧ e.anchorIndex = some a ∧
      d₁ = { d with lines := d₁.lines } ∧ d₂ = { d with lines := d₂.lines } ∧
      SameButCall (a + 1 + callOffset (needsConstructor t)) c c' d₁.lines d₂.lines := by
  obtain ⟨e, hne, hgraft⟩ | ⟨f, hgraft⟩ | ⟨t, a, unit, ht, -, ha, hunit, hgraft⟩ := graft_cases plan d target
  · exact .inr (.inl ⟨e, hne, hgraft c, hgraft c'⟩)
  · exact .inl ⟨f, hgraft c, hgraft c'⟩
  · have hblank := isAllBlank_of_unit hindent hunit
    have hbase := Text.isAllBlank_append (Text.isAllBlank_leading (d.lines.getD a [])) hblank
    have hlength := length_snippet hbase hblank hquote hlf c c' (needsConstructor t)
    obtain ⟨withImport, index, anchor, added, hanchor, hinsert⟩ := exists_insertLines plan.sdk ha
    have hsame := sameButCall_insertAt hquote hlf hbase hblank c c' (needsConstructor t)
      (Nat.succ_le_of_lt hanchor)
    have hdone : ∀ c, graft plan d target c = .ok
        ({ d with lines := insertAt (anchor + 1) (graftCode plan.sdk d t c a unit) withImport },
          ⟨.inserted, index, some anchor, (graftCode plan.sdk d t c a unit).length + added⟩) := fun c => by
      rw [hgraft c, graftAt, hinsert]
    have hcode : (graftCode plan.sdk d t c' a unit).length = (graftCode plan.sdk d t c a unit).length :=
      hlength.symm
    have hdone' := hdone c'
    rw [hcode] at hdone'
    exact .inr (.inr ⟨_, _, _, t, anchor, hdone c, hdone', rfl, ht, rfl, rfl, rfl, hsame⟩)

/-- In a root that gets a constructor, credentials that look like templates stay in their literals. -/
theorem graft_credentials_in_constructor : ∃ d₁ d₂ e,
    graft Plan.byDefault ⟨[], ["struct A \x7b".toList, "\x7d".toList], .lf, false, []⟩
      (some ⟨.annotatedRoot, 0, false, none⟩) ⟨"\x7bbody\x7d".toList, "//".toList, by decide, by decide⟩ =
      .ok (d₁, e) ∧
    graft Plan.byDefault ⟨[], ["struct A \x7b".toList, "\x7d".toList], .lf, false, []⟩
      (some ⟨.annotatedRoot, 0, false, none⟩) ⟨"id".toList, "secret".toList, by decide, by decide⟩ =
      .ok (d₂, e) ∧
    e.anchorIndex = some 1 ∧
    SameButCall 3 ⟨"\x7bbody\x7d".toList, "//".toList, by decide, by decide⟩
      ⟨"id".toList, "secret".toList, by decide, by decide⟩ d₁.lines d₂.lines := by
  obtain ⟨f, h, -⟩ | ⟨e, -, h, -⟩ | ⟨d₁, d₂, e, t, a, h, h', -, ht, ha, -, -, hsame⟩ :=
    graft_credentials (show Plan.byDefault.sdk.Lacks '"' by decide) (by decide) (by decide)
      ⟨[], ["struct A \x7b".toList, "\x7d".toList], .lf, false, []⟩ (some ⟨.annotatedRoot, 0, false, none⟩)
      ⟨"\x7bbody\x7d".toList, "//".toList, by decide, by decide⟩
      ⟨"id".toList, "secret".toList, by decide, by decide⟩
  · cases h
  · cases h
  · cases ht
    cases h
    cases ha
    exact ⟨_, d₂, _, rfl, h', rfl, hsame⟩

end SdkGraft.Source
