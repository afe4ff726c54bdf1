import SdkGraft.Proofs.Source.GraftCode
import SdkGraft.Proofs.Source.Injection

/-!
# Whether the inserted code is live

* `IsLive` : the constructor and the call are read as code where they stand;
* `isLive_insertAt` : they are so in the code of a document that no comment reaches into;
* `graft_isLive_or_comment` : inserted code is live if the anchor leaves no block comment open, and all of
  it is comment otherwise;
* `classify_graft_in_comment` : the search for the anchor does not see such a comment.
-/

namespace SdkGraft.Source

/-- From line `first` on, the codes are those of inserted code: the constructor, where there is one, and
the call. -/
structure IsLive (sdk : Sdk) (codes : List Text) (first : Nat) (withConstructor : Bool) : Prop where
  opening : withConstructor = true → codes[first]? = some "init() \x7b".toList
  call : ∃ code, codes[first + callOffset withConstructor]? = some code ∧
    "if ".toList ++ sdk.initCall ++ "(".toList <+: code

theorem callStart_prefix_bareCall (sdk : Sdk) : "if ".toList ++ sdk.initCall ++ "(".toList <+: bareCall sdk := by
  refine ⟨"clientID: \"\", clientSecret: \"\") == ".toList ++ (sdk.successCase ++ " \x7b".toList), ?_⟩
  unfold bareCall
  rw [show "(clientID: \"\", clientSecret: \"\") == ".toList =
    "(".toList ++ "clientID: \"\", clientSecret: \"\") == ".toList from rfl]
  simp only [List.append_assoc]

/-- The code of the inserted lines is live wherever it stands. -/
theorem isLive_insertAt (sdk : Sdk) {i : Nat} {codes : List Text} (hi : i ≤ codes.length) (withConstructor : Bool) :
    IsLive sdk (insertAt i (snippetCodes sdk withConstructor) codes) i withConstructor where
  opening := by
    rintro rfl
    exact getElem?_insertAt_snippetCodes hi
  call := by
    have hcall : (snippetCodes sdk withConstructor)[callOffset withConstructor]? = some (bareCall sdk) := by
      cases withConstructor <;> rfl
    obtain ⟨hlt, -⟩ := List.getElem?_eq_some_iff.1 hcall
    exact ⟨bareCall sdk, (getElem?_insertAt_self hi hlt).trans hcall, callStart_prefix_bareCall sdk⟩

/-- An empty line of code is not where the call stands. -/
theorem IsLive.ne_nil {sdk : Sdk} {codes : List Text} {first : Nat} {withConstructor : Bool}
    (h : IsLive sdk codes first withConstructor) : codes[first + callOffset withConstructor]? ≠ some [] := by
  intro hnil
  obtain ⟨code, hcode, rest, hrest⟩ := h.call
  rw [hnil] at hcode
  cases hcode
  cases hrest

/-- The inserted code is live if the line before it leaves no block comment open. Otherwise the comment
swallows all of it, although it is told to be inserted. -/
theorem graft_isLive_or_comment {plan : Plan} {d d' : Document} {t : Target} {c : Credentials} {e : Edit}
    (hsdk : plan.sdk.IsInert) (hindent : ∀ unit ∈ plan.defaultIndent, Text.isAllBlank unit = true)
    (h : graft plan d (some t) c = .ok (d', e)) (hins : e.outcome = .inserted) :
    ∃ a anchor : Nat, t.anchor = a ∧ e.anchorIndex = some anchor ∧ d'.lines[anchor]? = d.lines[a]? ∧
      (openAfter false (d.lines.take (a + 1)) = false →
        IsLive plan.sdk (codeParts d'.lines) (anchor + 1) (needsConstructor t)) ∧
      (openAfter false (d.lines.take (a + 1)) = true →
        ∀ j < e.codeLength, (codeParts d'.lines)[anchor + 1 + j]? = some []) := by
  obtain ⟨a, hanchor, ha, hgrafted⟩ := exists_graftedCode hsdk hindent h hins
  have hplace : importedIndex plan.sdk.moduleName d.lines a + 1 ≤
      (codeParts (imported plan.sdk.moduleName d.lines)).length := by
    rw [codeParts_length]
    exact importedIndex_lt plan.sdk.moduleName ha
  refine ⟨a, _, hanchor, hgrafted.anchor, hgrafted.survive, fun hopen => ?_, fun hopen j hj => ?_⟩
  · rw [hgrafted.codes, hopen]
    exact isLive_insertAt plan.sdk hplace (needsConstructor t)
  · rw [hgrafted.codeLength] at hj
    have hcode : (insertedCodes plan.sdk (needsConstructor t) true)[j]? = some [] :=
      List.getElem?_replicate_of_lt hj
    rw [hgrafted.codes, hopen, getElem?_insertAt_self hplace (by rwa [length_insertedCodes]), hcode]

/-- The block comment that ends before the anchor ends leaves the code behind it live. -/
theorem graft_isLive_behind_comment : ∃ d d' e,
    graft Plan.byDefault d (some ⟨.annotatedRoot, 1, false, none⟩)
      ⟨"id".toList, "*/".toList, by decide, by decide⟩ = .ok (d', e) ∧ e.outcome = .inserted ∧
    d.lines = ["@main /* the root".toList, "*/ struct DemoApp: App \x7b // /*".toList, "\x7d".toList] ∧
    e.anchorIndex = some 2 ∧ IsLive Plan.byDefault.sdk (codeParts d'.lines) 3 true := by
  obtain ⟨d', e, h, hins, hanchor⟩ : ∃ d' e, graft Plan.byDefault
      ⟨[], ["@main /* the root".toList, "*/ struct DemoApp: App \x7b // /*".toList, "\x7d".toList], .lf, false, []⟩
      (some ⟨.annotatedRoot, 1, false, none⟩) ⟨"id".toList, "*/".toList, by decide, by decide⟩ = .ok (d', e) ∧
      e.outcome = .inserted ∧ e.anchorIndex = some 2 := ⟨_, _, rfl, rfl, rfl⟩
  obtain ⟨a, anchor, ha, he, -, hlive, -⟩ :=
    graft_isLive_or_comment Plan.byDefault_isInert (by decide) h hins
  cases hanchor.symm.trans he
  cases ha
  exact ⟨_, d', e, h, hins, rfl, hanchor, hlive (by decide)⟩

/-- The search finds a root whose line begins a block comment that ends in a later line, and the code is
inserted into the comment. -/
theorem classify_graft_in_comment :
    let lines := ["@main".toList, "struct DemoApp: App \x7b /* the root".toList, "   of the app */".toList,
      "\x7d".toList]
    ∃ p t d' e, Settings.byDefault.patterns = .ok p ∧ Settings.byDefault.plan = .ok Plan.byDefault ∧
      classify p none lines = some t ∧
      graft Plan.byDefault ⟨[], lines, .lf, false, []⟩ (some t)
        ⟨"id".toList, "secret".toList, by decide, by decide⟩ = .ok (d', e) ∧
      e.outcome = .inserted ∧ e.anchorIndex = some 2 ∧
      (codeParts d'.lines)[3]? = some [] ∧
      ¬ IsLive Plan.byDefault.sdk (codeParts d'.lines) 3 (needsConstructor t) := by
  intro lines
  obtain ⟨d', e, h, hins, hanchor⟩ : ∃ d' e, graft Plan.byDefault ⟨[], lines, .lf, false, []⟩
      (some ⟨.annotatedRoot, 1, false, none⟩) ⟨"id".toList, "secret".toList, by decide, by decide⟩ = .ok (d', e) ∧
      e.outcome = .inserted ∧ e.anchorIndex = some 2 := ⟨_, _, rfl, rfl, rfl⟩
  obtain ⟨a, ha, -, hgrafted⟩ := exists_graftedCode Plan.byDefault_isInert (by decide) h hins
  cases ha
  have hopening : (codeParts d'.lines)[3]? = some [] := by rw [hgrafted.codes]; rfl
  have hcall : (codeParts d'.lines)[4]? = some [] := by rw [hgrafted.codes]; rfl
  exact ⟨_, _, d', e, rfl, rfl, rfl, h, hins, hanchor, hopening, fun hlive => hlive.ne_nil hcall⟩

end SdkGraft.Source
