import SdkGraft.Proofs.Source.GraftEffect
import SdkGraft.Proofs.Source.SnippetCode

/-!
# A graft leaves the rest of the code alone

* `bracesBefore` : how deep the braces are before a line;
* `AlikeUnder f` : the code of every line, and the braces before it, are those of the line that `f`
  takes it to (`AlikeUnder.trans`, `alikeUnder_insertAt`);
* `lexicalChars`, `deepens_import` : an import of a name without certain characters leaves comments and braces alone;
* `graft_neutral` : a graft is so for its old lines, whatever the credentials and the document are.
-/

namespace SdkGraft.Source

/-! ## Lines that are read alike -/

/-- How deep the braces are before the line `j`, counted from the top over code. -/
def bracesBefore (lines : List Text) (j : Nat) : Int :=
  (Braces.none.readAll ((codeParts lines).take j)).depth

/-- Every line has the code of the line that `f` takes it to, and as many open braces before it. -/
def AlikeUnder (f : Nat → Nat) (ls ms : List Text) : Prop :=
  ∀ j, (codeParts ms)[f j]? = (codeParts ls)[j]? ∧ bracesBefore ms (f j) = bracesBefore ls j

theorem AlikeUnder.trans {f g : Nat → Nat} {ls ms ns : List Text} (hf : AlikeUnder f ls ms)
    (hg : AlikeUnder g ms ns) : AlikeUnder (fun j => g (f j)) ls ns := fun j =>
  ⟨(hg (f j)).1.trans (hf j).1, (hg (f j)).2.trans (hf j).2⟩

/-- Lines that leave comments and braces as they find them can be put anywhere. -/
theorem alikeUnder_insertAt {xs ls : List Text} {i : Nat} (hi : i ≤ ls.length)
    (hx : ∀ inBlock, Deepens inBlock xs 0) :
    AlikeUnder (shiftFrom i xs.length) ls (insertAt i xs ls) := by
  intro j
  have hcode : codeParts (insertAt i xs ls) = insertAt i (codePartsFrom (openAfter false (ls.take i)) xs)
      (codeParts ls) := codePartsFrom_insertAt hx hi false
  have hlength : (codePartsFrom (openAfter false (ls.take i)) xs).length = xs.length :=
    codePartsFrom_length _ xs
  have hi' : i ≤ (codeParts ls).length := by rw [codeParts_length]; exact hi
  rw [bracesBefore, bracesBefore, hcode, ← hlength]
  exact ⟨getElem?_insertAt hi' _ j, readAll_take_insertAt hi' (hx _).depth j⟩

/-- The characters by which literals, comments and braces are told from other code. -/
def lexicalChars : List Char := ['"', '/', '*', '\x7b', '\x7d']

theorem forall_lexicalChars {p : Char → Prop} :
    (∀ ch ∈ lexicalChars, p ch) ↔ p '"' ∧ p '/' ∧ p '*' ∧ p '\x7b' ∧ p '\x7d' := by
  simp only [lexicalChars, List.forall_mem_cons, List.not_mem_nil, false_implies, implies_true, and_true]

section
variable {moduleName : Text} (h : ∀ ch ∈ lexicalChars, ch ∉ moduleName)
include h

theorem not_mem_importStatement : ∀ ch ∈ lexicalChars, ch ∉ importStatement moduleName := by
  have hword : ∀ ch ∈ lexicalChars, ch ∉ "import ".toList := forall_lexicalChars.2 (by decide)
  intro ch hch hin
  rcases List.mem_append.1 hin with hin | hin
  · exact hword ch hch hin
  · exact h ch hch hin

theorem bare_importStatement : bare (importStatement moduleName) = Text.trim (importStatement moduleName) :=
  bare_of_no_quote (not_mem_importStatement h '"' (by decide))

theorem not_mem_bare_importStatement : ∀ ch ∈ lexicalChars, ch ∉ bare (importStatement moduleName) := by
  intro ch hch hin
  rw [bare_importStatement h] at hin
  exact not_mem_importStatement h ch hch (Text.mem_of_mem_trim hin)

/-- An import is code without braces, and no comment begins or ends in it. -/
theorem deepens_import (inBlock : Bool) : Deepens inBlock [importStatement moduleName] 0 := by
  have hnot := not_mem_bare_importStatement h
  cases inBlock with
  | true =>
    refine deepens_of_no_star fun line hline => ?_
    rw [List.mem_singleton.1 hline]
    exact hnot '*' (by decide)
  | false =>
    have hdeep := deepens_of_no_slash (hnot '/' (by decide))
    rw [List.count_eq_zero.2 (hnot '\x7b' (by decide)), List.count_eq_zero.2 (hnot '\x7d' (by decide))] at hdeep
    exact hdeep

end

theorem deepens_importStatement {sdk : Sdk} (h : sdk.IsInert) (inBlock : Bool) :
    Deepens inBlock [importStatement sdk.moduleName] 0 := by
  apply deepens_import
  exact forall_lexicalChars.2
    ⟨h.quote.moduleName, h.slash.moduleName, h.star.moduleName, h.opening.moduleName, h.closing.moduleName⟩

theorem Plan.byDefault_isInert : Plan.byDefault.sdk.IsInert :=
  ⟨by decide, by decide, by decide, by decide, by decide, by decide⟩

/-! ## The graft -/

/-- Code and import that leave comments and braces alone can be put in anywhere, one after the other. -/
theorem alikeUnder_insertLines {sdk : Sdk} (h : sdk.IsInert) {lines code : List Text} {a : Nat}
    (ha : a < lines.length) (hcode : ∀ inBlock, Deepens inBlock code 0) :
    AlikeUnder (insertLines sdk lines a code).2.newIndex lines (insertLines sdk lines a code).1 := by
  cases himport : hasImport sdk.moduleName lines with
  | true =>
    rw [insertLines_of_hasImport himport]
    exact alikeUnder_insertAt ha hcode
  | false =>
    have hi := importIndex_le lines
    have hanchor := shiftFrom_lt_length_insertAt hi [importStatement sdk.moduleName] ha
    rw [insertLines_of_not_hasImport himport]
    exact (alikeUnder_insertAt hi (deepens_importStatement h)).trans (alikeUnder_insertAt hanchor hcode)

/-- A graft is lexically neutral: the old lines keep their order, their code and the braces that are
open before them, even where a block comment is open around what is put in. -/
theorem graft_neutral {plan : Plan} {d d' : Document} {target : Option Target} {c : Credentials} {e : Edit}
    (hsdk : plan.sdk.IsInert) (hindent : ∀ unit ∈ plan.defaultIndent, Text.isAllBlank unit = true)
    (h : graft plan d target c = .ok (d', e)) (hins : e.outcome = .inserted) :
    StrictMono e.newIndex ∧ ∀ j, d'.lines[e.newIndex j]? = d.lines[j]? ∧
      (codeParts d'.lines)[e.newIndex j]? = (codeParts d.lines)[j]? ∧
      bracesBefore d'.lines (e.newIndex j) = bracesBefore d.lines j := by
  obtain ⟨t, a, unit, -, ha, hunit, hdone⟩ := exists_of_graft_inserted h hins
  obtain ⟨rfl, rfl⟩ := Prod.mk.inj hdone
  have hgrafted := grafted_insertLines plan.sdk d ha (graftCode plan.sdk d t c a unit)
  have hblank := isAllBlank_of_unit hindent hunit
  have hbase := Text.isAllBlank_append (Text.isAllBlank_leading (d.lines.getD a [])) hblank
  have halike := alikeUnder_insertLines hsdk ha fun inBlock =>
    deepens_snippet c hbase hblank hsdk inBlock (needsConstructor t)
  exact ⟨hgrafted.ordered, fun j => ⟨hgrafted.survive j, halike j⟩⟩

/-- Even between lines of a comment, with credentials that look like comments and braces. -/
theorem graft_neutral_in_comment : ∃ d d' e,
    graft Plan.byDefault d (some (.callback 0)) ⟨"a/*".toList, "\x7d//".toList, by decide, by decide⟩ =
      .ok (d', e) ∧
    d.lines = ["/* \x7b".toList, "*/ func a() \x7b".toList, "\x7d".toList] ∧ e.outcome = .inserted ∧
    StrictMono e.newIndex ∧ ∀ j, d'.lines[e.newIndex j]? = d.lines[j]? ∧
      (codeParts d'.lines)[e.newIndex j]? = (codeParts d.lines)[j]? ∧
      bracesBefore d'.lines (e.newIndex j) = bracesBefore d.lines j := by
  obtain ⟨d', e, h, hins⟩ : ∃ d' e, graft Plan.byDefault
      ⟨[], ["/* \x7b".toList, "*/ func a() \x7b".toList, "\x7d".toList], .lf, false, []⟩ (some (.callback 0))
      ⟨"a/*".toList, "\x7d//".toList, by decide, by decide⟩ = .ok (d', e) ∧ e.outcome = .inserted :=
    ⟨_, _, rfl, rfl⟩
  exact ⟨_, d', e, h, rfl, hins, graft_neutral Plan.byDefault_isInert (by decide) h hins⟩

end SdkGraft.Source
