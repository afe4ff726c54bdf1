import SdkGraft.Proofs.Source.Neutrality

/-!
# The code of a grafted document

* `imported` : the lines with the import in its place; `importedIndex` : where the old lines stand then;
* `insertLines_eq` : an insertion puts the code into these lines, whether the import was there or not;
* `codeParts_imported` : their code; `openAfter_take_imported` : the comment state behind each old line;
* `GraftedCode`, `exists_graftedCode` : the code of a grafted document, `insertedCodes` what is new in it.

What is put in is code unless the line before it leaves a block comment open.
-/

namespace SdkGraft.Source

variable {sdk : Sdk} {lines : List Text}

/-! ## The lines with the import -/

/-- The lines with the import in its place, unless they had it. -/
def imported (moduleName : Text) (lines : List Text) : List Text :=
  if hasImport moduleName lines then lines
  else insertAt (importIndex lines) [importStatement moduleName] lines

/-- Where the line `j` stands then. -/
def importedIndex (moduleName : Text) (lines : List Text) (j : Nat) : Nat :=
  if hasImport moduleName lines then j else shiftFrom (importIndex lines) 1 j

/-- Where the new import stands, if there is one. -/
def importedAt? (moduleName : Text) (lines : List Text) : Option Nat :=
  if hasImport moduleName lines then none else some (importIndex lines)

theorem importedIndex_of_not_hasImport {moduleName : Text} (h : hasImport moduleName lines = false) :
    importedIndex moduleName lines = shiftFrom (importIndex lines) 1 := by
  funext j
  exact if_neg (by simp [h])

theorem importedIndex_lt (moduleName : Text) {j : Nat} (hj : j < lines.length) :
    importedIndex moduleName lines j < (imported moduleName lines).length := by
  unfold importedIndex imported
  split
  · exact hj
  · exact shiftFrom_lt_length_insertAt (importIndex_le lines) [importStatement moduleName] hj

theorem insertLines_eq (sdk : Sdk) (lines : List Text) (a : Nat) (code : List Text) :
    insertLines sdk lines a code =
      (insertAt (importedIndex sdk.moduleName lines a + 1) code (imported sdk.moduleName lines),
        ⟨.inserted, importedAt? sdk.moduleName lines, some (importedIndex sdk.moduleName lines a),
          code.length + if hasImport sdk.moduleName lines then 0 else 1⟩) := by
  unfold imported importedIndex importedAt?
  cases himport : hasImport sdk.moduleName lines with
  | true => exact insertLines_of_hasImport himport a code
  | false => exact insertLines_of_not_hasImport himport a code

/-! ## Their code -/

/-- The import, where it is new, is one more line of code, or none in a block comment. -/
theorem codeParts_imported (h : sdk.IsInert) (himport : hasImport sdk.moduleName lines = false) :
    codeParts (imported sdk.moduleName lines) =
      insertAt (importIndex lines)
        [(lineCode (openAfter false (lines.take (importIndex lines))) (importStatement sdk.moduleName)).1]
        (codeParts lines) := by
  unfold imported
  rw [if_neg (by simp [himport])]
  exact codePartsFrom_insertAt (deepens_importStatement h) (importIndex_le lines) false

theorem getElem?_codeParts_imported (h : sdk.IsInert) (lines : List Text) (j : Nat) :
    (codeParts (imported sdk.moduleName lines))[importedIndex sdk.moduleName lines j]? = (codeParts lines)[j]? := by
  cases himport : hasImport sdk.moduleName lines with
  | true =>
    unfold imported importedIndex
    rw [if_pos himport, if_pos himport]
  | false =>
    rw [codeParts_imported h himport, importedIndex_of_not_hasImport himport]
    exact getElem?_insertAt (afterLast_le isImport (codeParts lines)) _ j

/-- The import leaves the comment state behind every other line as it was. -/
theorem openAfter_take_imported (h : sdk.IsInert) (lines : List Text) (j : Nat) :
    openAfter false ((imported sdk.moduleName lines).take (importedIndex sdk.moduleName lines j + 1)) =
      openAfter false (lines.take (j + 1)) := by
  unfold imported importedIndex
  split
  · rfl
  · exact openAfter_take_insertAt (deepens_importStatement h) (importIndex_le lines) false j

/-! ## The grafted document -/

/-- What the lines of the inserted code are as code, if they follow a line that leaves a block comment
open or closed. -/
def insertedCodes (sdk : Sdk) (withConstructor inBlock : Bool) : List Text :=
  if inBlock then List.replicate (snippetCodes sdk withConstructor).length []
  else snippetCodes sdk withConstructor

@[simp] theorem length_insertedCodes (sdk : Sdk) (withConstructor inBlock : Bool) :
    (insertedCodes sdk withConstructor inBlock).length = (snippetCodes sdk withConstructor).length := by
  cases inBlock with
  | true => exact List.length_replicate
  | false => rfl

theorem getElem?_insertAt_snippetCodes {codes : List Text} {i : Nat} (hi : i ≤ codes.length) :
    (insertAt i (snippetCodes sdk true) codes)[i]? = some "init() \x7b".toList :=
  getElem?_insertAt_self hi (show 0 < (snippetCodes sdk true).length from Nat.succ_pos _)

theorem codePartsFrom_snippet_eq {base unit : Text} (hb : Text.isAllBlank base = true)
    (hu : Text.isAllBlank unit = true) (h : sdk.IsInert) (c : Credentials) (withConstructor inBlock : Bool) :
    codePartsFrom inBlock (snippet sdk c base unit withConstructor) =
      insertedCodes sdk withConstructor inBlock := by
  cases inBlock with
  | true => exact codePartsFrom_snippet_of_open c hb hu h withConstructor
  | false => exact codePartsFrom_snippet c hb hu h withConstructor

/-- What a graft behind line `a` makes of a document, told by codes: first the import is put in, if it is
new, then the inserted code behind the anchor. -/
structure GraftedCode (sdk : Sdk) (d : Document) (t : Target) (a : Nat) (d' : Document) (e : Edit) : Prop where
  importIndex : e.importIndex = importedAt? sdk.moduleName d.lines
  anchor : e.anchorIndex = some (importedIndex sdk.moduleName d.lines a)
  codeLength : e.codeLength = (snippetCodes sdk (needsConstructor t)).length
  survive : d'.lines[importedIndex sdk.moduleName d.lines a]? = d.lines[a]?
  codes : codeParts d'.lines =
    insertAt (importedIndex sdk.moduleName d.lines a + 1)
      (insertedCodes sdk (needsConstructor t) (openAfter false (d.lines.take (a + 1))))
      (codeParts (imported sdk.moduleName d.lines))

theorem graftedCode_graftAt (h : sdk.IsInert) {unit : Text} (hu : Text.isAllBlank unit = true) (d : Document)
    (t : Target) (c : Credentials) {a : Nat} (ha : a < d.lines.length) :
    GraftedCode sdk d t a (graftAt sdk d t c a unit).1 (graftAt sdk d t c a unit).2 := by
  have hbase := Text.isAllBlank_append (Text.isAllBlank_leading (d.lines.getD a [])) hu
  have hplace := importedIndex_lt sdk.moduleName ha
  have hlength : (graftCode sdk d t c a unit).length = (snippetCodes sdk (needsConstructor t)).length := by
    rw [← codePartsFrom_snippet c hbase hu h, codePartsFrom_length]
    rfl
  have hcodes := codePartsFrom_insertAt (fun inBlock => deepens_snippet c hbase hu h inBlock (needsConstructor t))
    (Nat.succ_le_of_lt hplace) false
  rw [openAfter_take_imported h, codePartsFrom_snippet_eq hbase hu h] at hcodes
  unfold graftAt
  rw [insertLines_eq]
  refine ⟨rfl, rfl, ?_, ?_, hcodes⟩
  · rw [← hlength]
    unfold Edit.codeLength importedAt?
    cases hasImport sdk.moduleName d.lines <;> rfl
  · have hgrafted := grafted_insertLines sdk d ha (graftCode sdk d t c a unit)
    have hsurvive := hgrafted.survive a
    have hanchor := hgrafted.anchor
    rw [insertLines_eq] at hsurvive hanchor
    rwa [← Option.some.inj hanchor] at hsurvive

/-- A graft that inserts does so behind the anchor of its target. -/
theorem exists_graftedCode {plan : Plan} {d d' : Document} {t : Target} {c : Credentials} {e : Edit}
    (hsdk : plan.sdk.IsInert) (hindent : ∀ unit ∈ plan.defaultIndent, Text.isAllBlank unit = true)
    (h : graft plan d (some t) c = .ok (d', e)) (hins : e.outcome = .inserted) :
    ∃ a : Nat, t.anchor = a ∧ a < d.lines.length ∧ GraftedCode plan.sdk d t a d' e := by
  obtain ⟨t', a, unit, ⟨ht, hanchor⟩, ha, hunit, hdone⟩ := exists_target_of_graft_inserted h hins
  cases ht
  have hd' : d' = (graftAt plan.sdk d t c a unit).1 := congrArg Prod.fst hdone
  have he : e = (graftAt plan.sdk d t c a unit).2 := congrArg Prod.snd hdone
  refine ⟨a, hanchor, ha, ?_⟩
  rw [hd', he]
  exact graftedCode_graftAt hsdk (isAllBlank_of_unit hindent hunit) d t c ha

end SdkGraft.Source
