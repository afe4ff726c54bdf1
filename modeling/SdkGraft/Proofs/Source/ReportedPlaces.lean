import SdkGraft.Proofs.Source.EnsuredImport
import SdkGraft.Proofs.Source.Growth

/-!
# The places an edit reports

* `without` : a list without the elements at some places (`without_around`);
* `ImportStandsAt` : a line of the new document is the import that was put in, and with it and the code behind the
  anchor gone the old lines are left;
* `graft_reportedPlaces` : the import stands at the reported place if that place is not behind the anchor; otherwise
  it stands further down, by the length of the code, and not at the reported place;
* `graft_misplaces_import` : a file whose last import is behind the anchor.
-/

namespace SdkGraft.Source

/-! ## Elements at some places -/

section
variable {α : Type}

/-- The list without the elements at the places that `gone` holds of. -/
def without (gone : Nat → Bool) : List α → List α
  | [] => []
  | x :: xs =>
    let rest := without (fun j => gone (j + 1)) xs
    if gone 0 then rest else x :: rest

variable {gone : Nat → Bool}

theorem without_append (xs ys : List α) :
    without gone (xs ++ ys) = without gone xs ++ without (fun j => gone (xs.length + j)) ys := by
  induction xs generalizing gone with
  | nil => simp [without]
  | cons x xs ih =>
    have hplace : ∀ j, xs.length + j + 1 = (x :: xs).length + j := fun j => by
      rw [List.length_cons]
      omega
    simp only [List.cons_append, without, ih, hplace]
    split <;> rfl

theorem without_eq_self {xs : List α} (h : ∀ j < xs.length, gone j = false) : without gone xs = xs := by
  induction xs generalizing gone with
  | nil => rfl
  | cons x xs ih =>
    have hrest := ih fun j hj => h (j + 1) (Nat.succ_lt_succ hj)
    simp [without, h 0 (Nat.zero_lt_succ _), hrest]

theorem without_eq_nil {xs : List α} (h : ∀ j < xs.length, gone j = true) : without gone xs = [] := by
  induction xs generalizing gone with
  | nil => rfl
  | cons x xs ih =>
    have hrest := ih fun j hj => h (j + 1) (Nat.succ_lt_succ hj)
    simp [without, h 0 (Nat.zero_lt_succ _), hrest]

theorem without_around {front one between two back : List α}
    (h : ∀ j, gone j = true ↔ (front.length ≤ j ∧ j < (front ++ one).length) ∨
      ((front ++ one ++ between).length ≤ j ∧ j < (front ++ one ++ between ++ two).length)) :
    without gone (front ++ one ++ between ++ two ++ back) = front ++ between ++ back := by
  simp only [List.length_append] at h
  have hfront : without gone front = front :=
    without_eq_self fun j hj => Bool.eq_false_iff.2 fun hgone => by have := (h _).1 hgone; omega
  have hone : without (fun j => gone (front.length + j)) one = [] :=
    without_eq_nil fun j hj => (h _).2 (by omega)
  have hbetween : without (fun j => gone ((front ++ one).length + j)) between = between :=
    without_eq_self fun j hj => Bool.eq_false_iff.2 fun hgone => by
      rw [List.length_append] at hgone
      have := (h _).1 hgone
      omega
  have htwo : without (fun j => gone ((front ++ one ++ between).length + j)) two = [] :=
    without_eq_nil fun j hj => (h _).2 (by simp only [List.length_append]; omega)
  have hback : without (fun j => gone ((front ++ one ++ between ++ two).length + j)) back = back :=
    without_eq_self fun j hj => Bool.eq_false_iff.2 fun hgone => by
      simp only [List.length_append] at hgone
      have := (h _).1 hgone
      omega
  rw [without_append, without_append, without_append, without_append, hfront, hone, hbetween, htwo, hback,
    List.append_nil, List.append_nil]

end

/-! ## The import -/

/-- The lines that an edit has put in: one at `place`, the others directly behind the anchor. -/
def Edit.putIn (e : Edit) (anchor place j : Nat) : Bool :=
  j == place || (anchor < j && j ≤ anchor + (e.linesAdded - 1))

theorem Edit.putIn_iff {e : Edit} {anchor place j : Nat} : e.putIn anchor place j = true ↔
    j = place ∨ (anchor < j ∧ j ≤ anchor + (e.linesAdded - 1)) := by
  simp [Edit.putIn]

/-- The line of the new document at `place` is the import, and without it and without the other lines that the edit
has put in, directly behind the anchor, the new document has the lines of the old one. -/
structure ImportStandsAt (sdk : Sdk) (d d' : Document) (e : Edit) (anchor place : Nat) : Prop where
  statement : d'.lines[place]? = some (importStatement sdk.moduleName)
  left : without (e.putIn anchor place) d'.lines = d.lines

theorem getElem?_codeParts_of_getElem? {lines : List Text} {j : Nat} {line : Text} (h : lines[j]? = some line) :
    (codeParts lines)[j]? = some (lineCode (openAfter false (lines.take j)) line).1 := by
  obtain ⟨hj, rfl⟩ := List.getElem?_eq_some_iff.1 h
  have hdrop := (codePartsFrom_take_drop false (Nat.le_of_lt hj)).2
  rw [List.drop_eq_getElem_cons hj] at hdrop
  have hhead : ((codeParts lines).drop j)[0]? = some (lineCode (openAfter false (lines.take j)) lines[j]).1 := by
    rw [codeParts, ← hdrop]
    rfl
  rwa [List.getElem?_drop, Nat.add_zero] at hhead

/-- Where a module is not imported, no import of it is the last one, in a comment or not. -/
theorem getElem?_ne_of_importIndex {moduleName : Text} (hword : IsWord moduleName) {lines : List Text}
    (himport : hasImport moduleName lines = false) {j : Nat} (hj : importIndex lines = j + 1) :
    lines[j]? ≠ some (importStatement moduleName) := by
  intro hline
  obtain ⟨code, hcode, hisImport⟩ := (isAfterLast_afterLast isImport (codeParts lines)).last j hj
  have hfound := getElem?_codeParts_of_getElem? hline
  rw [hfound] at hcode
  cases hblock : openAfter false (lines.take j) with
  | true =>
    rw [hblock, hword.lineCode_true] at hcode
    rw [← Option.some.inj hcode] at hisImport
    cases hisImport
  | false =>
    rw [hblock, hword.lineCode_false] at hfound
    rw [hasImport, List.any_eq_false] at himport
    exact himport _ (List.mem_of_getElem? hfound) (importsModule_importStatement moduleName)

section
variable {sdk : Sdk} {d d' : Document} {a : Nat} {code : List Text} {e : Edit}

/-- In front of the anchor the import stands where it was put. -/
theorem Grafted.importStandsAt_of_le (h : Grafted sdk d a code d' e) (hadded : e.linesAdded = code.length + 1)
    (himport : hasImport sdk.moduleName d.lines = false) (ha : a < d.lines.length)
    (hia : importIndex d.lines ≤ a) : ImportStandsAt sdk d d' e (a + 1) (importIndex d.lines) := by
  obtain ⟨-, hlines⟩ := h.import_before _ himport rfl hia
  generalize importIndex d.lines = i at hia hlines
  have hfront : (d.lines.take i).length = i := by rw [List.length_take]; omega
  have hbetween : ((d.lines.take (a + 1)).drop i).length = a + 1 - i := by
    rw [List.length_drop, List.length_take]
    omega
  refine ⟨?_, ?_⟩
  · rw [hlines, List.append_assoc, List.append_assoc, List.append_assoc, List.getElem?_append_right (by omega), hfront,
      Nat.sub_self]
    rfl
  · rw [hlines, without_around fun j => ?_, take_append_drop_take (by omega), List.take_append_drop]
    rw [Edit.putIn_iff, hadded]
    simp only [List.length_append, List.length_singleton, hfront, hbetween]
    omega

/-- The code goes behind the first piece of the lines, and the import, where it is not in front of the anchor, behind
the second. -/
theorem Grafted.exists_pieces (h : Grafted sdk d a code d' e) (himport : hasImport sdk.moduleName d.lines = false)
    (hai : a < importIndex d.lines) : ∃ front between back, front.length = a + 1 ∧
      (front ++ between).length = importIndex d.lines ∧ d.lines = front ++ between ++ back ∧
      d'.lines = front ++ code ++ between ++ [importStatement sdk.moduleName] ++ back := by
  have hle := importIndex_le d.lines
  obtain ⟨-, hlines⟩ := h.import_after _ himport rfl hai
  have hjoin : d.lines.take (a + 1) ++ (d.lines.take (importIndex d.lines)).drop (a + 1) =
      d.lines.take (importIndex d.lines) := take_append_drop_take (Nat.succ_le_of_lt hai)
  refine ⟨_, _, _, ?_, ?_, ?_, hlines⟩
  · rw [List.length_take]
    omega
  · rw [hjoin, List.length_take, Nat.min_eq_left hle]
  · rw [hjoin, List.take_append_drop]

theorem Grafted.importStandsAt_of_lt (h : Grafted sdk d a code d' e) (hadded : e.linesAdded = code.length + 1)
    (himport : hasImport sdk.moduleName d.lines = false) (hai : a < importIndex d.lines) :
    ImportStandsAt sdk d d' e a (importIndex d.lines + code.length) := by
  obtain ⟨front, between, back, hfront, hindex, hold, hnew⟩ := h.exists_pieces himport hai
  rw [List.length_append] at hindex
  refine ⟨?_, ?_⟩
  · have hbefore : (front ++ code ++ between).length = importIndex d.lines + code.length := by
      rw [List.length_append, List.length_append]
      omega
    rw [hnew, List.append_assoc, List.getElem?_append_right (by omega), hbefore, Nat.sub_self]
    rfl
  · rw [hnew, without_around fun j => ?_, hold]
    rw [Edit.putIn_iff, hadded]
    simp only [List.length_append, List.length_singleton]
    omega

/-- Behind the anchor, the import does not stand where it would without the code. -/
theorem Grafted.not_importStandsAt (h : Grafted sdk d a code d' e) (hadded : e.linesAdded = code.length + 1)
    (himport : hasImport sdk.moduleName d.lines = false) (hai : a < importIndex d.lines)
    (hword : IsWord sdk.moduleName) (hcode : code ≠ []) : ¬ ImportStandsAt sdk d d' e a (importIndex d.lines) := by
  rintro ⟨-, hleft⟩
  obtain ⟨front, between, back, hfront, hindex, hold, hnew⟩ := h.exists_pieces himport hai
  rw [List.length_append] at hindex
  have hpos : 0 < code.length := List.length_pos_iff.2 hcode
  rw [hnew] at hleft
  rcases Nat.lt_or_ge (a + code.length) (importIndex d.lines) with hlt | hle
  · -- The place is that of an old line. With that line gone the import is the line before it, as the last import was.
    obtain ⟨before, line, after, rfl, hbefore⟩ : ∃ before line after, between = before ++ line :: after ∧
        before.length = importIndex d.lines - (a + 1 + code.length) := by
      have hk : importIndex d.lines - (a + 1 + code.length) < between.length := by omega
      exact ⟨_, _, _, by rw [List.getElem_cons_drop hk, List.take_append_drop],
        List.length_take_of_le (Nat.le_of_lt hk)⟩
    have hpieces : front ++ code ++ (before ++ line :: after) ++ [importStatement sdk.moduleName] ++ back =
        front ++ code ++ before ++ [line] ++ (after ++ [importStatement sdk.moduleName] ++ back) := by simp
    rw [hpieces, without_around fun j => ?_] at hleft
    · obtain ⟨j, hj⟩ : ∃ j, importIndex d.lines = j + 1 := ⟨importIndex d.lines - 1, by omega⟩
      refine getElem?_ne_of_importIndex hword himport hj ?_
      rw [List.length_append, List.length_cons] at hindex
      have hplace : (front ++ before ++ after).length = j := by
        rw [List.length_append, List.length_append]
        omega
      rw [← hleft, ← List.append_assoc, ← List.append_assoc, List.append_assoc,
        List.getElem?_append_right (by omega), hplace, Nat.sub_self]
      rfl
    · rw [Edit.putIn_iff, hadded]
      simp only [List.length_append, List.length_singleton]
      omega
  · -- The place is in the code. With the code gone the import is one line too many.
    have hpieces : front ++ code ++ between ++ [importStatement sdk.moduleName] ++ back =
        front ++ code ++ [] ++ [] ++ (between ++ [importStatement sdk.moduleName] ++ back) := by simp
    rw [hpieces, without_around fun j => ?_] at hleft
    · have hlength := congrArg List.length (hleft.trans hold)
      simp only [List.length_append, List.length_singleton, List.length_nil] at hlength
      omega
    · rw [Edit.putIn_iff, hadded]
      simp only [List.length_append, List.length_nil]
      omega

end

/-! ## The report -/

/-- An edit that has put in code reports its anchor. A new import stands at the reported place, and the other new
lines behind the anchor, unless that place is behind the anchor itself: then the import stands further down, by as
many lines as the code has, and the reported place is wrong. -/
theorem graft_reportedPlaces {plan : Plan} {d d' : Document} {target : Option Target} {c : Credentials} {e : Edit}
    (h : graft plan d target c = .ok (d', e)) (hinserted : e.outcome = .inserted) :
    ∃ a, e.anchorIndex = some a ∧ ∀ i, e.importIndex = some i → 1 < e.linesAdded ∧
      (i ≤ a → ImportStandsAt plan.sdk d d' e a i) ∧
      (a < i → ImportStandsAt plan.sdk d d' e a (i + (e.linesAdded - 1)) ∧
        (IsWord plan.sdk.moduleName → ¬ ImportStandsAt plan.sdk d d' e a i)) := by
  obtain ⟨t, a, unit, -, ha, -, hgraft⟩ := exists_target_of_graft_inserted h hinserted
  obtain ⟨rfl, rfl⟩ := Prod.ext_iff.1 hgraft
  have hcode := graftCode_ne_nil plan.sdk d t c a unit
  have hgrafted := grafted_insertLines plan.sdk d ha (graftCode plan.sdk d t c a unit)
  simp only [graftAt]
  generalize graftCode plan.sdk d t c a unit = code at hcode hgrafted ⊢
  cases himport : hasImport plan.sdk.moduleName d.lines with
  | true =>
    rw [insertLines_of_hasImport himport]
    exact ⟨a, rfl, fun i hi => by cases hi⟩
  | false =>
    rw [insertLines_of_not_hasImport himport] at hgrafted ⊢
    refine ⟨_, rfl, fun i hi => ?_⟩
    obtain rfl := Option.some.inj hi
    have hpos : 0 < code.length := List.length_pos_iff.2 hcode
    refine ⟨Nat.succ_lt_succ hpos, ?_⟩
    rcases Nat.lt_or_ge a (importIndex d.lines) with hlt | hle
    · rw [shiftFrom_of_lt hlt] at hgrafted ⊢
      exact ⟨fun hle => absurd hlt (Nat.not_lt.2 hle), fun _ => ⟨hgrafted.importStandsAt_of_lt rfl himport hlt,
        fun hword => hgrafted.not_importStandsAt rfl himport hlt hword hcode⟩⟩
    · rw [shiftFrom_of_le hle] at hgrafted ⊢
      exact ⟨fun _ => hgrafted.importStandsAt_of_le rfl himport ha hle,
        fun hlt => absurd hle (Nat.not_le.2 (by omega))⟩

/-- A callback in front of the only import. -/
def importBehindCallback : Document where
  path := "A.swift".toList
  lines := ["func application(didFinishLaunchingWithOptions) \x7b".toList, "\x7d".toList, "import UIKit".toList]
  ending := .lf
  hasMark := false
  asRead := []

theorem problem?_id : Credential.problem? "id".toList = none := by decide

theorem problem?_secret : Credential.problem? "secret".toList = none := by decide

/-- Credentials without anything to escape. -/
def plainCredentials : Credentials := ⟨"id".toList, "secret".toList, problem?_id, problem?_secret⟩

def importBehindGraft : Document × Edit :=
  graftAt Plan.byDefault.sdk importBehindCallback (.callback 0) plainCredentials 0 "    ".toList

theorem graft_importBehindCallback :
    graft Plan.byDefault importBehindCallback (some (.callback 0)) plainCredentials =
      .ok (importBehindGraft.1, importBehindGraft.2) := rfl

theorem edit_importBehindGraft : importBehindGraft.2 = ⟨.inserted, some 3, some 0, 7⟩ := by decide +kernel

/-- Six lines of code go in front of the import, so it is line 9 and not line 3. -/
theorem graft_reportedPlaces_behind_anchor :
    importBehindGraft.2 = ⟨.inserted, some 3, some 0, 7⟩ ∧
      ImportStandsAt Plan.byDefault.sdk importBehindCallback importBehindGraft.1 importBehindGraft.2 0 9 ∧
      ¬ ImportStandsAt Plan.byDefault.sdk importBehindCallback importBehindGraft.1 importBehindGraft.2 0 3 := by
  have hedit := edit_importBehindGraft
  obtain ⟨a, ha, hplaces⟩ := graft_reportedPlaces graft_importBehindCallback (by rw [hedit])
  rw [hedit] at ha hplaces ⊢
  obtain rfl : 0 = a := Option.some.inj ha
  obtain ⟨-, -, hbehind⟩ := hplaces 3 rfl
  obtain ⟨hstands, hnot⟩ := hbehind (by decide)
  exact ⟨rfl, hstands, hnot ⟨by decide, by decide⟩⟩

/-- The report is wrong there: the line that it names is one of the code. -/
theorem graft_misplaces_import :
    graft Plan.byDefault importBehindCallback (some (.callback 0)) plainCredentials =
        .ok (importBehindGraft.1, importBehindGraft.2) ∧
      importBehindGraft.2 = ⟨.inserted, some 3, some 0, 7⟩ ∧
      importBehindGraft.1.lines[3]? =
        some "        //  Plengi.setEchoCode(echoCode: \"<customer user identifier, no personal data>\")".toList ∧
      importBehindGraft.1.lines[3]? ≠ some (importStatement Plan.byDefault.sdk.moduleName) := by
  have hline : importBehindGraft.1.lines[3]? =
      some "        //  Plengi.setEchoCode(echoCode: \"<customer user identifier, no personal data>\")".toList := by
    decide +kernel
  refine ⟨graft_importBehindCallback, edit_importBehindGraft, hline, ?_⟩
  rw [hline]
  decide

end SdkGraft.Source
