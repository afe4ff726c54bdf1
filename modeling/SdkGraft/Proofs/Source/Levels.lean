import SdkGraft.Proofs.Bind
import SdkGraft.Proofs.Source.GraftEffect

/-!
# Code at other levels

* `unindented`, `outline` : what a line and a block of code hold whatever they are indented by: texts, each at its
  level;
* `IsIndent` : what code can be indented by so that its levels can be read off again;
* `reindent_eq_map`, `outline_reindent` : a block is moved by its outline alone, and keeps it;
* `reindentFrom?_again` : so a block that is moved twice ends up where moving it once would have put it;
* `constructor_wraps_branch` : a constructor of its own and one that is there already get the same body.
-/

namespace SdkGraft.Source

/-! ## Widths -/

theorem length_margin (base unit : Text) (depth : Nat) :
    (margin base unit depth).length = base.length + depth * unit.length := by
  rw [margin, List.length_append, List.length_flatten, List.map_replicate, List.sum_replicate_nat]

theorem mem_widths_iff {lines : List Text} {n : Nat} :
    n ∈ (indents lines).map List.length ↔
      ∃ line ∈ lines, Text.isAllBlank line = false ∧ (Text.leading line).length = n := by
  simp only [indents, List.mem_map, List.mem_filter, Bool.not_eq_true']
  constructor
  · rintro ⟨_, ⟨line, ⟨hmem, hblank⟩, rfl⟩, hn⟩
    exact ⟨line, hmem, hblank, hn⟩
  · rintro ⟨line, hmem, hblank, hn⟩
    exact ⟨_, ⟨line, ⟨hmem, hblank⟩, rfl⟩, hn⟩

/-- Some line stands at the outer width of its block, if any line holds more than blanks. -/
theorem exists_outer_line {lines : List Text} {line : Text} (hmem : line ∈ lines)
    (hblank : Text.isAllBlank line = false) :
    ∃ outer ∈ lines, Text.isAllBlank outer = false ∧ (Text.leading outer).length = outerWidth lines := by
  have hne : (indents lines).map List.length ≠ [] :=
    List.ne_nil_of_mem (mem_widths_iff.2 ⟨line, hmem, hblank, rfl⟩)
  obtain ⟨n, hn⟩ := Option.ne_none_iff_exists'.1 (mt List.min?_eq_none_iff.1 hne)
  rw [outerWidth, hn]
  exact mem_widths_iff.1 (List.min?_eq_some_iff.1 hn).1

theorem outerWidth_eq {lines : List Text} {line : Text} (hmem : line ∈ lines)
    (hblank : Text.isAllBlank line = false)
    (hle : ∀ l ∈ lines, Text.isAllBlank l = false → (Text.leading line).length ≤ (Text.leading l).length) :
    outerWidth lines = (Text.leading line).length := by
  have hmin : ((indents lines).map List.length).min? = some (Text.leading line).length := by
    refine List.min?_eq_some_iff.2 ⟨mem_widths_iff.2 ⟨line, hmem, hblank, rfl⟩, fun n hn => ?_⟩
    obtain ⟨l, hl, hlblank, rfl⟩ := mem_widths_iff.1 hn
    exact hle l hl hlblank
  rw [outerWidth, hmin, Option.getD_some]

/-! ## Outlines -/

/-- What a line holds whatever it is indented by: its level and its text; nothing if it is blank. -/
def unindented (outer width : Nat) (line : Text) : Option (Nat × Text) :=
  if Text.isAllBlank line then none else some (level outer width line, Text.trimStart line)

/-- What a block of code holds, line by line, whatever it is indented by. -/
def outline (width : Nat) (lines : List Text) : List (Option (Nat × Text)) :=
  lines.map (unindented (outerWidth lines) width)

/-- A text at its level under `base`; nothing gives an empty line. -/
def indented (base unit : Text) : Option (Nat × Text) → Text
  | none => []
  | some (depth, text) => margin base unit depth ++ text

theorem reindentLine_eq (base unit : Text) (outer width : Nat) (line : Text) :
    reindentLine base unit outer width line = indented base unit (unindented outer width line) := by
  cases h : Text.isAllBlank line with
  | true => rw [reindentLine_of_blank h, unindented, if_pos h, indented]
  | false => rw [reindentLine_of_not_blank h, unindented, if_neg (by simp [h]), indented]

/-- Where a block of code is moved, its outline alone tells what it becomes. -/
theorem reindent_eq_map (code base unit : Text) (width : Nat) :
    reindent code base unit width = (outline width (Text.lines code)).map (indented base unit) := by
  rw [reindent, outline, List.map_map]
  exact List.map_congr_left fun line _ => reindentLine_eq base unit _ width line

section
variable {base unit : Text} (hbase : Text.isAllBlank base = true) (hunit : Text.isAllBlank unit = true)
include hbase hunit

theorem isAllBlank_reindentLine (outer width : Nat) (line : Text) :
    Text.isAllBlank (reindentLine base unit outer width line) = Text.isAllBlank line := by
  cases h : Text.isAllBlank line with
  | true =>
    rw [reindentLine_of_blank h]
    rfl
  | false =>
    rw [reindentLine_of_not_blank h, Text.isAllBlank_append_trimStart (isAllBlank_margin hbase hunit _), h]

/-- A line that was moved is indented by as many units as its level says. -/
theorem leading_reindentLine {line : Text} (h : Text.isAllBlank line = false) (outer width : Nat) :
    Text.leading (reindentLine base unit outer width line) = margin base unit (level outer width line) := by
  rw [reindentLine_of_not_blank h, Text.leading_append_of_isAllBlank (isAllBlank_margin hbase hunit _),
    Text.leading_trimStart, List.append_nil]

theorem trimStart_reindentLine (outer width : Nat) (line : Text) :
    Text.trimStart (reindentLine base unit outer width line) = Text.trimStart line := by
  cases h : Text.isAllBlank line with
  | true =>
    rw [reindentLine_of_blank h, Text.trimStart_of_isAllBlank h]
    rfl
  | false =>
    rw [reindentLine_of_not_blank h, Text.trimStart_append_of_isAllBlank (isAllBlank_margin hbase hunit _),
      Text.trimStart_trimStart]

theorem outerWidth_reindent {code : Text} {line : Text} (hmem : line ∈ Text.lines code)
    (hblank : Text.isAllBlank line = false) (width : Nat) :
    outerWidth (reindent code base unit width) = base.length := by
  obtain ⟨outer, houter, hnot, hwidth⟩ := exists_outer_line hmem hblank
  have hlevel : level (outerWidth (Text.lines code)) width outer = 0 := by
    rw [level, hwidth, Nat.sub_self, Nat.zero_div]
  have hleading := leading_reindentLine hbase hunit hnot (outerWidth (Text.lines code)) width
  rw [hlevel, margin_zero] at hleading
  have hmem : reindentLine base unit (outerWidth (Text.lines code)) width outer ∈ reindent code base unit width :=
    List.mem_map_of_mem houter
  have hfirst : Text.isAllBlank (reindentLine base unit (outerWidth (Text.lines code)) width outer) = false := by
    rw [isAllBlank_reindentLine hbase hunit, hnot]
  rw [outerWidth_eq hmem hfirst, hleading]
  intro moved hmoved hmovedBlank
  obtain ⟨l, -, rfl⟩ := List.mem_map.1 hmoved
  rw [isAllBlank_reindentLine hbase hunit] at hmovedBlank
  rw [hleading, leading_reindentLine hbase hunit hmovedBlank, length_margin]
  omega

/-- A block that is moved loses no line, no text and no level. -/
theorem outline_reindent (hne : unit ≠ []) (code : Text) (width : Nat) :
    outline unit.length (reindent code base unit width) = outline width (Text.lines code) := by
  have hpos : 0 < unit.length := List.length_pos_iff.2 hne
  rw [outline, reindent, List.map_map, outline]
  refine List.map_congr_left fun line hmem => ?_
  show unindented (outerWidth (reindent code base unit width)) unit.length _ = _
  cases h : Text.isAllBlank line with
  | true => rw [unindented, if_pos (by rw [isAllBlank_reindentLine hbase hunit, h]), unindented, if_pos h]
  | false =>
    have hlevel : level base.length unit.length
        (reindentLine base unit (outerWidth (Text.lines code)) width line) =
        level (outerWidth (Text.lines code)) width line := by
      rw [level, leading_reindentLine hbase hunit h, length_margin, Nat.add_sub_cancel_left,
        Nat.mul_div_cancel _ hpos]
    rw [outerWidth_reindent hbase hunit hmem h, unindented,
      if_neg (by rw [isAllBlank_reindentLine hbase hunit, h]; simp), hlevel,
      trimStart_reindentLine hbase hunit, unindented, if_neg (by simp [h])]

end

/-! ## Moved again -/

/-- Code can be indented by the text so that its levels can be read off again: it is blank and on one line. -/
structure IsIndent (t : Text) : Prop where
  blank : Text.isAllBlank t = true
  oneLine : '\n' ∉ t

instance (t : Text) : Decidable (IsIndent t) :=
  decidable_of_iff (Text.isAllBlank t = true ∧ '\n' ∉ t) ⟨fun h => ⟨h.1, h.2⟩, fun h => ⟨h.1, h.2⟩⟩

theorem lines_unlines_reindent {base unit : Text} (hbase : IsIndent base) (hunit : IsIndent unit) (code : Text)
    (width : Nat) :
    Text.lines (Text.unlines (reindent code base unit width)) = reindent code base unit width := by
  refine Text.lines_unlines (mt List.map_eq_nil_iff.1 (Text.splitAt_ne_nil _ code)) fun moved hmoved => ?_
  obtain ⟨line, hline, rfl⟩ := List.mem_map.1 hmoved
  intro hm
  obtain h | h | h := mem_of_mem_reindentLine hm
  · exact hbase.oneLine h
  · exact hunit.oneLine h
  · exact Text.not_mem_of_mem_splitAt hline h

theorem reindentFrom?_of_ne_nil {source : Text} (h : source ≠ []) (code base unit : Text) :
    reindentFrom? code base unit source = some (reindent code base unit source.length) := by
  rw [reindentFrom?, if_neg]
  rw [Bool.and_eq_true, List.isEmpty_iff]
  exact fun hboth => h hboth.1

/-- A block of code that is moved keeps its levels, its texts and its lines, whatever it was indented by, and can
be moved on from there as if it had never been moved. -/
theorem reindentFrom?_again (code : Text) {base unit source : Text} (hbase : IsIndent base) (hunit : IsIndent unit)
    (hne : unit ≠ []) (hsource : source ≠ []) (base' unit' : Text) :
    ∃ moved, reindentFrom? code base unit source = some moved ∧
      outline unit.length (Text.lines (Text.unlines moved)) = outline source.length (Text.lines code) ∧
      reindentFrom? (Text.unlines moved) base' unit' unit = reindentFrom? code base' unit' source := by
  have hlines := lines_unlines_reindent hbase hunit code source.length
  have houtline : outline unit.length (Text.lines (Text.unlines (reindent code base unit source.length))) =
      outline source.length (Text.lines code) := by
    rw [hlines]
    exact outline_reindent hbase.blank hunit.blank hne code source.length
  refine ⟨_, reindentFrom?_of_ne_nil hsource code base unit, houtline, ?_⟩
  rw [reindentFrom?_of_ne_nil hne, reindentFrom?_of_ne_nil hsource, reindent_eq_map, houtline, ← reindent_eq_map]

/-- Lines at odd widths, behind tabs and wide blanks, are told to stand at whole levels once they are moved, and a
blank line stays empty. -/
theorem reindentFrom?_again_of_uneven_code :
    (IsIndent "  ".toList ∧ IsIndent ['\t']) ∧
      reindentFrom? (Text.unlines ["  a".toList, "  \tb c".toList, [], "  \t\td".toList]) "> ".toList "--".toList ['\t'] =
        some ["> a".toList, "> --b c".toList, [], "> ----d".toList] := by
  obtain ⟨moved, hmoved, -, hagain⟩ := reindentFrom?_again
    (Text.unlines [" a".toList, "\u3000\t  b c".toList, "  ".toList, "      d".toList])
    (show IsIndent "  ".toList by decide) (show IsIndent ['\t'] by decide) (by decide)
    (show "  ".toList ≠ [] by decide) "> ".toList "--".toList
  have hseen : moved = ["  a".toList, "  \tb c".toList, [], "  \t\td".toList] :=
    Option.some.inj (hmoved.symm.trans (by decide))
  rw [hseen] at hagain
  exact ⟨⟨by decide, by decide⟩, hagain.trans (by decide)⟩

/-! ## The body of a constructor -/

/-- The code stands directly behind the line that the edit tells as its anchor. -/
def Edit.HasPut (e : Edit) (d : Document) (code : List Text) : Prop :=
  ∃ a ∈ e.anchorIndex, code <+: d.lines.drop (a + 1)

variable {plan : Plan} {d d' done done' : Document} {t t' : Target} {c : Credentials} {e e' : Edit} {unit : Text}

/-- What a graft puts behind its anchor: the code at one unit more than the line there has. -/
theorem hasPut_of_graft (h : graft plan d (some t) c = .ok (done, e)) (hins : e.outcome = .inserted)
    (hunit : (detectUnit d.lines).or plan.defaultIndent = some unit) :
    e.HasPut done (snippet plan.sdk c (Text.leading (d.lines.getD t.anchor.toNat []) ++ unit) unit
      (needsConstructor t)) := by
  obtain ⟨_, a, unit', ⟨ht, hanchor⟩, ha, hunit', hdone⟩ := exists_target_of_graft_inserted h hins
  cases ht
  rw [hunit] at hunit'
  cases hunit'
  have hgrafted := grafted_insertLines plan.sdk d ha (graftCode plan.sdk d t c a unit)
  obtain ⟨rfl, rfl⟩ := Prod.mk.inj hdone
  rw [hanchor, Int.toNat_natCast]
  exact ⟨_, hgrafted.anchor, hgrafted.follows⟩

/-- A constructor that is put into a declaration, and one that stood there one unit deeper, get the same body. -/
theorem exists_body_of_grafts (h : graft plan d (some t) c = .ok (done, e)) (hins : e.outcome = .inserted)
    (hneeds : needsConstructor t = true) (hunit : (detectUnit d.lines).or plan.defaultIndent = some unit)
    (h' : graft plan d' (some t') c = .ok (done', e')) (hins' : e'.outcome = .inserted)
    (hhas : needsConstructor t' = false) (hunit' : (detectUnit d'.lines).or plan.defaultIndent = some unit)
    (hdeeper : Text.leading (d'.lines.getD t'.anchor.toNat []) =
      Text.leading (d.lines.getD t.anchor.toNat []) ++ unit) :
    ∃ outer body, e.HasPut done ((outer ++ "init() \x7b".toList) :: (body ++ [outer ++ "\x7d".toList])) ∧
      e'.HasPut done' body := by
  have hput := hasPut_of_graft h hins hunit
  have hput' := hasPut_of_graft h' hins' hunit'
  rw [hneeds, snippet_of_constructor] at hput
  rw [hhas, hdeeper] at hput'
  exact ⟨_, _, hput, hput'⟩

/-- A constructor around the inserted code is the code one unit deeper between the line that opens the constructor and
the one that closes it. So a constructor that is put into a declaration, and one that stood there one unit deeper, get
the same body. -/
theorem constructor_wraps_branch (sdk : Sdk) (c : Credentials) (base default : Text) {unit : Text}
    (hne : unit ≠ []) :
    (snippet sdk c base (orDefault unit default) true =
      [base ++ "init() \x7b".toList] ++ snippet sdk c (base ++ unit) (orDefault unit default) false ++
        [base ++ "\x7d".toList]) ∧
    ∀ {plan : Plan} {d d' done done' : Document} {t t' : Target} {e e' : Edit},
      graft plan d (some t) c = .ok (done, e) → e.outcome = .inserted → needsConstructor t = true →
      (detectUnit d.lines).or plan.defaultIndent = some unit →
      graft plan d' (some t') c = .ok (done', e') → e'.outcome = .inserted → needsConstructor t' = false →
      (detectUnit d'.lines).or plan.defaultIndent = some unit →
      Text.leading (d'.lines.getD t'.anchor.toNat []) =
        Text.leading (d.lines.getD t.anchor.toNat []) ++ unit →
      ∃ outer body, e.HasPut done ([outer ++ "init() \x7b".toList] ++ body ++ [outer ++ "\x7d".toList]) ∧
        e'.HasPut done' body := by
  have hunit : orDefault unit default = unit := if_neg (mt List.isEmpty_iff.1 hne)
  refine ⟨?_, ?_⟩
  · rw [hunit, snippet_of_constructor, List.singleton_append, List.cons_append]
  · intro plan d d' done done' t t' e e' h hins hneeds hunit h' hins' hhas hunit' hdeeper
    exact exists_body_of_grafts h hins hneeds hunit h' hins' hhas hunit' hdeeper

def bareRoot : Document := ⟨[], ["@main".toList, "struct A: App \x7b".toList, "\x7d".toList], .lf, false, []⟩

def builtRoot : Document :=
  ⟨[], ["@main".toList, "struct A: App \x7b".toList, "    init() \x7b".toList, "    \x7d".toList, "\x7d".toList], .lf,
    false, []⟩

/-- An answer that takes several lines, one of them blank, is shifted with the rest; and both kinds of root come to the
same. -/
theorem constructor_wraps_branch_of_long_answer :
    let c : Credentials := ⟨"id".toList, "secret".toList, by decide, by decide⟩
    let sdk : Sdk := ⟨"P".toList, "P.go".toList, ".ok ||\n  \n      .done".toList⟩
    ['\t'] ≠ [] ∧
      snippet sdk c "  ".toList ['\t'] true =
        ["  init() \x7b".toList] ++ snippet sdk c "  \t".toList ['\t'] false ++ ["  \x7d".toList] ∧
      ∃ done done' e e' outer body,
        graft Plan.byDefault bareRoot (some ⟨.annotatedRoot, 1, false, none⟩) c = .ok (done, e) ∧
        graft Plan.byDefault builtRoot (some ⟨.annotatedRoot, 1, true, some 2⟩) c = .ok (done', e') ∧
        e.HasPut done ([outer ++ "init() \x7b".toList] ++ body ++ [outer ++ "\x7d".toList]) ∧ e'.HasPut done' body := by
  intro c sdk
  have hwraps := constructor_wraps_branch sdk c "  ".toList snippetIndent (show ['\t'] ≠ [] by decide)
  have hspaces := constructor_wraps_branch sdk c [] snippetIndent (show "    ".toList ≠ [] by decide)
  have hseen : (graft Plan.byDefault bareRoot (some ⟨.annotatedRoot, 1, false, none⟩) c).toOption.map
      (fun done => done.2.outcome) = some .inserted := by decide
  have hseen' : (graft Plan.byDefault builtRoot (some ⟨.annotatedRoot, 1, true, some 2⟩) c).toOption.map
      (fun done => done.2.outcome) = some .inserted := by decide
  obtain ⟨⟨done, e⟩, hdone, hins⟩ := Option.map_eq_some_iff.1 hseen
  obtain ⟨⟨done', e'⟩, hdone', hins'⟩ := Option.map_eq_some_iff.1 hseen'
  have hgraft := Except.of_toOption_eq_some hdone
  have hgraft' := Except.of_toOption_eq_some hdone'
  obtain ⟨outer, body, hput, hput'⟩ := hspaces.2 hgraft hins (by decide) (by decide) hgraft' hins' (by decide)
    (by decide) (by decide)
  exact ⟨by decide, hwraps.1, done, done', e, e', outer, body, hgraft, hgraft', hput, hput'⟩

end SdkGraft.Source
