import Mathlib.Data.Nat.Find
import Mathlib.Order.Bounds.Basic
import SdkGraft.Proofs.Source.ImportGrammar
import SdkGraft.Proofs.Source.Inside
import SdkGraft.Proofs.Source.Reanalysis

/-!
# Which constructor the search finds

* `BeginsConstructor` : the code of a constructor without arguments, its modifiers and attributes in front of it
  (`startsConstructor_iff`);
* `codeBetween`, `netBraces` : the code of some lines, and how much deeper the braces are behind it;
* `IsCandidate` : a constructor directly inside the braces of a declaration, which are not closed before it
  (`findConstructor?_eq_some_iff`, `findConstructor?_eq_none_iff`);
* `OpensBody` : the first brace from a constructor on, and whether its line can be inserted behind
  (`isBody_iff_opensBody`);
* `classify_constructor_exact` : the target in a root is told by its first candidate and the body of that.
-/

namespace SdkGraft.Source

variable {p : EntryPatterns} {kind : Option EntryKind} {code : Text} {codes : List Text}

/-! ## The code of a constructor -/

/-- The code begins with the word `init` and empty parentheses, behind any modifiers and attributes. -/
inductive BeginsConstructor : Text → Prop
  | bare {gap inside rest : Text} : Text.isAllBlank gap = true → Text.isAllBlank inside = true →
    BeginsConstructor ("init".toList ++ (gap ++ ('(' :: (inside ++ (')' :: rest)))))
  | modified {word gap rest : Text} : word ∈ modifierWords → Text.isAllBlank gap = true → gap ≠ [] →
    BeginsConstructor rest → BeginsConstructor (word ++ (gap ++ rest))
  | attributed {a : Attribute} {rest : Text} : a.IsProper → a.IsPlain → BeginsConstructor rest →
    BeginsConstructor (a.text ++ rest)

theorem isWordChar_of_mem_modifierWords : ∀ word ∈ modifierWords, word.all isWordChar = true := by decide

theorem BeginsConstructor.trimStart_eq (h : BeginsConstructor code) : Text.trimStart code = code := by
  cases h with
  | bare => exact Text.trimStart_of_head (by decide) _
  | @modified word gap rest hword =>
    have hheads : ∀ word ∈ modifierWords, ∃ c r, word = c :: r ∧ isBlank c = false := by
      simp [modifierWords, isBlank, blankRanges, inRanges]
    obtain ⟨c, r, rfl, hc⟩ := hheads word hword
    exact Text.trimStart_of_head hc _
  | attributed => exact Text.trimStart_of_head (by decide) _

theorem word_eq_of_append {word gap rest word' gap' rest' : Text} (hword : word.all isWordChar = true)
    (hword' : word'.all isWordChar = true) (hgap : Text.isAllBlank gap = true) (hne : gap ≠ [])
    (hgap' : Text.isAllBlank gap' = true) (hne' : gap' ≠ [])
    (h : word ++ (gap ++ rest) = word' ++ (gap' ++ rest')) : word = word' := by
  have hhead : ∀ {g r : Text}, Text.isAllBlank g = true → g ≠ [] → ∀ c ∈ (g ++ r).head?, isWordChar c = false := by
    intro g r hg hgne c hc
    cases g with
    | nil => exact absurd rfl hgne
    | cons b g =>
      cases hc
      exact isWordChar_of_isBlank (Text.isBlank_of_mem hg (List.mem_cons_self ..))
  rw [← (span_name hword (hhead (r := rest) hgap hne)).1, h, (span_name hword' (hhead (r := rest') hgap' hne')).1]

theorem modifier?_eq_some_iff {t rest : Text} : modifier? t = some rest ↔ Text.trimStart rest = rest ∧
    ((∃ word ∈ modifierWords, ∃ gap, Text.isAllBlank gap = true ∧ gap ≠ [] ∧ t = word ++ (gap ++ rest)) ∨
      ∃ a : Attribute, a.IsProper ∧ a.IsPlain ∧ t = a.text ++ rest) := by
  have hsound : ∀ {u : Text}, (modifierWords.findSome? fun w => (Text.dropStart? w t).bind Text.dropBlanks?) = some u →
      Text.trimStart u = u ∧
        ∃ word ∈ modifierWords, ∃ gap, Text.isAllBlank gap = true ∧ gap ≠ [] ∧ t = word ++ (gap ++ u) := by
    intro u h
    obtain ⟨word, hword, hdrop⟩ := List.exists_of_findSome?_eq_some h
    obtain ⟨blanks, hstart, hblanks⟩ := Option.bind_eq_some_iff.1 hdrop
    obtain ⟨gap, hgap, hne, rfl, htight⟩ := dropBlanks?_sound hblanks
    exact ⟨htight, word, hword, gap, hgap, hne, Text.dropStart?_eq_some_iff.1 hstart⟩
  constructor
  · intro h
    rcases Option.or_eq_some_iff.1 h with hword | ⟨-, hattribute⟩
    · obtain ⟨htight, hword⟩ := hsound hword
      exact ⟨htight, .inl hword⟩
    · obtain ⟨a, ha, hplain, ht, htight⟩ := attribute?_sound hattribute
      exact ⟨htight, .inr ⟨a, ha, hplain, ht⟩⟩
  · rintro ⟨htight, ⟨word, hword, gap, hgap, hne, ht⟩ | ⟨a, ha, hplain, rfl⟩⟩
    · have hskip : (Text.dropStart? word t).bind Text.dropBlanks? = some rest := by
        rw [Text.dropStart?_eq_some_iff.2 ht, Option.bind_some, dropBlanks?_append hgap hne htight]
      obtain ⟨u, hu⟩ : ∃ u, (modifierWords.findSome? fun w => (Text.dropStart? w t).bind Text.dropBlanks?) = some u :=
        Option.isSome_iff_exists.1 (List.findSome?_isSome_iff.2 ⟨word, hword, by rw [hskip]; rfl⟩)
      -- The search may have come to another word first, but no other is there.
      obtain ⟨htight', word', hword', gap', hgap', hne', ht'⟩ := hsound hu
      obtain rfl := word_eq_of_append (isWordChar_of_mem_modifierWords _ hword)
        (isWordChar_of_mem_modifierWords _ hword') hgap hne hgap' hne' (ht.symm.trans ht')
      rw [Text.dropStart?_eq_some_iff.2 ht', Option.bind_some, dropBlanks?_append hgap' hne' htight'] at hskip
      rw [modifier?, hu, hskip, Option.some_or]
    · exact modifier?_of_attribute (attribute?_of_isPlain ha hplain htight)

/-- The code begins with the word `init` and empty parentheses. -/
def beginsInit (code : Text) : Bool :=
  match Text.dropStart? "init".toList code with
  | none => false
  | some rest =>
    match Text.dropStart? ['('] (Text.trimStart rest) with
    | none => false
    | some inside => (Text.trimStart inside).head? == some ')'

theorem beginsInit_iff : beginsInit code = true ↔ ∃ gap inside rest, Text.isAllBlank gap = true ∧
    Text.isAllBlank inside = true ∧ code = "init".toList ++ (gap ++ ('(' :: (inside ++ (')' :: rest)))) := by
  unfold beginsInit
  constructor
  · intro h
    split at h
    · cases h
    rename_i behind hbehind
    split at h
    · cases h
    rename_i within hwithin
    obtain ⟨rest, hrest⟩ := List.head?_eq_some_iff.1 (beq_iff_eq.1 h)
    have hparen := Text.dropStart?_eq_some_iff.1 hwithin
    refine ⟨Text.leading behind, Text.leading within, rest, Text.isAllBlank_leading _, Text.isAllBlank_leading _, ?_⟩
    rw [← hrest, Text.leading_append_trimStart, ← List.singleton_append, ← hparen, Text.leading_append_trimStart]
    exact Text.dropStart?_eq_some_iff.1 hbehind
  · rintro ⟨gap, inside, rest, hgap, hinside, rfl⟩
    have hparen : Text.trimStart (gap ++ ('(' :: (inside ++ (')' :: rest)))) = ['('] ++ (inside ++ (')' :: rest)) := by
      rw [Text.trimStart_append_of_isAllBlank hgap, Text.trimStart_of_head (by decide)]
      rfl
    rw [Text.dropStart?_eq_some_iff.2 rfl]
    simp only [hparen, Text.dropStart?_eq_some_iff.2 rfl]
    rw [Text.trimStart_append_of_isAllBlank hinside, Text.trimStart_of_head (by decide)]
    rfl

theorem beginsConstructor_of_dropUpTo {n : Nat} (h : beginsInit (dropUpTo modifier? n code) = true) :
    BeginsConstructor code := by
  have hbare : ∀ {t : Text}, beginsInit t = true → BeginsConstructor t := by
    intro t ht
    obtain ⟨gap, inside, rest, hgap, hinside, rfl⟩ := beginsInit_iff.1 ht
    exact .bare hgap hinside
  induction n generalizing code with
  | zero => exact hbare h
  | succ n ih =>
    unfold dropUpTo at h
    split at h
    · rename_i rest hrest
      have hinner := ih h
      obtain ⟨-, ⟨word, hword, gap, hgap, hne, rfl⟩ | ⟨a, ha, hplain, rfl⟩⟩ := modifier?_eq_some_iff.1 hrest
      · exact .modified hword hgap hne hinner
      · exact .attributed ha hplain hinner
    · exact hbare h

theorem BeginsConstructor.beginsInit_dropUpTo (h : BeginsConstructor code) {n : Nat} (hn : code.length ≤ n) :
    beginsInit (dropUpTo modifier? n code) = true := by
  induction h generalizing n with
  | @bare gap inside rest hgap hinside =>
    have hinit := beginsInit_iff.2 ⟨gap, inside, rest, hgap, hinside, rfl⟩
    cases n with
    | zero => exact hinit
    | succ n => exact hinit
  | @modified word gap rest hword hgap hne hinner ih =>
    have hskip := modifier?_eq_some_iff.2 ⟨hinner.trimStart_eq, .inl ⟨word, hword, gap, hgap, hne, rfl⟩⟩
    have hpos := List.length_pos_iff.2 hne
    rw [List.length_append, List.length_append] at hn
    obtain ⟨m, rfl⟩ : ∃ m, n = m + 1 := ⟨n - 1, by omega⟩
    rw [dropUpTo, hskip]
    exact ih (by omega)
  | @attributed a rest ha hplain hinner ih =>
    have hskip := modifier?_eq_some_iff.2 ⟨hinner.trimStart_eq, .inr ⟨a, ha, hplain, rfl⟩⟩
    have hlength : (a.text ++ rest).length = a.text.length + rest.length := List.length_append
    have hpos : 0 < a.text.length := Nat.zero_lt_succ _
    obtain ⟨m, rfl⟩ : ∃ m, n = m + 1 := ⟨n - 1, by omega⟩
    rw [dropUpTo, hskip]
    exact ih (by omega)

/-- Exactly the constructors without arguments are recognised. -/
theorem startsConstructor_iff : startsConstructor code = true ↔ BeginsConstructor code :=
  ⟨beginsConstructor_of_dropUpTo, fun h => h.beginsInit_dropUpTo (Nat.le_refl _)⟩

/-! ## Braces -/

/-- The code of the lines from `d` on, line `j` not among them. -/
def codeBetween (codes : List Text) (d j : Nat) : Text := ((codes.take j).drop d).flatten

/-- How many more braces are opened than closed from line `d` on, line `j` not counted. -/
def netBraces (codes : List Text) (d j : Nat) : Int :=
  (codeBetween codes d j).count '\x7b' - (codeBetween codes d j).count '\x7d'

theorem Braces.readAll_eq_read (b : Braces) (codes : List Text) : b.readAll codes = b.read codes.flatten :=
  List.foldl_flatten.symm

section
variable (codes) (d j : Nat)

/-- The braces as they are before line `j`, read from line `d` on. -/
def bracesBetween : Braces := Braces.none.readAll ((codes.drop d).take (j - d))

theorem bracesBetween_eq : bracesBetween codes d j = Braces.none.read (codeBetween codes d j) := by
  rw [bracesBetween, Braces.readAll_eq_read, codeBetween, List.drop_take]

theorem bracesBetween_depth : (bracesBetween codes d j).depth = netBraces codes d j := by
  rw [bracesBetween_eq, Braces.none_read_depth, netBraces]

theorem bracesBetween_opened : (bracesBetween codes d j).opened = decide ('\x7b' ∈ codeBetween codes d j) := by
  rw [bracesBetween_eq, Braces.read_opened]
  rfl

end

/-! ## Candidates -/

/-- A constructor stands `k` lines further on, directly inside braces that were opened before and are closed nowhere
in between. -/
structure StandsInside (b : Braces) (codes : List Text) (k : Nat) : Prop where
  opened : (b.readAll (codes.take k)).opened = true
  depth : (b.readAll (codes.take k)).depth = 1
  begins : ∃ code, codes[k]? = some code ∧ startsConstructor code = true
  inside : ∀ j, 0 < j → j ≤ k → (b.readAll (codes.take j)).isClosed = false

theorem standsInside_zero_iff {b : Braces} {rest : List Text} : StandsInside b (code :: rest) 0 ↔
    b.opened = true ∧ b.depth = 1 ∧ startsConstructor code = true := by
  constructor
  · rintro ⟨hopened, hdepth, ⟨code', hcode', hstarts⟩, -⟩
    cases hcode'
    exact ⟨hopened, hdepth, hstarts⟩
  · rintro ⟨hopened, hdepth, hstarts⟩
    exact ⟨hopened, hdepth, ⟨code, rfl, hstarts⟩, fun j hj hj' => by omega⟩

theorem standsInside_succ_iff {b : Braces} {rest : List Text} {k : Nat} : StandsInside b (code :: rest) (k + 1) ↔
    (b.read code).isClosed = false ∧ StandsInside (b.read code) rest k := by
  constructor
  · rintro ⟨hopened, hdepth, hbegins, hinside⟩
    exact ⟨hinside 1 (by omega) (by omega), hopened, hdepth, hbegins,
      fun j _ hj => hinside (j + 1) (by omega) (by omega)⟩
  · rintro ⟨hclosed, hopened, hdepth, hbegins, hinside⟩
    refine ⟨hopened, hdepth, hbegins, fun j hj hjk => ?_⟩
    obtain ⟨j, rfl⟩ : ∃ i, j = i + 1 := ⟨j - 1, by omega⟩
    rcases Nat.eq_zero_or_pos j with rfl | hpos
    · exact hclosed
    · exact hinside j hpos (by omega)

theorem findConstructorFrom?_eq_some_iff {b : Braces} {k : Nat} : findConstructorFrom? b codes = some k ↔
    StandsInside b codes k ∧ ∀ j < k, ¬ StandsInside b codes j := by
  induction codes generalizing b k with
  | nil =>
    have hnone : ¬ StandsInside b [] k := fun h => by
      obtain ⟨code, hcode, -⟩ := h.begins
      cases hcode
    exact iff_of_false (fun h => by cases h) fun h => hnone h.1
  | cons code rest ih =>
    unfold findConstructorFrom?
    have hfound : (b.opened && b.depth == 1 && startsConstructor code) = true ↔ StandsInside b (code :: rest) 0 := by
      rw [standsInside_zero_iff, Bool.and_eq_true, Bool.and_eq_true, beq_iff_eq, and_assoc]
    split
    · rename_i hhere
      cases k with
      | zero => exact iff_of_true rfl ⟨hfound.1 hhere, fun j hj => by omega⟩
      | succ k => exact iff_of_false (fun h => by cases h) fun h => h.2 0 (Nat.succ_pos k) (hfound.1 hhere)
    rename_i hhere
    have hnot : ¬ StandsInside b (code :: rest) 0 := fun h => hhere (hfound.2 h)
    split
    · rename_i hclosed
      refine iff_of_false (fun h => by cases h) fun h => ?_
      cases k with
      | zero => exact hnot h.1
      | succ k =>
        rw [(standsInside_succ_iff.1 h.1).1] at hclosed
        cases hclosed
    · rename_i hopen
      have hstays : (b.read code).isClosed = false := Bool.eq_false_iff.2 hopen
      have hrest : ∀ {j : Nat}, StandsInside b (code :: rest) (j + 1) ↔ StandsInside (b.read code) rest j :=
        standsInside_succ_iff.trans (and_iff_right hstays)
      rw [Option.map_eq_some_iff]
      cases k with
      | zero => exact iff_of_false (by simp) fun h => hnot h.1
      | succ k =>
        rw [hrest]
        constructor
        · rintro ⟨k', hk', hsucc⟩
          cases hsucc
          obtain ⟨hstands, hfirst⟩ := ih.1 hk'
          refine ⟨hstands, fun j hj => ?_⟩
          cases j with
          | zero => exact hnot
          | succ j => exact fun h => hfirst j (by omega) (hrest.1 h)
        · rintro ⟨hstands, hfirst⟩
          exact ⟨k, ih.2 ⟨hstands, fun j hj h => hfirst (j + 1) (by omega) (hrest.2 h)⟩, rfl⟩

/-- A constructor at line `c`, directly inside the braces that were first opened from line `d` on. -/
structure IsCandidate (codes : List Text) (d c : Nat) : Prop where
  behind : d < c
  opened : '\x7b' ∈ codeBetween codes d c
  directly : netBraces codes d c = 1
  begins : ∃ code, codes[c]? = some code ∧ BeginsConstructor code
  inside : ∀ j, d < j → j ≤ c → '\x7b' ∈ codeBetween codes d j → 1 ≤ netBraces codes d j

theorem isCandidate_iff {d c : Nat} :
    IsCandidate codes d c ↔ d ≤ c ∧ StandsInside Braces.none (codes.drop d) (c - d) := by
  have hclosed : ∀ j, (bracesBetween codes d j).isClosed = false ↔
      ('\x7b' ∈ codeBetween codes d j → 1 ≤ netBraces codes d j) := by
    intro j
    rw [Braces.isClosed, bracesBetween_depth, bracesBetween_opened, Bool.and_eq_false_iff, decide_eq_false_iff_not,
      decide_eq_false_iff_not, ← imp_iff_not_or, Int.not_le]
    rfl
  have hopened : (bracesBetween codes d c).opened = true ↔ '\x7b' ∈ codeBetween codes d c := by
    rw [bracesBetween_opened, decide_eq_true_iff]
  constructor
  · rintro ⟨hbehind, hbrace, hdepth, ⟨code, hcode, hbegins⟩, hinside⟩
    refine ⟨Nat.le_of_lt hbehind, hopened.2 hbrace, (bracesBetween_depth codes d c).trans hdepth,
      ⟨code, ?_, startsConstructor_iff.2 hbegins⟩, fun j hj hjc => ?_⟩
    · rw [List.getElem?_drop, Nat.add_sub_cancel' (Nat.le_of_lt hbehind), hcode]
    · have hline := (hclosed (d + j)).2 (hinside (d + j) (by omega) (by omega))
      rwa [bracesBetween, Nat.add_sub_cancel_left] at hline
  · rintro ⟨hle, hbrace, hdepth, ⟨code, hcode, hstarts⟩, hinside⟩
    have hmem := hopened.1 hbrace
    rw [List.getElem?_drop, Nat.add_sub_cancel' hle] at hcode
    refine ⟨Nat.lt_of_le_of_ne hle ?_, hmem, (bracesBetween_depth codes d c).symm.trans hdepth,
      ⟨code, hcode, startsConstructor_iff.1 hstarts⟩,
      fun j hj hjc => (hclosed j).1 (hinside (j - d) (by omega) (by omega))⟩
    rintro rfl
    rw [codeBetween, List.drop_take, Nat.sub_self] at hmem
    cases hmem

theorem findConstructor?_eq_some_iff {d c : Nat} :
    findConstructor? codes d = some c ↔ IsLeast {c | IsCandidate codes d c} c := by
  rw [findConstructor?, Option.map_eq_some_iff]
  constructor
  · rintro ⟨k, hk, rfl⟩
    obtain ⟨hstands, hfirst⟩ := findConstructorFrom?_eq_some_iff.1 hk
    refine ⟨isCandidate_iff.2 ⟨Nat.le_add_right .., by rwa [Nat.add_sub_cancel_left]⟩, fun c hc => ?_⟩
    obtain ⟨hle, hcandidate⟩ := isCandidate_iff.1 hc
    exact Nat.le_of_not_lt fun hlt => hfirst (c - d) (by omega) hcandidate
  · rintro ⟨hc, hleast⟩
    obtain ⟨hle, hcandidate⟩ := isCandidate_iff.1 hc
    refine ⟨c - d, findConstructorFrom?_eq_some_iff.2 ⟨hcandidate, fun j hj hstands => ?_⟩, by omega⟩
    have hother := hleast (isCandidate_iff.2 ⟨Nat.le_add_right d j, by rwa [Nat.add_sub_cancel_left]⟩)
    omega

theorem findConstructor?_eq_none_iff {d : Nat} :
    findConstructor? codes d = none ↔ ∀ c, ¬ IsCandidate codes d c := by
  constructor
  · intro hnone c hc
    classical
    have hleast : IsLeast {c | IsCandidate codes d c} (Nat.find ⟨c, hc⟩) :=
      ⟨Nat.find_spec ⟨c, hc⟩, fun c' hc' => Nat.find_min' ⟨c, hc⟩ hc'⟩
    rw [findConstructor?_eq_some_iff.2 hleast] at hnone
    cases hnone
  · intro h
    refine Option.eq_none_iff_forall_ne_some.2 fun c hc => ?_
    exact h c (findConstructor?_eq_some_iff.1 hc).1

/-! ## Bodies -/

/-- Line `b` is the first from line `c` on with an opening brace. It opens more braces than it closes, and no code
stands in the lines between the two. -/
structure OpensBody (codes : List Text) (c b : Nat) : Prop where
  first : IsLeast {b | c ≤ b ∧ ∃ code, codes[b]? = some code ∧ '\x7b' ∈ code} b
  quiet : ∀ j, c < j → j < b → codes[j]? = some []
  opens : ∃ code, codes[b]? = some code ∧ code.count '\x7d' < code.count '\x7b'

theorem isBody_iff_opensBody {c b : Nat} : IsBody codes c b ↔ OpensBody codes c b := by
  constructor
  · intro h
    obtain ⟨code, hcode, hopen⟩ := h.opens
    refine ⟨⟨⟨h.le, code, hcode, mem_of_leavesOpen hopen⟩, ?_⟩, h.quiet, code, hcode, of_decide_eq_true hopen⟩
    rintro j ⟨hj, code', hcode', hbrace⟩
    exact Nat.le_of_not_lt fun hlt => h.not_mem hj hlt code' hcode' hbrace
  · rintro ⟨⟨⟨hle, -⟩, hleast⟩, hquiet, code, hcode, hopen⟩
    refine ⟨hle, fun hlt => ?_, hquiet, code, hcode, decide_eq_true hopen⟩
    have hlength := (List.getElem?_eq_some_iff.1 hcode).1
    refine ⟨_, List.getElem?_eq_getElem (Nat.lt_trans hlt hlength), fun hbrace => ?_⟩
    have hb := hleast ⟨Nat.le_refl c, _, List.getElem?_eq_getElem (Nat.lt_trans hlt hlength), hbrace⟩
    omega

/-! ## The target -/

theorem classify_of_findDeclaration? {lines : List Text} {d : Nat}
    (hcallback : findCallback? p (codeParts lines) = none) (hkind : kind ≠ some .delegateCallback)
    (hd : findDeclaration? p (codeParts lines) = some d) :
    classify p kind lines = rootTarget? (codeParts lines) d := by
  simp only [classify, hcallback, if_neg hkind, hd, Option.bind_some]

/-- Where a root is declared and nothing comes before it, the target is the declaration if there is no candidate. With
a first candidate it is the line that opens the body of that one; if there is no such line, there is no target. -/
theorem classify_constructor_exact {lines : List Text} {d : Nat} (hcallback : findCallback? p (codeParts lines) = none)
    (hkind : kind ≠ some .delegateCallback) (hd : findDeclaration? p (codeParts lines) = some d) :
    (classify p kind lines = some ⟨.annotatedRoot, d, false, none⟩ ↔ ∀ c, ¬ IsCandidate (codeParts lines) d c) ∧
    ∀ c, IsLeast {c | IsCandidate (codeParts lines) d c} c →
      (∀ b : Nat, classify p kind lines = some ⟨.annotatedRoot, d, true, some (b : Int)⟩ ↔
        OpensBody (codeParts lines) c b) ∧
      (classify p kind lines = none ↔ ∀ b, ¬ OpensBody (codeParts lines) c b) := by
  rw [classify_of_findDeclaration? hcallback hkind hd]
  refine ⟨?_, fun c hc => ?_⟩
  · rw [← findConstructor?_eq_none_iff, rootTarget?]
    cases hfound : findConstructor? (codeParts lines) d with
    | none => exact iff_of_true rfl rfl
    | some c =>
      refine iff_of_false (fun h => ?_) fun h => by cases h
      obtain ⟨b, -, hb⟩ := Option.map_eq_some_iff.1 h
      cases hb
  · have hbody : ∀ b, findBody? (codeParts lines) c = some b ↔ OpensBody (codeParts lines) c b := fun b =>
      findBody?_eq_some_iff.trans isBody_iff_opensBody
    rw [rootTarget?, findConstructor?_eq_some_iff.2 hc]
    simp only [← hbody]
    cases findBody? (codeParts lines) c with
    | none => simp
    | some body =>
      simp only [Option.pure_def, Option.bind_eq_bind, Option.bind_some, Option.map_some, Option.some.injEq,
        Target.mk.injEq, Int.natCast_inj, true_and, and_true, reduceCtorEq, forall_eq', implies_true]

/-- A root with a constructor of an inner type, and one of its own whose body begins two lines further down. -/
def nestedConstructors : List Text :=
  ["@main".toList, "struct DemoApp: App \x7b".toList, "    class Inner \x7b".toList, "        init() \x7b\x7d".toList,
    "    \x7d".toList, "    @objc public init ( )".toList, "    // as ever".toList, "    \x7b".toList,
    "    \x7d".toList, "\x7d".toList]

/-- The constructor of the inner type is no candidate, and a comment may stand before the body of the other. -/
theorem classify_constructor_exact_of_nested :
    findCallback? .byDefault (codeParts nestedConstructors) = none ∧
      findDeclaration? .byDefault (codeParts nestedConstructors) = some 1 ∧
      IsLeast {c | IsCandidate (codeParts nestedConstructors) 1 c} 5 ∧
      classify .byDefault (some .annotatedRoot) nestedConstructors = some ⟨.annotatedRoot, 1, true, some 7⟩ ∧
      OpensBody (codeParts nestedConstructors) 5 7 := by
  have hcallback : findCallback? .byDefault (codeParts nestedConstructors) = none := by decide +kernel
  have hd : findDeclaration? .byDefault (codeParts nestedConstructors) = some 1 := by decide +kernel
  have hleast : IsLeast {c | IsCandidate (codeParts nestedConstructors) 1 c} 5 :=
    findConstructor?_eq_some_iff.1 (by decide +kernel)
  have htarget : classify .byDefault (some .annotatedRoot) nestedConstructors =
      some ⟨.annotatedRoot, 1, true, some 7⟩ := by decide +kernel
  obtain ⟨-, hconstructor⟩ := classify_constructor_exact hcallback (show some .annotatedRoot ≠ _ by decide) hd
  exact ⟨hcallback, hd, hleast, htarget, ((hconstructor 5 hleast).1 7).1 htarget⟩

end SdkGraft.Source
