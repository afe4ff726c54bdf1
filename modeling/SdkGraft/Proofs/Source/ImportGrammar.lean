import Mathlib.Data.List.DropRight
import SdkGraft.Proofs.Text.Blanks
import SdkGraft.Source.Import

/-!
# The grammar of import statements

* `isWordChar_of_isBlank` : no blank is a word character;
* `Attribute`, `ImportStatement` : an import statement and its attributes, with or without arguments, and their texts;
* `attribute?_of_isPlain`, `attribute?_sound` : one attribute is skipped if and only if it has no arguments;
* `afterImport?_text`, `afterImport?_sound` : so are all of them, in front of the word `import`;
* `importsModule_iff`, `isImport_iff` : exactly the statements whose attributes have no arguments are recognised;
* `afterImport?_of_not_isPlain` : any others are not.
-/

namespace SdkGraft

/-! ## Blanks and word characters -/

theorem inRanges_of_apart {rs ss : List (Nat × Nat)} (h : ∀ r ∈ rs, ∀ s ∈ ss, r.2 < s.1 ∨ s.2 < r.1) {n : Nat}
    (hn : inRanges rs n = true) : inRanges ss n = false := by
  obtain ⟨r, hr, hrn⟩ := List.any_eq_true.1 hn
  refine List.any_eq_false.2 fun s hs hsn => ?_
  simp only [Bool.and_eq_true, decide_eq_true_eq] at hrn hsn
  have := h r hr s hs
  omega

def asciiWordRanges : List (Nat × Nat) := [(0x30, 0x39), (0x41, 0x5A), (0x5F, 0x5F), (0x61, 0x7A)]

theorem inRanges_asciiWordRanges {c : Char} (h : (c.isAlphanum || c == '_') = true) :
    inRanges asciiWordRanges c.toNat = true := by
  rw [Bool.or_eq_true, beq_iff_eq] at h
  obtain h | rfl := h
  · delta Char.isAlphanum Char.isAlpha Char.isUpper Char.isLower Char.isDigit at h
    simp only [Bool.or_eq_true, Bool.and_eq_true, decide_eq_true_eq, UInt32.le_iff_toNat_le, ge_iff_le] at h
    simp only [inRanges, asciiWordRanges, List.any_cons, List.any_nil, Bool.or_eq_true, Bool.and_eq_true,
      decide_eq_true_eq]
    change (((65 ≤ c.toNat ∧ c.toNat ≤ 90) ∨ (97 ≤ c.toNat ∧ c.toNat ≤ 122)) ∨ (48 ≤ c.toNat ∧ c.toNat ≤ 57)) at h
    omega
  · rfl

theorem isWordChar_of_isBlank {c : Char} (h : isBlank c = true) : isWordChar c = false := by
  unfold isWordChar
  split
  · refine Bool.eq_false_iff.2 fun hword => ?_
    have hapart := inRanges_of_apart (show ∀ r ∈ asciiWordRanges, ∀ s ∈ blankRanges, r.2 < s.1 ∨ s.2 < r.1 by decide)
      (inRanges_asciiWordRanges hword)
    rw [← isBlank, h] at hapart
    cases hapart
  · exact inRanges_of_apart (by decide +kernel) h

namespace Source

/-! ## Statements -/

/-- An attribute in front of a statement: its name, what stands between its parentheses, if it has any, and the blanks
behind it. -/
structure Attribute where
  name : Text
  arguments : Option Text
  gap : Text
  deriving DecidableEq, Repr

/-- An attribute as it is written. -/
def Attribute.text (a : Attribute) : Text :=
  '@' :: (a.name ++ ((match a.arguments with
    | none => []
    | some arguments => '(' :: (arguments ++ [')'])) ++ a.gap))

def Attribute.IsPlain (a : Attribute) : Prop := a.arguments = none

/-- The name is a word, and only blanks follow the attribute: one at least, if parentheses do not set it apart. -/
structure Attribute.IsProper (a : Attribute) : Prop where
  name_ne_nil : a.name ≠ []
  name : a.name.all isWordChar = true
  gap : Text.isAllBlank a.gap = true
  gap_ne_nil : a.IsPlain → a.gap ≠ []

instance Attribute.decidableIsPlain (a : Attribute) : Decidable a.IsPlain :=
  inferInstanceAs (Decidable (a.arguments = none))

instance Attribute.decidableIsProper (a : Attribute) : Decidable a.IsProper :=
  decidable_of_iff (a.name ≠ [] ∧ a.name.all isWordChar = true ∧ Text.isAllBlank a.gap = true ∧
      (a.IsPlain → a.gap ≠ []))
    ⟨fun ⟨hne, hname, hgap, hset⟩ => ⟨hne, hname, hgap, hset⟩, fun h => ⟨h.name_ne_nil, h.name, h.gap, h.gap_ne_nil⟩⟩

/-- Attributes as they are written, one behind the other. -/
def attributesText (attributes : List Attribute) : Text := attributes.flatMap Attribute.text

/-- A statement that imports a module: attributes, the word `import`, the name of the module between blanks, and a
semicolon or none. -/
structure ImportStatement where
  attributes : List Attribute
  gap : Text
  moduleName : Text
  space : Text
  semicolon : Bool
  deriving DecidableEq, Repr

/-- What follows the blanks behind the module in a statement. -/
def ImportStatement.ending (st : ImportStatement) : Text := st.space ++ if st.semicolon then [';'] else []

/-- A statement as it is written. -/
def ImportStatement.text (st : ImportStatement) : Text :=
  attributesText st.attributes ++ ("import".toList ++ (st.gap ++ (st.moduleName ++ st.ending)))

def ImportStatement.IsPlain (st : ImportStatement) : Prop := ∀ a ∈ st.attributes, a.IsPlain

/-- The statement is one: its attributes are, and blanks stand before the module and may stand behind it. -/
structure ImportStatement.IsProper (st : ImportStatement) : Prop where
  attributes : ∀ a ∈ st.attributes, a.IsProper
  gap : Text.isAllBlank st.gap = true
  gap_ne_nil : st.gap ≠ []
  space : Text.isAllBlank st.space = true

instance ImportStatement.decidableIsPlain (st : ImportStatement) : Decidable st.IsPlain :=
  inferInstanceAs (Decidable (∀ a ∈ st.attributes, a.IsPlain))

instance ImportStatement.decidableIsProper (st : ImportStatement) : Decidable st.IsProper :=
  decidable_of_iff ((∀ a ∈ st.attributes, a.IsProper) ∧ Text.isAllBlank st.gap = true ∧ st.gap ≠ [] ∧
      Text.isAllBlank st.space = true)
    ⟨fun ⟨hattributes, hgap, hne, hspace⟩ => ⟨hattributes, hgap, hne, hspace⟩,
      fun h => ⟨h.attributes, h.gap, h.gap_ne_nil, h.space⟩⟩

/-! ## One attribute -/

theorem dropBlanks?_append {gap rest : Text} (hgap : Text.isAllBlank gap = true) (hne : gap ≠ [])
    (hrest : Text.trimStart rest = rest) : Text.dropBlanks? (gap ++ rest) = some rest := by
  cases gap with
  | nil => exact absurd rfl hne
  | cons c gap =>
    rw [Text.isAllBlank_cons_iff] at hgap
    rw [List.cons_append, Text.dropBlanks?, if_pos hgap.1, Text.trimStart_append_of_isAllBlank hgap.2, hrest]

theorem dropBlanks?_sound {t rest : Text} (h : Text.dropBlanks? t = some rest) :
    ∃ gap, Text.isAllBlank gap = true ∧ gap ≠ [] ∧ t = gap ++ rest ∧ Text.trimStart rest = rest := by
  cases t with
  | nil => cases h
  | cons c r =>
    rw [Text.dropBlanks?] at h
    split at h
    · rename_i hc
      cases h
      refine ⟨c :: Text.leading r, ?_, List.cons_ne_nil _ _, ?_, ?_⟩
      · exact Text.isAllBlank_cons_iff.2 ⟨hc, Text.isAllBlank_leading r⟩
      · rw [List.cons_append, Text.leading_append_trimStart]
      · exact List.dropWhile_idempotent isBlank r
    · cases h

theorem span_name {name rest : Text} (hname : name.all isWordChar = true)
    (hrest : ∀ c ∈ rest.head?, isWordChar c = false) :
    (name ++ rest).takeWhile isWordChar = name ∧ (name ++ rest).dropWhile isWordChar = rest := by
  rw [List.all_eq_true] at hname
  rw [List.takeWhile_append_of_pos hname, List.dropWhile_append_of_pos hname]
  cases rest with
  | nil => exact ⟨List.append_nil _, rfl⟩
  | cons c rest =>
    have hc : ¬ isWordChar c = true := by simp [hrest c rfl]
    rw [List.takeWhile_cons_of_neg hc, List.dropWhile_cons_of_neg hc]
    exact ⟨List.append_nil _, rfl⟩

theorem attribute?_name {name rest : Text} (hne : name ≠ []) (hname : name.all isWordChar = true)
    (hrest : ∀ c ∈ rest.head?, isWordChar c = false) :
    attribute? ('@' :: (name ++ rest)) = Text.dropBlanks? rest := by
  obtain ⟨htake, hdrop⟩ := span_name hname hrest
  rw [attribute?, htake, hdrop, if_neg (by simpa using hne)]

/-- An attribute without arguments is skipped with the blanks behind it. -/
theorem attribute?_of_isPlain {a : Attribute} {rest : Text} (ha : a.IsProper) (hplain : a.IsPlain)
    (hrest : Text.trimStart rest = rest) : attribute? (a.text ++ rest) = some rest := by
  have htext : a.text ++ rest = '@' :: (a.name ++ (a.gap ++ rest)) := by
    rw [Attribute.text, hplain]
    simp
  have hhead : ∀ c ∈ (a.gap ++ rest).head?, isWordChar c = false := by
    cases hgap : a.gap with
    | nil => exact absurd hgap (ha.gap_ne_nil hplain)
    | cons b gap =>
      rintro c ⟨⟩
      exact isWordChar_of_isBlank (Text.isBlank_of_mem ha.gap (by simp [hgap]))
  rw [htext, attribute?_name ha.name_ne_nil ha.name hhead]
  exact dropBlanks?_append ha.gap (ha.gap_ne_nil hplain) hrest

/-- One with arguments is not: no blank follows its name. -/
theorem attribute?_of_not_isPlain {a : Attribute} {rest : Text} (ha : a.IsProper) (harguments : ¬ a.IsPlain) :
    attribute? (a.text ++ rest) = none := by
  obtain ⟨arguments, hsome⟩ := Option.ne_none_iff_exists'.1 harguments
  have htext : a.text ++ rest = '@' :: (a.name ++ ('(' :: (arguments ++ ([')'] ++ (a.gap ++ rest))))) := by
    rw [Attribute.text, hsome]
    simp
  rw [htext, attribute?_name ha.name_ne_nil ha.name (by rintro c ⟨⟩; decide)]
  rfl

theorem attribute?_sound {t rest : Text} (h : attribute? t = some rest) :
    ∃ a : Attribute, a.IsProper ∧ a.IsPlain ∧ t = a.text ++ rest ∧ Text.trimStart rest = rest := by
  unfold attribute? at h
  split at h
  · rename_i r
    split at h
    · cases h
    · rename_i hname
      obtain ⟨gap, hgap, hne, hr, hrest⟩ := dropBlanks?_sound h
      refine ⟨⟨r.takeWhile isWordChar, none, gap⟩, ⟨by simpa using hname, List.all_takeWhile, hgap, fun _ => hne⟩,
        rfl, ?_, hrest⟩
      calc '@' :: r = '@' :: (r.takeWhile isWordChar ++ r.dropWhile isWordChar) := by
              rw [List.takeWhile_append_dropWhile]
          _ = _ := by simp [hr, Attribute.text]
  · cases h

/-! ## All attributes -/

/-- The attributes are proper ones without arguments. -/
def ArePlain (attributes : List Attribute) : Prop := ∀ a ∈ attributes, a.IsProper ∧ a.IsPlain

section
variable {attributes : List Attribute} {rest code : Text}

theorem attributesText_cons (a : Attribute) (attributes : List Attribute) :
    attributesText (a :: attributes) = a.text ++ attributesText attributes := rfl

theorem length_le_length_attributesText (attributes : List Attribute) :
    attributes.length ≤ (attributesText attributes).length := by
  induction attributes with
  | nil => exact Nat.le_refl _
  | cons a attributes ih =>
    rw [attributesText_cons, List.length_append, Attribute.text, List.length_cons, List.length_cons]
    omega

/-- Nothing blank stands in front of attributes, if there is nothing in front of what follows them. -/
theorem trimStart_attributesText (hrest : Text.trimStart rest = rest) :
    Text.trimStart (attributesText attributes ++ rest) = attributesText attributes ++ rest := by
  cases attributes with
  | nil => exact hrest
  | cons a attributes => exact Text.trimStart_of_head (by decide) _

theorem dropUpTo_attributes (h : ArePlain attributes) (htight : Text.trimStart rest = rest)
    (hrest : attribute? rest = none) {n : Nat} (hn : attributes.length ≤ n) :
    dropUpTo attribute? n (attributesText attributes ++ rest) = rest := by
  induction attributes generalizing n with
  | nil =>
    cases n with
    | zero => rfl
    | succ n =>
      show dropUpTo attribute? (n + 1) rest = rest
      rw [dropUpTo, hrest]
  | cons a attributes ih =>
    obtain ⟨n, rfl⟩ : ∃ m, n = m + 1 := ⟨n - 1, by rw [List.length_cons] at hn; omega⟩
    obtain ⟨ha, hplain⟩ := h a (List.mem_cons_self ..)
    rw [attributesText_cons, List.append_assoc, dropUpTo,
      attribute?_of_isPlain ha hplain (trimStart_attributesText htight)]
    exact ih (fun b hb => h b (List.mem_cons_of_mem a hb)) (Nat.le_of_succ_le_succ hn)

theorem dropUpTo_sound {n : Nat} : ∃ attributes, ArePlain attributes ∧
    code = attributesText attributes ++ dropUpTo attribute? n code := by
  induction n generalizing code with
  | zero => exact ⟨[], by simp [ArePlain], rfl⟩
  | succ n ih =>
    unfold dropUpTo
    split
    · rename_i next hnext
      obtain ⟨a, ha, hplain, hcode, -⟩ := attribute?_sound hnext
      obtain ⟨attributes, hattributes, hrest⟩ := @ih next
      refine ⟨a :: attributes, ?_, ?_⟩
      · rintro b (_ | ⟨_, hb⟩)
        · exact ⟨ha, hplain⟩
        · exact hattributes b hb
      · rw [attributesText_cons, List.append_assoc, ← hrest, ← hcode]
    · exact ⟨[], by simp [ArePlain], rfl⟩

theorem dropAll_attributes (h : ArePlain attributes) (htight : Text.trimStart rest = rest)
    (hrest : attribute? rest = none) : dropAll attribute? (attributesText attributes ++ rest) = rest := by
  have hlength := length_le_length_attributesText attributes
  exact dropUpTo_attributes h htight hrest (by rw [List.length_append]; omega)

/-- Attributes without arguments are skipped in front of the word `import`. -/
theorem afterImport?_text (h : ArePlain attributes) :
    afterImport? (attributesText attributes ++ ("import".toList ++ rest)) = some rest := by
  have hword : dropAll attribute? (attributesText attributes ++ ("import".toList ++ rest)) = "import".toList ++ rest :=
    dropAll_attributes h (Text.trimStart_of_head (by decide) _) rfl
  rw [afterImport?, hword]
  exact Text.dropStart?_eq_some_iff.2 rfl

theorem afterImport?_sound (h : afterImport? code = some rest) :
    ∃ attributes, ArePlain attributes ∧ code = attributesText attributes ++ ("import".toList ++ rest) := by
  obtain ⟨attributes, hattributes, hcode⟩ := @dropUpTo_sound code code.length
  refine ⟨attributes, hattributes, ?_⟩
  rw [← Text.dropStart?_eq_some_iff.1 h]
  exact hcode

/-- Where the first attribute with arguments stands, the word `import` is expected and not found. -/
theorem afterImport?_of_arguments (h : ArePlain attributes) {a : Attribute} (ha : a.IsProper)
    (harguments : ¬ a.IsPlain) : afterImport? (attributesText attributes ++ (a.text ++ rest)) = none := by
  have hstop : dropAll attribute? (attributesText attributes ++ (a.text ++ rest)) = a.text ++ rest :=
    dropAll_attributes h (Text.trimStart_of_head (by decide) _) (attribute?_of_not_isPlain ha harguments)
  rw [afterImport?, hstop]
  rfl

end

/-! ## Statements that are recognised -/

theorem endsStatement_iff {t : Text} : endsStatement t = true ↔
    ∃ space, Text.isAllBlank space = true ∧ ∃ semicolon : Bool, t = space ++ if semicolon then [';'] else [] := by
  rw [endsStatement, Bool.or_eq_true, beq_iff_eq, List.isEmpty_iff]
  constructor
  · intro h
    refine ⟨Text.leading t, Text.isAllBlank_leading t, ?_⟩
    obtain h | h := h
    · exact ⟨false, h ▸ (Text.leading_append_trimStart t).symm⟩
    · exact ⟨true, h ▸ (Text.leading_append_trimStart t).symm⟩
  · rintro ⟨space, hspace, semicolon, rfl⟩
    rw [Text.trimStart_append_of_isAllBlank hspace]
    cases semicolon
    · exact .inl rfl
    · exact .inr rfl

theorem any_dropStart?_iff {start t : Text} {p : Text → Bool} :
    (Text.dropStart? start t).any p = true ↔ ∃ rest, t = start ++ rest ∧ p rest = true := by
  simp only [Option.any_eq_true, Text.dropStart?_eq_some_iff]

theorem namesModule_iff {moduleName t : Text} : namesModule moduleName t = true ↔
    ∃ gap rest, Text.isAllBlank gap = true ∧ gap ≠ [] ∧ endsStatement rest = true ∧
      t = gap ++ (moduleName ++ rest) := by
  induction t with
  | nil => simp [namesModule]
  | cons c t ih =>
    rw [namesModule, Bool.and_eq_true, Bool.or_eq_true, ih, any_dropStart?_iff]
    constructor
    · rintro ⟨hc, ⟨rest, rfl, hrest⟩ | ⟨gap, rest, hgap, -, hrest, rfl⟩⟩
      · exact ⟨[c], rest, Text.isAllBlank_cons_iff.2 ⟨hc, rfl⟩, List.cons_ne_nil _ _, hrest, rfl⟩
      · exact ⟨c :: gap, rest, Text.isAllBlank_cons_iff.2 ⟨hc, hgap⟩, List.cons_ne_nil _ _, hrest, rfl⟩
    · rintro ⟨gap, rest, hgap, hne, hrest, ht⟩
      cases gap with
      | nil => exact absurd rfl hne
      | cons b gap =>
        obtain ⟨rfl, rfl⟩ := List.cons.inj ht
        rw [Text.isAllBlank_cons_iff] at hgap
        refine ⟨hgap.1, ?_⟩
        cases gap with
        | nil => exact .inl ⟨rest, rfl, hrest⟩
        | cons d gap => exact .inr ⟨d :: gap, rest, hgap.2, List.cons_ne_nil _ _, hrest, rfl⟩

/-- Code imports a module if and only if it is a statement that does, and no attribute in it has arguments. -/
theorem importsModule_iff {moduleName code : Text} : importsModule moduleName code = true ↔
    ∃ st : ImportStatement, st.IsProper ∧ st.IsPlain ∧ st.moduleName = moduleName ∧ code = st.text := by
  rw [importsModule]
  constructor
  · intro h
    obtain ⟨rest, hrest, hnames⟩ := (Option.any_eq_true _ _).1 h
    obtain ⟨attributes, hattributes, rfl⟩ := afterImport?_sound hrest
    obtain ⟨gap, ending, hgap, hne, hends, rfl⟩ := namesModule_iff.1 hnames
    obtain ⟨space, hspace, semicolon, rfl⟩ := endsStatement_iff.1 hends
    exact ⟨⟨attributes, gap, moduleName, space, semicolon⟩, ⟨fun a ha => (hattributes a ha).1, hgap, hne, hspace⟩,
      fun a ha => (hattributes a ha).2, rfl, rfl⟩
  · rintro ⟨st, hst, hplain, rfl, rfl⟩
    rw [ImportStatement.text, afterImport?_text fun a ha => ⟨hst.attributes a ha, hplain a ha⟩, Option.any_some,
      namesModule_iff]
    have hends : endsStatement st.ending = true := endsStatement_iff.2 ⟨st.space, hst.space, st.semicolon, rfl⟩
    exact ⟨st.gap, st.ending, hst.gap, hst.gap_ne_nil, hends, rfl⟩

/-- Code imports anything if and only if the word follows attributes without arguments, and something follows the
blanks behind it. -/
theorem isImport_iff {code : Text} : isImport code = true ↔
    ∃ attributes gap rest, ArePlain attributes ∧ Text.isAllBlank gap = true ∧ gap ≠ [] ∧ rest ≠ [] ∧
      Text.trimStart rest = rest ∧ code = attributesText attributes ++ ("import".toList ++ (gap ++ rest)) := by
  rw [isImport]
  constructor
  · intro h
    split at h
    · rename_i rest hrest
      obtain ⟨attributes, hattributes, rfl⟩ := afterImport?_sound hrest
      obtain ⟨name, hname, hne⟩ := (Option.any_eq_true _ _).1 h
      obtain ⟨gap, hgap, hgapne, rfl, htight⟩ := dropBlanks?_sound hname
      exact ⟨attributes, gap, name, hattributes, hgap, hgapne, by simpa using hne, htight, rfl⟩
    · cases h
  · rintro ⟨attributes, gap, rest, hattributes, hgap, hne, hrest, htight, rfl⟩
    rw [afterImport?_text hattributes]
    simp [dropBlanks?_append hgap hne htight, hrest]

/-- A statement with an attribute that has arguments is not recognised, of whatever module: the search ends at that
attribute. -/
theorem afterImport?_of_not_isPlain {st : ImportStatement} (hst : st.IsProper) (h : ¬ st.IsPlain) :
    afterImport? st.text = none := by
  obtain ⟨a, ha⟩ : ∃ a, st.attributes.find? (·.arguments.isSome) = some a := by
    refine Option.ne_none_iff_exists'.1 fun hnone => h fun a ha => ?_
    simpa [Attribute.IsPlain] using List.find?_eq_none.1 hnone a ha
  obtain ⟨hsome, front, back, hsplit, hfront⟩ := List.find?_eq_some_iff_append.1 ha
  have hproper : ∀ b ∈ front ++ a :: back, b.IsProper := hsplit ▸ hst.attributes
  have htext : st.text = attributesText front ++ (a.text ++ (attributesText back ++
      ("import".toList ++ (st.gap ++ (st.moduleName ++ st.ending))))) := by
    simp [ImportStatement.text, hsplit, attributesText]
  rw [htext]
  refine afterImport?_of_arguments (fun b hb => ⟨hproper b (by simp [hb]), ?_⟩) (hproper a (by simp)) fun hplain => ?_
  · simpa [Attribute.IsPlain] using hfront b hb
  · rw [hplain] at hsome
    cases hsome

end Source

end SdkGraft
