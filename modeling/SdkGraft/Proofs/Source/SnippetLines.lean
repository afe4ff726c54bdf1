import SdkGraft.Proofs.Source.Lexing
import SdkGraft.Proofs.Text.Occurrence
import SdkGraft.Source.Snippet

/-!
# The lines of the inserted code

* `Credentials.clientId_fits`, `Credentials.clientSecret_fits` : what a credential cannot hold;
* `shownUnits`, `of_unit` : what the code can be indented by;
* `snippet_of_constructor` : a constructor is the branch one unit deeper between two lines;
* `exists_call_in_snippet` : some line of the inserted code holds the call, whatever the names;
* `Sdk.Lacks` : a character that none of the names holds;
* `snippet_eq_call_cons`, `snippet_eq_around` : where names have no line feed, the credentials stand in
  one line only;
* `isOneLine_of_mem_snippet` : where they have no carriage return either, the lines have none.
-/

namespace SdkGraft

/-! ## Credentials -/

/-- The text can stand between the quotes of a literal. -/
structure Fits (t : Text) : Prop where
  no_quote : '"' ∉ t
  no_backslash : '\\' ∉ t
  no_control : ∀ c ∈ t, Credential.isControl c = false

theorem fits_of_problem?_eq_none {t : Text} (h : Credential.problem? t = none) : Fits t := by
  simp only [Credential.problem?] at h
  split at h
  · cases h
  split at h
  · cases h
  split at h
  · cases h
  split at h
  · cases h
  rename_i hquote hback hcontrol
  exact ⟨by simpa using hquote, by simpa using hback, by simpa using hcontrol⟩

theorem Fits.not_mem {t : Text} (h : Fits t) {ch : Char} (hch : Credential.isControl ch = true) : ch ∉ t :=
  fun hm => by simp [h.no_control _ hm] at hch

theorem Credentials.clientId_fits (c : Credentials) : Fits c.clientId :=
  fits_of_problem?_eq_none c.clientId_fit

theorem Credentials.clientSecret_fits (c : Credentials) : Fits c.clientSecret :=
  fits_of_problem?_eq_none c.clientSecret_fit

end SdkGraft

namespace SdkGraft.Source

variable (sdk : Sdk) (c : Credentials)

/-! ## Units -/

def shownUnits : List Text := [['\t'], "    ".toList, "  ".toList]

theorem mem_shownUnits {lines : List Text} {unit : Text} (h : detectUnit lines = some unit) :
    unit ∈ shownUnits := by
  rw [detectUnit, unitOf] at h
  split at h
  · cases h; simp [shownUnits]
  split at h
  · cases h
  split at h
  · cases h; simp [shownUnits]
  split at h
  · cases h; simp [shownUnits]
  · cases h

/-- What holds of the units that documents show, and of the default, holds of the unit to indent by. -/
theorem of_unit {P : Text → Prop} (hshown : ∀ u ∈ shownUnits, P u) {lines : List Text} {default : Option Text}
    (hdefault : ∀ u ∈ default, P u) {unit : Text} (h : (detectUnit lines).or default = some unit) : P unit := by
  cases hd : detectUnit lines with
  | none =>
    rw [hd, Option.none_or] at h
    exact hdefault unit h
  | some u =>
    rw [hd, Option.some_or] at h
    cases h
    exact hshown unit (mem_shownUnits hd)

/-! ## Margins -/

/-- What stands before a line that is `depth` units deeper than `base`. -/
def margin (base unit : Text) (depth : Nat) : Text := base ++ (List.replicate depth unit).flatten

@[simp] theorem margin_zero (base unit : Text) : margin base unit 0 = base := by simp [margin]

theorem margin_succ (base unit : Text) (depth : Nat) :
    margin base unit (depth + 1) = margin (base ++ unit) unit depth := by
  simp [margin, List.replicate_succ]

theorem isAllBlank_margin {base unit : Text} (hb : Text.isAllBlank base = true)
    (hu : Text.isAllBlank unit = true) (depth : Nat) : Text.isAllBlank (margin base unit depth) = true :=
  Text.isAllBlank_append hb (Text.isAllBlank_flatten_replicate hu depth)

theorem reindentLine_of_blank {line : Text} (h : Text.isAllBlank line = true) (base unit : Text)
    (outer width : Nat) : reindentLine base unit outer width line = [] := by rw [reindentLine, if_pos h]

theorem reindentLine_of_not_blank {line : Text} (h : Text.isAllBlank line = false) (base unit : Text)
    (outer width : Nat) :
    reindentLine base unit outer width line =
      margin base unit (level outer width line) ++ Text.trimStart line := by
  rw [reindentLine, if_neg (by simp [h]), margin]

theorem bare_reindentLine {base unit : Text} (hb : Text.isAllBlank base = true)
    (hu : Text.isAllBlank unit = true) (outer width : Nat) (line : Text) :
    bare (reindentLine base unit outer width line) = bare line := by
  cases h : Text.isAllBlank line with
  | true => rw [reindentLine_of_blank h, bare, bare, Text.trim_of_isAllBlank h]; rfl
  | false =>
    rw [reindentLine_of_not_blank h, bare, bare,
      Text.trim_append_of_isAllBlank (isAllBlank_margin hb hu _), Text.trim_trimStart]

/-- A line that holds more than blanks and is not indented makes the width of the block zero. -/
theorem outerWidth_eq_zero {lines : List Text} {line : Text} (hm : line ∈ lines)
    (hb : Text.isAllBlank line = false) (hl : Text.leading line = []) : outerWidth lines = 0 := by
  have hmem : 0 ∈ (indents lines).map List.length :=
    List.mem_map.2 ⟨[], List.mem_map.2 ⟨line, List.mem_filter.2 ⟨hm, by simp [hb]⟩, hl⟩, rfl⟩
  exact Nat.le_zero.1 (List.min?_getD_le_of_mem hmem)

/-! ## The call -/

def callArguments : Text :=
  "(clientID: \"".toList ++ (c.clientId ++ ("\", clientSecret: \"".toList
    ++ (c.clientSecret ++ "\") == ".toList)))

theorem callLine_eq : callLine sdk c =
    "if ".toList ++ sdk.initCall ++ (callArguments c ++ (sdk.successCase ++ " \x7b".toList)) := by
  unfold callLine callArguments
  simp only [List.append_assoc]

theorem not_mem_of_isControl {t : Text} (h : t.any Credential.isControl = false) {ch : Char}
    (hch : Credential.isControl ch = true) : ch ∉ t := fun hm =>
  List.any_eq_false.1 h ch hm hch

theorem not_mem_callArguments {ch : Char} (hch : Credential.isControl ch = true) : ch ∉ callArguments c := by
  have h1 := c.clientId_fits.not_mem hch
  have h2 := c.clientSecret_fits.not_mem hch
  unfold callArguments
  simp only [List.mem_append, not_or]
  exact ⟨not_mem_of_isControl (by decide) hch, h1, not_mem_of_isControl (by decide) hch, h2,
    not_mem_of_isControl (by decide) hch⟩

theorem lines_branch_head {sdk : Sdk} (h : '\n' ∉ sdk.initCall) :
    ∃ tail rest, Text.lines (branch sdk c) =
      ("if ".toList ++ sdk.initCall ++ (callArguments c ++ tail)) :: rest := by
  have hno : '\n' ∉ "if ".toList ++ sdk.initCall ++ callArguments c := by
    simp only [List.mem_append, not_or]
    exact ⟨⟨by decide, h⟩, not_mem_callArguments c rfl⟩
  obtain ⟨rest, hrest⟩ : ∃ rest, branch sdk c =
      ("if ".toList ++ sdk.initCall ++ callArguments c) ++ rest := by
    rw [branch, Text.unlines_cons (by simp), callLine_eq, ← List.append_assoc, List.append_assoc _ _ ('\n' :: _)]
    exact ⟨_, rfl⟩
  obtain ⟨piece, pieces, -, hlines⟩ := Text.splitAt_append_of_not_mem hno rest
  exact ⟨piece, pieces, by rw [hrest, Text.lines, hlines, List.append_assoc]⟩

/-! ## The branch and the constructor -/

theorem exists_lines_branch :
    ∃ tail rest, Text.lines (branch sdk c) = ("if ".toList ++ tail) :: rest := by
  obtain ⟨rest, hrest⟩ : ∃ rest, branch sdk c = "if ".toList ++ rest := by
    rw [branch, Text.unlines_cons (by simp), callLine_eq, List.append_assoc, List.append_assoc]
    exact ⟨_, rfl⟩
  obtain ⟨piece, pieces, -, hlines⟩ :=
    Text.splitAt_append_of_not_mem (show '\n' ∉ "if ".toList by decide) rest
  exact ⟨piece, pieces, by rw [hrest, Text.lines, hlines]⟩

theorem outerWidth_branch : outerWidth (Text.lines (branch sdk c)) = 0 := by
  obtain ⟨tail, rest, h⟩ := exists_lines_branch sdk c
  have hhead : "if ".toList ++ tail = 'i' :: ("f ".toList ++ tail) := rfl
  rw [h]
  exact outerWidth_eq_zero List.mem_cons_self (hhead ▸ Text.isAllBlank_of_head (by decide) _)
    (hhead ▸ Text.leading_of_head (by decide) _)

theorem snippet_of_branch (base unit : Text) :
    snippet sdk c base unit false =
      (Text.lines (branch sdk c)).map (reindentLine base unit 0 snippetIndent.length) := by
  rw [snippet, snippetCode, if_neg (by simp), reindent, outerWidth_branch]

/-- The lines of a constructor: those of the branch one level deeper, between two of its own. -/
theorem lines_constructorBlock :
    Text.lines (constructorBlock sdk c) =
      "init() \x7b".toList :: ((Text.lines (branch sdk c)).map deeper ++ ["\x7d".toList]) := by
  have hne : (Text.lines (branch sdk c)).map deeper ≠ [] :=
    fun h => Text.splitAt_ne_nil _ _ (List.map_eq_nil_iff.1 h)
  have hopen : "init() \x7b\n".toList = "init() \x7b".toList ++ ['\n'] := rfl
  have hclose : "\n\x7d".toList = '\n' :: "\x7d".toList := rfl
  have hblock : constructorBlock sdk c =
      Text.unlines ("init() \x7b".toList :: ((Text.lines (branch sdk c)).map deeper ++ ["\x7d".toList])) := by
    rw [Text.unlines_cons (by simp), Text.unlines_concat hne]
    unfold constructorBlock
    rw [hopen, hclose, List.append_assoc, List.append_assoc, List.singleton_append]
  rw [hblock]
  refine Text.lines_unlines (by simp) fun l hl => ?_
  rw [List.mem_cons, List.mem_append, List.mem_map, List.mem_singleton] at hl
  rcases hl with rfl | ⟨line, hline, rfl⟩ | rfl
  · decide
  · have hno : '\n' ∉ line := Text.not_mem_of_mem_splitAt hline
    rw [deeper]
    split
    · exact hno
    · rw [List.mem_append, not_or]; exact ⟨by decide, hno⟩
  · decide

theorem isAllBlank_deeper (line : Text) : Text.isAllBlank (deeper line) = Text.isAllBlank line := by
  rw [deeper]
  split
  · rfl
  · rw [Text.isAllBlank, List.all_append]
    exact Bool.true_and _

theorem reindentLine_deeper (base unit line : Text) :
    reindentLine base unit 0 snippetIndent.length (deeper line) =
      reindentLine (base ++ unit) unit 0 snippetIndent.length line := by
  cases h : Text.isAllBlank line with
  | true => rw [reindentLine_of_blank h, reindentLine_of_blank (by rw [isAllBlank_deeper, h])]
  | false =>
    have hdeeper : deeper line = snippetIndent ++ line := by
      rw [deeper, if_neg]
      intro he
      rw [List.isEmpty_iff.1 he] at h
      cases h
    have hstart : Text.trimStart (snippetIndent ++ line) = Text.trimStart line :=
      Text.trimStart_append_of_isAllBlank (by decide) line
    have hlevel : level 0 snippetIndent.length (snippetIndent ++ line) =
        level 0 snippetIndent.length line + 1 := by
      have hlen : snippetIndent.length = 4 := rfl
      rw [level, level, Text.leading_append_of_isAllBlank (by decide), List.length_append, hlen]
      omega
    rw [reindentLine_of_not_blank (by rw [isAllBlank_deeper, h]), reindentLine_of_not_blank h, hdeeper,
      hstart, hlevel, margin_succ]

/-- A constructor is the branch one unit deeper between the two lines that open and close it. -/
theorem snippet_of_constructor (base unit : Text) :
    snippet sdk c base unit true =
      (base ++ "init() \x7b".toList) ::
        (snippet sdk c (base ++ unit) unit false ++ [base ++ "\x7d".toList]) := by
  have houter : outerWidth ("init() \x7b".toList ::
      ((Text.lines (branch sdk c)).map deeper ++ ["\x7d".toList])) = 0 :=
    outerWidth_eq_zero List.mem_cons_self (by decide) (by decide)
  have hopen : reindentLine base unit 0 snippetIndent.length "init() \x7b".toList =
      base ++ "init() \x7b".toList := by
    rw [reindentLine_of_not_blank (by decide), show level 0 snippetIndent.length "init() \x7b".toList = 0
      from rfl, margin_zero]
    rfl
  have hclose : reindentLine base unit 0 snippetIndent.length "\x7d".toList = base ++ "\x7d".toList := by
    rw [reindentLine_of_not_blank (by decide), show level 0 snippetIndent.length "\x7d".toList = 0
      from rfl, margin_zero]
    rfl
  have hinner : ((Text.lines (branch sdk c)).map deeper).map (reindentLine base unit 0 snippetIndent.length)
      = snippet sdk c (base ++ unit) unit false := by
    rw [snippet_of_branch, List.map_map]
    exact List.map_congr_left fun line _ => reindentLine_deeper base unit line
  rw [snippet, snippetCode, if_pos rfl, reindent, lines_constructorBlock, houter, List.map_cons,
    List.map_append, hopen, hinner, List.map_cons, List.map_nil, hclose]

theorem exists_call_in_snippet {sdk : Sdk} (h : '\n' ∉ sdk.initCall) (base unit : Text)
    (withConstructor : Bool) :
    ∃ line ∈ snippet sdk c base unit withConstructor, Text.occursIn sdk.initCall line = true := by
  have hbranch : ∀ base, ∃ line ∈ snippet sdk c base unit false,
      Text.occursIn sdk.initCall line = true := by
    intro base
    obtain ⟨tail, rest, hlines⟩ := lines_branch_head c h
    have hhead : "if ".toList ++ sdk.initCall ++ (callArguments c ++ tail) =
        'i' :: ("f ".toList ++ sdk.initCall ++ (callArguments c ++ tail)) := rfl
    rw [snippet_of_branch, hlines, List.map_cons]
    refine ⟨_, List.mem_cons_self, ?_⟩
    rw [reindentLine_of_not_blank (hhead ▸ Text.isAllBlank_of_head (by decide) _)]
    have htrim : Text.trimStart ("if ".toList ++ sdk.initCall ++ (callArguments c ++ tail)) =
        "if ".toList ++ sdk.initCall ++ (callArguments c ++ tail) := by
      rw [hhead]
      exact Text.trimStart_of_head (by decide) _
    rw [htrim]
    exact Text.occursIn_append_left _ (Text.occursIn_middle _ _ _)
  cases withConstructor with
  | false => exact hbranch base
  | true =>
    obtain ⟨line, hm, hline⟩ := hbranch (base ++ unit)
    rw [snippet_of_constructor]
    exact ⟨line, by simp [hm], hline⟩

/-! ## Names on one line -/

structure Sdk.Lacks (ch : Char) : Prop where
  moduleName : ch ∉ sdk.moduleName
  initCall : ch ∉ sdk.initCall
  successCase : ch ∉ sdk.successCase

instance (ch : Char) : Decidable (sdk.Lacks ch) :=
  decidable_of_iff (ch ∉ sdk.moduleName ∧ ch ∉ sdk.initCall ∧ ch ∉ sdk.successCase)
    ⟨fun h => ⟨h.1, h.2.1, h.2.2⟩, fun h => ⟨h.1, h.2, h.3⟩⟩

/-- The lines of the branch behind the call. -/
def branchTail : List Text :=
  ["    // Register an echo code here if users must be identified per customer".toList,
    echoLine sdk,
    "\x7d else \x7b".toList,
    "    // Initialization failed".toList,
    "\x7d".toList]

theorem not_mem_callLine {sdk : Sdk} {ch : Char} (hch : Credential.isControl ch = true) (h : sdk.Lacks ch) :
    ch ∉ callLine sdk c := by
  have hargs := not_mem_callArguments c hch
  rw [callLine_eq]
  simp only [List.mem_append, not_or]
  exact ⟨⟨not_mem_of_isControl (by decide) hch, h.initCall⟩, hargs, h.successCase,
    not_mem_of_isControl (by decide) hch⟩

theorem not_mem_echoLine {sdk : Sdk} {ch : Char} (hch : Credential.isControl ch = true) (h : sdk.Lacks ch) :
    ch ∉ echoLine sdk := by
  unfold echoLine
  simp only [List.mem_append, not_or]
  exact ⟨⟨not_mem_of_isControl (by decide) hch, h.moduleName⟩, not_mem_of_isControl (by decide) hch⟩

theorem not_mem_branch {sdk : Sdk} {ch : Char} (hch : Credential.isControl ch = true) (h : sdk.Lacks ch)
    {l : Text} (hl : l ∈ callLine sdk c :: branchTail sdk) : ch ∉ l := by
  simp only [branchTail, List.mem_cons, List.not_mem_nil, or_false] at hl
  rcases hl with rfl | rfl | rfl | rfl | rfl | rfl
  · exact not_mem_callLine c hch h
  · exact not_mem_of_isControl (by decide) hch
  · exact not_mem_echoLine hch h
  · exact not_mem_of_isControl (by decide) hch
  · exact not_mem_of_isControl (by decide) hch
  · exact not_mem_of_isControl (by decide) hch

theorem lines_branch {sdk : Sdk} (h : sdk.Lacks '\n') :
    Text.lines (branch sdk c) = callLine sdk c :: branchTail sdk :=
  Text.lines_unlines (by simp) fun _ hl => not_mem_branch c rfl h hl

theorem callLine_head : ∃ middle, callLine sdk c = 'i' :: middle ++ ['\x7b'] := by
  refine ⟨"f ".toList ++ sdk.initCall ++ (callArguments c ++ (sdk.successCase ++ " ".toList)), ?_⟩
  rw [callLine_eq, show "if ".toList = 'i' :: "f ".toList from rfl,
    show " \x7b".toList = " ".toList ++ ['\x7b'] from rfl]
  simp only [List.append_assoc, List.cons_append]

theorem reindentLine_callLine (base unit : Text) :
    reindentLine base unit 0 snippetIndent.length (callLine sdk c) = base ++ callLine sdk c := by
  obtain ⟨middle, h⟩ := callLine_head sdk c
  rw [h, List.cons_append, reindentLine_of_not_blank (Text.isAllBlank_of_head (by decide) _),
    Text.trimStart_of_head (by decide), level, Text.leading_of_head (by decide)]
  simp

theorem snippet_eq_call_cons {sdk : Sdk} (h : sdk.Lacks '\n') (base unit : Text) :
    snippet sdk c base unit false =
      (base ++ callLine sdk c) :: (branchTail sdk).map (reindentLine base unit 0 snippetIndent.length) := by
  rw [snippet_of_branch, lines_branch c h, List.map_cons, reindentLine_callLine]

/-- The line that opens a constructor, if there is one. -/
def openingLines (base : Text) (withConstructor : Bool) : List Text :=
  if withConstructor then [base ++ "init() \x7b".toList] else []

/-- Where the call stands in the inserted code. -/
def callMargin (base unit : Text) (withConstructor : Bool) : Text :=
  if withConstructor then base ++ unit else base

/-- With or without a constructor, the credentials stand in one line only. -/
theorem snippet_eq_around {sdk : Sdk} (h : sdk.Lacks '\n') (base unit : Text) (withConstructor : Bool) :
    ∃ after, ∀ c, snippet sdk c base unit withConstructor = openingLines base withConstructor ++
      (callMargin base unit withConstructor ++ callLine sdk c) :: after := by
  cases withConstructor with
  | false => exact ⟨_, fun c => snippet_eq_call_cons c h base unit⟩
  | true =>
    refine ⟨(branchTail sdk).map (reindentLine (base ++ unit) unit 0 snippetIndent.length)
      ++ [base ++ "\x7d".toList], fun c => ?_⟩
    rw [snippet_of_constructor, snippet_eq_call_cons c h]
    rfl

/-! ## One line each -/

open Text (IsOneLine)

theorem mem_of_mem_reindentLine {base unit line : Text} {outer width : Nat} {ch : Char}
    (h : ch ∈ reindentLine base unit outer width line) : ch ∈ base ∨ ch ∈ unit ∨ ch ∈ line := by
  cases hblank : Text.isAllBlank line with
  | true =>
    rw [reindentLine_of_blank hblank] at h
    cases h
  | false =>
    rw [reindentLine_of_not_blank hblank, margin, List.mem_append, List.mem_append] at h
    obtain (h | h) | h := h
    · exact .inl h
    · obtain ⟨u, hu, h⟩ := List.mem_flatten.1 h
      rw [List.eq_of_mem_replicate hu] at h
      exact .inr (.inl h)
    · exact .inr (.inr ((List.dropWhile_sublist isBlank).subset h))

theorem isOneLine_reindentLine {base unit line : Text} (hb : IsOneLine base) (hu : IsOneLine unit)
    (hl : IsOneLine line) (outer width : Nat) : IsOneLine (reindentLine base unit outer width line) := by
  intro ch hch
  obtain h | h | h := mem_of_mem_reindentLine hch
  · exact hb ch h
  · exact hu ch h
  · exact hl ch h

/-- Where no name and no indentation breaks a line, no line of the inserted code does. -/
theorem isOneLine_of_mem_snippet {sdk : Sdk} (hlf : sdk.Lacks '\n') (hcr : sdk.Lacks '\r') {base unit : Text}
    (hb : IsOneLine base) (hu : IsOneLine unit) {withConstructor : Bool} {l : Text}
    (h : l ∈ snippet sdk c base unit withConstructor) : IsOneLine l := by
  have branch : ∀ base, IsOneLine base → ∀ l ∈ snippet sdk c base unit false, IsOneLine l := by
    intro base hb l hl
    rw [snippet_of_branch, lines_branch c hlf, List.mem_map] at hl
    obtain ⟨line, hline, rfl⟩ := hl
    exact isOneLine_reindentLine hb hu
      (Text.isOneLine_iff.2 ⟨not_mem_branch c rfl hcr hline, not_mem_branch c rfl hlf hline⟩) _ _
  cases withConstructor with
  | false => exact branch base hb l h
  | true =>
    rw [snippet_of_constructor, List.mem_cons, List.mem_append, List.mem_singleton] at h
    rcases h with rfl | h | rfl
    · exact hb.append (by decide)
    · exact branch _ (hb.append hu) l h
    · exact hb.append (by decide)

end SdkGraft.Source
