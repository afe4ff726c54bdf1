import Mathlib.Tactic.Conv
import SdkGraft.Proofs.Source.SnippetLines

/-!
# The inserted code as code

Where the names of the library hold no quotes and no line feeds:

* `isAllBlank_of_unit` : what the code is indented by;
* `bare_callLine`, `literals_callLine` : the call without its credentials, and the credentials as the
  literals of the call;
* `map_bare_snippet` : the inserted code is the same code whatever the credentials are;
* `deepens_snippet` : if the names hold no braces, slashes and stars either, it leaves comments and
  braces as it finds them, whether a block comment is open or not;
* `codePartsFrom_snippet`, `codePartsFrom_snippet_of_open` : its code line by line, which is none in a
  block comment.
-/

namespace SdkGraft.Source

variable (sdk : Sdk) (c : Credentials)

/-! ## Indentation -/

/-- A unit is made of blanks if the default is. -/
theorem isAllBlank_of_unit {lines : List Text} {default : Option Text} {unit : Text}
    (hdefault : ∀ u ∈ default, Text.isAllBlank u = true) (h : (detectUnit lines).or default = some unit) :
    Text.isAllBlank unit = true := of_unit (by decide) hdefault h

/-! ## The call as code -/

/-- The call as code: its credentials are gone. -/
def bareCall : Text :=
  "if ".toList ++ sdk.initCall ++ ("(clientID: \"\", clientSecret: \"\") == ".toList ++
    (sdk.successCase ++ " \x7b".toList))

theorem callArguments_eq : callArguments c =
    "(clientID: ".toList ++ ('"' :: (c.clientId ++ '"' :: (", clientSecret: ".toList ++
      ('"' :: (c.clientSecret ++ '"' :: ") == ".toList))))) := by
  unfold callArguments
  rw [show "(clientID: \"".toList = "(clientID: ".toList ++ ['"'] from rfl,
    show "\", clientSecret: \"".toList = '"' :: (", clientSecret: ".toList ++ ['"']) from rfl,
    show "\") == ".toList = '"' :: ") == ".toList from rfl]
  generalize "(clientID: ".toList = x, ", clientSecret: ".toList = y, ") == ".toList = z
  simp

theorem callLine_eq_literals : callLine sdk c =
    "if ".toList ++ sdk.initCall ++ ("(clientID: ".toList ++ ('"' :: (c.clientId ++ '"' ::
      (", clientSecret: ".toList ++ ('"' :: (c.clientSecret ++ '"' ::
        (") == ".toList ++ (sdk.successCase ++ " \x7b".toList)))))))) := by
  rw [callLine_eq, callArguments_eq]
  generalize "(clientID: ".toList = x, ", clientSecret: ".toList = y, ") == ".toList = z
  simp

theorem callLine_start_no_quote {sdk : Sdk} (h : sdk.Lacks '"') : '"' ∉ "if ".toList ++ sdk.initCall := by
  rw [List.mem_append, not_or]
  exact ⟨by decide, h.initCall⟩

theorem callLine_end_no_quote {sdk : Sdk} (h : sdk.Lacks '"') :
    '"' ∉ ") == ".toList ++ (sdk.successCase ++ " \x7b".toList) := by
  rw [List.mem_append, List.mem_append, not_or, not_or]
  exact ⟨by decide, h.successCase, by decide⟩

theorem eraseLiterals_callLine {sdk : Sdk} (h : sdk.Lacks '"') :
    eraseLiterals (callLine sdk c) = bareCall sdk := by
  have hid := c.clientId_fits
  have hsecret := c.clientSecret_fits
  rw [callLine_eq_literals, eraseLiterals_append_of_no_quote (callLine_start_no_quote h),
    eraseLiterals_append_of_no_quote (by decide), eraseLiterals_literal hid.no_quote hid.no_backslash,
    eraseLiterals_append_of_no_quote (by decide),
    eraseLiterals_literal hsecret.no_quote hsecret.no_backslash,
    eraseLiterals_of_no_quote (callLine_end_no_quote h)]
  rfl

theorem literals_callLine {sdk : Sdk} (h : sdk.Lacks '"') {before : Text} (hb : '"' ∉ before) :
    literals (before ++ callLine sdk c) = [c.clientId, c.clientSecret] := by
  have hid := c.clientId_fits
  have hsecret := c.clientSecret_fits
  rw [literals_append_of_no_quote hb, callLine_eq_literals,
    literals_append_of_no_quote (callLine_start_no_quote h), literals_append_of_no_quote (by decide),
    literals_literal hid.no_quote hid.no_backslash, literals_append_of_no_quote (by decide),
    literals_literal hsecret.no_quote hsecret.no_backslash,
    literals_of_no_quote (callLine_end_no_quote h)]

theorem bare_callLine {sdk : Sdk} (h : sdk.Lacks '"') {base : Text} (hb : Text.isAllBlank base = true) :
    bare (base ++ callLine sdk c) = bareCall sdk := by
  obtain ⟨middle, hcall⟩ := callLine_head sdk c
  rw [bare, Text.trim_append_of_isAllBlank hb]
  conv_lhs => rw [hcall, Text.trim_of_ends (by decide) (by decide), ← hcall]
  exact eraseLiterals_callLine c h

theorem map_bare_branch {base unit : Text} (hb : Text.isAllBlank base = true)
    (hu : Text.isAllBlank unit = true) {sdk : Sdk} (h : sdk.Lacks '\n') :
    (snippet sdk c base unit false).map bare = (callLine sdk c :: branchTail sdk).map bare := by
  rw [snippet_of_branch, lines_branch c h, List.map_map]
  exact List.map_congr_left fun line _ => bare_reindentLine hb hu _ _ line

/-- The inserted code is the same code whatever the credentials are. -/
theorem map_bare_snippet {base unit : Text} (hb : Text.isAllBlank base = true)
    (hu : Text.isAllBlank unit = true) {sdk : Sdk} (hquote : sdk.Lacks '"') (hlf : sdk.Lacks '\n')
    (c c' : Credentials) (withConstructor : Bool) :
    (snippet sdk c base unit withConstructor).map bare =
      (snippet sdk c' base unit withConstructor).map bare := by
  obtain ⟨after, h⟩ := snippet_eq_around hlf base unit withConstructor
  have hmargin : Text.isAllBlank (callMargin base unit withConstructor) = true := by
    cases withConstructor with
    | false => exact hb
    | true => exact Text.isAllBlank_append hb hu
  rw [h c, h c', List.map_append, List.map_append, List.map_cons, List.map_cons,
    bare_callLine c hquote hmargin, bare_callLine c' hquote hmargin]

theorem length_snippet {base unit : Text} (hb : Text.isAllBlank base = true)
    (hu : Text.isAllBlank unit = true) {sdk : Sdk} (hquote : sdk.Lacks '"') (hlf : sdk.Lacks '\n')
    (c c' : Credentials) (withConstructor : Bool) :
    (snippet sdk c base unit withConstructor).length = (snippet sdk c' base unit withConstructor).length := by
  have hmap := congrArg List.length (map_bare_snippet hb hu hquote hlf c c' withConstructor)
  rwa [List.length_map, List.length_map] at hmap

/-! ## Comments and braces -/

theorem bare_echoLine {sdk : Sdk} (h : sdk.Lacks '"') : bare (echoLine sdk) =
    '/' :: '/' :: ("  ".toList ++ (sdk.moduleName ++ ".setEchoCode(echoCode: ".toList) ++
      "\"\")".toList) := by
  have hmid : '"' ∉ "//  ".toList ++ (sdk.moduleName ++ ".setEchoCode(echoCode: ".toList) := by
    rw [List.mem_append, List.mem_append, not_or, not_or]
    exact ⟨by decide, h.moduleName, by decide⟩
  have hline : echoLine sdk = "    ".toList ++ (("//  ".toList ++ (sdk.moduleName ++
      ".setEchoCode(echoCode: ".toList)) ++
        "\"<customer user identifier, no personal data>\")".toList) := by
    unfold echoLine
    rw [show "    //  ".toList = "    ".toList ++ "//  ".toList from rfl,
      show ".setEchoCode(echoCode: \"<customer user identifier, no personal data>\")".toList =
        ".setEchoCode(echoCode: ".toList ++
          "\"<customer user identifier, no personal data>\")".toList from rfl]
    simp only [List.append_assoc]
  have hends : ∃ middle, ("//  ".toList ++ (sdk.moduleName ++ ".setEchoCode(echoCode: ".toList)) ++
      "\"<customer user identifier, no personal data>\")".toList = '/' :: middle ++ [')'] := by
    refine ⟨"/  ".toList ++ (sdk.moduleName ++ ".setEchoCode(echoCode: ".toList) ++
      "\"<customer user identifier, no personal data>\"".toList, ?_⟩
    rw [show "\"<customer user identifier, no personal data>\")".toList =
      "\"<customer user identifier, no personal data>\"".toList ++ [')'] from rfl, ← List.append_assoc]
    rfl
  obtain ⟨middle, hends⟩ := hends
  have hquoted : eraseLiterals "\"<customer user identifier, no personal data>\")".toList =
      "\"\")".toList := by decide
  rw [bare, hline, Text.trim_append_of_isAllBlank (by decide), hends,
    Text.trim_of_ends (by decide) (by decide), ← hends, eraseLiterals_append_of_no_quote hmid, hquoted]
  rfl

/-- The names can stand in code without a part in its comments, literals and braces. -/
structure Sdk.IsInert : Prop where
  quote : sdk.Lacks '"'
  lf : sdk.Lacks '\n'
  slash : sdk.Lacks '/'
  star : sdk.Lacks '*'
  opening : sdk.Lacks '\x7b'
  closing : sdk.Lacks '\x7d'

theorem not_mem_bareCall {sdk : Sdk} {ch : Char} (h : sdk.Lacks ch) (h1 : ch ∉ "if ".toList)
    (h2 : ch ∉ "(clientID: \"\", clientSecret: \"\") == ".toList) (h3 : ch ∉ " \x7b".toList) :
    ch ∉ bareCall sdk := by
  unfold bareCall
  simp only [List.mem_append, not_or]
  exact ⟨⟨h1, h.initCall⟩, h2, h.successCase, h3⟩

theorem count_opening_bareCall {sdk : Sdk} (h : sdk.Lacks '\x7b') : (bareCall sdk).count '\x7b' = 1 := by
  unfold bareCall
  simp only [List.count_append]
  rw [List.count_eq_zero.2 h.initCall, List.count_eq_zero.2 h.successCase]
  rfl

theorem star_not_mem_branch {sdk : Sdk} (h : sdk.IsInert) :
    ∀ line ∈ callLine sdk c :: branchTail sdk, '*' ∉ bare line := by
  intro line hline
  simp only [branchTail, List.mem_cons, List.not_mem_nil, or_false] at hline
  rcases hline with rfl | rfl | rfl | rfl | rfl | rfl
  · have hcall := bare_callLine c h.quote (show Text.isAllBlank [] = true from rfl)
    rw [List.nil_append] at hcall
    rw [hcall]
    exact not_mem_bareCall h.star (by decide) (by decide) (by decide)
  · decide
  · rw [bare_echoLine h.quote]
    simp only [List.mem_cons, List.mem_append, not_or]
    exact ⟨by decide, by decide, ⟨by decide, h.star.moduleName, by decide⟩, by decide⟩
  · decide
  · decide
  · decide

/-- The branch leaves comments and braces as it finds them. -/
theorem deepens_branch {sdk : Sdk} (h : sdk.IsInert) (inBlock : Bool) :
    Deepens inBlock (callLine sdk c :: branchTail sdk) 0 := by
  cases inBlock with
  | true => exact deepens_of_no_star (star_not_mem_branch c h)
  | false =>
    have hcall := bare_callLine c h.quote (show Text.isAllBlank [] = true from rfl)
    rw [List.nil_append] at hcall
    have call : Deepens false [callLine sdk c] 1 := by
      have hslash : '/' ∉ bareCall sdk :=
        not_mem_bareCall h.slash (by decide) (by decide) (by decide)
      have hclosing : '\x7d' ∉ bareCall sdk :=
        not_mem_bareCall h.closing (by decide) (by decide) (by decide)
      have hdeep : Deepens false [callLine sdk c] _ := deepens_of_no_slash (by rw [hcall]; exact hslash)
      rw [hcall, count_opening_bareCall h.opening, List.count_eq_zero.2 hclosing] at hdeep
      exact hdeep
    have register : Deepens false
        ["    // Register an echo code here if users must be identified per customer".toList] 0 :=
      ⟨by decide, by decide⟩
    have echo : Deepens false [echoLine sdk] 0 := deepens_of_comment (bare_echoLine h.quote)
    have otherwise : Deepens false ["\x7d else \x7b".toList] 0 := ⟨by decide, by decide⟩
    have failed : Deepens false ["    // Initialization failed".toList] 0 := ⟨by decide, by decide⟩
    have close : Deepens false ["\x7d".toList] (-1) := ⟨by decide, by decide⟩
    unfold branchTail
    exact call.cons (register.cons (echo.cons (otherwise.cons (failed.cons close))))

/-- The inserted code holds no star, in whatever comment it ends up. -/
theorem star_not_mem_snippet {base unit : Text} (hb : Text.isAllBlank base = true)
    (hu : Text.isAllBlank unit = true) {sdk : Sdk} (h : sdk.IsInert) (withConstructor : Bool) :
    ∀ line ∈ snippet sdk c base unit withConstructor, '*' ∉ bare line := by
  have branch : ∀ base, Text.isAllBlank base = true → ∀ line ∈ snippet sdk c base unit false, '*' ∉ bare line := by
    intro base hb line hline
    have hmem := List.mem_map_of_mem (f := bare) hline
    rw [map_bare_branch c hb hu h.lf] at hmem
    obtain ⟨line', hline', hbare⟩ := List.mem_map.1 hmem
    rw [← hbare]
    exact star_not_mem_branch c h line' hline'
  cases withConstructor with
  | false => exact branch base hb
  | true =>
    intro line hline
    rw [snippet_of_constructor, List.mem_cons, List.mem_append, List.mem_singleton] at hline
    rcases hline with rfl | hline | rfl
    · rw [bare, Text.trim_append_of_isAllBlank hb]
      decide
    · exact branch _ (Text.isAllBlank_append hb hu) line hline
    · rw [bare, Text.trim_append_of_isAllBlank hb]
      decide

/-- The inserted code leaves comments and braces as it finds them. -/
theorem deepens_snippet {base unit : Text} (hb : Text.isAllBlank base = true)
    (hu : Text.isAllBlank unit = true) {sdk : Sdk} (h : sdk.IsInert) (inBlock withConstructor : Bool) :
    Deepens inBlock (snippet sdk c base unit withConstructor) 0 := by
  cases inBlock with
  | true => exact deepens_of_no_star (star_not_mem_snippet c hb hu h withConstructor)
  | false =>
    have branch : ∀ base, Text.isAllBlank base = true → Deepens false (snippet sdk c base unit false) 0 :=
      fun base hb => (deepens_branch c h false).of_bare (map_bare_branch c hb hu h.lf)
    cases withConstructor with
    | false => exact branch base hb
    | true =>
      have bare_of_base : ∀ line : Text, [base ++ line].map bare = [line].map bare := fun line => by
        rw [List.map_singleton, bare, Text.trim_append_of_isAllBlank hb]
        rfl
      have opening : Deepens false [base ++ "init() \x7b".toList] 1 :=
        Deepens.of_bare (bare_of_base _) ⟨by decide, by decide⟩
      have closing : Deepens false [base ++ "\x7d".toList] (-1) :=
        Deepens.of_bare (bare_of_base _) ⟨by decide, by decide⟩
      rw [snippet_of_constructor]
      exact opening.cons ((branch _ (Text.isAllBlank_append hb hu)).append closing)

/-! ## Line by line -/

def branchCodes (sdk : Sdk) : List Text := [bareCall sdk, [], [], "\x7d else \x7b".toList, [], "\x7d".toList]

def snippetCodes (sdk : Sdk) (withConstructor : Bool) : List Text :=
  if withConstructor then "init() \x7b".toList :: (branchCodes sdk ++ ["\x7d".toList]) else branchCodes sdk

theorem trim_bareCall (sdk : Sdk) : Text.trim (bareCall sdk) = bareCall sdk := by
  obtain ⟨middle, h⟩ : ∃ middle, bareCall sdk = 'i' :: middle ++ ['\x7b'] := by
    refine ⟨"f ".toList ++ sdk.initCall ++ ("(clientID: \"\", clientSecret: \"\") == ".toList ++
      (sdk.successCase ++ " ".toList)), ?_⟩
    rw [bareCall, show "if ".toList = 'i' :: "f ".toList from rfl, show " \x7b".toList = " ".toList ++ ['\x7b'] from rfl]
    simp only [List.append_assoc, List.cons_append]
  rw [h, Text.trim_of_ends (by decide) (by decide)]

theorem codePartsFrom_branch {sdk : Sdk} (h : sdk.IsInert) :
    codePartsFrom false (callLine sdk c :: branchTail sdk) = branchCodes sdk := by
  have hbare := bare_callLine c h.quote (show Text.isAllBlank [] = true from rfl)
  rw [List.nil_append] at hbare
  have hslash : '/' ∉ bare (callLine sdk c) := by
    rw [hbare]
    exact not_mem_bareCall h.slash (by decide) (by decide) (by decide)
  have hcall : lineCode false (callLine sdk c) = (bareCall sdk, false) := by
    rw [lineCode_of_no_slash hslash, hbare, trim_bareCall]
  have hregister : lineCode false
      "    // Register an echo code here if users must be identified per customer".toList = ([], false) := by decide
  have hecho : lineCode false (echoLine sdk) = ([], false) := lineCode_of_comment (bare_echoLine h.quote)
  simp only [branchTail, codePartsFrom, hcall, hregister, hecho]
  rfl

/-- Outside of comments, the inserted code is all code but its own comments. -/
theorem codePartsFrom_snippet {base unit : Text} (hb : Text.isAllBlank base = true)
    (hu : Text.isAllBlank unit = true) {sdk : Sdk} (h : sdk.IsInert) (withConstructor : Bool) :
    codePartsFrom false (snippet sdk c base unit withConstructor) = snippetCodes sdk withConstructor := by
  have branch : ∀ base, Text.isAllBlank base = true → codePartsFrom false (snippet sdk c base unit false) =
      branchCodes sdk ∧ openAfter false (snippet sdk c base unit false) = false := by
    intro base hb
    obtain ⟨hcodes, hopen⟩ := codePartsFrom_eq_of_bare (map_bare_branch c hb hu h.lf) false
    rw [hcodes, hopen, codePartsFrom_branch c h]
    exact ⟨rfl, (deepens_branch c h false).state⟩
  cases withConstructor with
  | false => exact (branch base hb).1
  | true =>
    obtain ⟨hcodes, hopen⟩ := branch (base ++ unit) (Text.isAllBlank_append hb hu)
    have lineCode_of_base : ∀ line : Text, lineCode false (base ++ line) = lineCode false line := fun line => by
      apply lineCode_eq_of_bare
      rw [bare, Text.trim_append_of_isAllBlank hb, bare]
    have hinit : lineCode false "init() \x7b".toList = ("init() \x7b".toList, false) := by decide
    have hclose : lineCode false "\x7d".toList = ("\x7d".toList, false) := by decide
    rw [snippet_of_constructor, codePartsFrom, lineCode_of_base, hinit, codePartsFrom_append, hcodes, hopen,
      codePartsFrom, lineCode_of_base, hclose]
    rfl

/-- In a block comment, the inserted code is no code. -/
theorem codePartsFrom_snippet_of_open {base unit : Text} (hb : Text.isAllBlank base = true)
    (hu : Text.isAllBlank unit = true) {sdk : Sdk} (h : sdk.IsInert) (withConstructor : Bool) :
    codePartsFrom true (snippet sdk c base unit withConstructor) =
      List.replicate (snippetCodes sdk withConstructor).length [] := by
  rw [codePartsFrom_of_no_star (star_not_mem_snippet c hb hu h withConstructor),
    ← codePartsFrom_snippet c hb hu h withConstructor, codePartsFrom_length]

end SdkGraft.Source
