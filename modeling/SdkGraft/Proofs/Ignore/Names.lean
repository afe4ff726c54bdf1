import SdkGraft.Proofs.Bind
import SdkGraft.Proofs.Tree.PathText
import SdkGraft.Ignore.Exclusions

/-!
# Names that are left out

* `startWith_literal`, `startWith_many`, `startWith_directoriesBefore` : what pieces take of a text;
* `isVerbatim`, `NamesItself` : texts that a pattern takes as they are written; `IsSimple` : some that are;
* `pathPieces_of_part`, `namePattern`, `endingPattern` : the pattern of a name, and that of an ending;
* `checkSkipDirs_eq_ok_iff`, `checkSuffixes_eq_ok_iff`, `exists_exclusions_iff` : the names and the endings that pass
  the checks, and those that there are patterns for;
* `isIgnored_iff` : a directory is left out exactly if one of the names on its path is a name that is left
  out, or ends in an ending that is.
-/

namespace SdkGraft.Ignore

/-! ## Pieces -/

/-- The pieces that take the text itself. -/
def literal (t : Text) : List Piece := t.map fun c => .one (.only c)

theorem startWith_oneOf {s : CharSet} {ps : List Piece} {t : Text} :
    startWith (.one s :: ps) t = true ↔ ∃ c r, t = c :: r ∧ s.has c = true ∧ startWith ps r = true := by
  rw [startWith]
  cases t with
  | nil => simp [Piece.rests]
  | cons d r =>
    rw [Piece.rests]
    constructor
    · intro h
      split at h
      · exact ⟨d, r, rfl, ‹_›, by simpa using h⟩
      · cases h
    · rintro ⟨_, _, h, hd, hr⟩
      cases h
      rw [if_pos hd]
      simpa using hr

theorem startWith_one {c : Char} {ps : List Piece} {t : Text} :
    startWith (.one (.only c) :: ps) t = true ↔ ∃ r, t = c :: r ∧ startWith ps r = true := by
  rw [startWith_oneOf]
  constructor
  · rintro ⟨d, r, rfl, hd, h⟩
    exact ⟨r, by rw [beq_iff_eq.1 hd], h⟩
  · rintro ⟨r, rfl, h⟩
    exact ⟨c, r, rfl, beq_self_eq_true c, h⟩

theorem startWith_literal {name : Text} {ps : List Piece} {t : Text} :
    startWith (literal name ++ ps) t = true ↔ ∃ r, t = name ++ r ∧ startWith ps r = true := by
  induction name generalizing t with
  | nil => simp [literal]
  | cons c name ih =>
    show startWith (.one (.only c) :: (literal name ++ ps)) t = true ↔ _
    rw [startWith_one]
    simp only [ih]
    constructor
    · rintro ⟨_, rfl, r, rfl, h⟩
      exact ⟨r, rfl, h⟩
    · rintro ⟨r, rfl, h⟩
      exact ⟨_, rfl, r, rfl, h⟩

theorem mem_restsWhile {p : Char → Bool} {t r : Text} :
    r ∈ restsWhile p t ↔ ∃ taken, t = taken ++ r ∧ ∀ c ∈ taken, p c = true := by
  induction t with
  | nil =>
    rw [restsWhile, List.mem_singleton]
    constructor
    · rintro rfl
      exact ⟨[], rfl, by simp⟩
    · rintro ⟨taken, h, -⟩
      exact (List.append_eq_nil_iff.1 h.symm).2
  | cons c t ih =>
    rw [restsWhile, List.mem_cons]
    constructor
    · rintro (rfl | h)
      · exact ⟨[], rfl, by simp⟩
      split at h
      · rename_i hc
        obtain ⟨taken, rfl, htaken⟩ := ih.1 h
        exact ⟨c :: taken, rfl, List.forall_mem_cons.2 ⟨hc, htaken⟩⟩
      · cases h
    · rintro ⟨taken, h, htaken⟩
      cases taken with
      | nil => exact .inl h.symm
      | cons d taken =>
        obtain ⟨rfl, rfl⟩ := List.cons.inj h
        obtain ⟨hc, htaken⟩ := List.forall_mem_cons.1 htaken
        rw [if_pos hc]
        exact .inr (ih.2 ⟨taken, rfl, htaken⟩)

theorem mem_restsWhile1 {p : Char → Bool} {t r : Text} :
    r ∈ restsWhile1 p t ↔ ∃ taken, taken ≠ [] ∧ t = taken ++ r ∧ ∀ c ∈ taken, p c = true := by
  cases t with
  | nil =>
    constructor
    · intro h
      cases h
    · rintro ⟨taken, hne, h, -⟩
      exact absurd (List.append_eq_nil_iff.1 h.symm).1 hne
  | cons c t =>
    rw [restsWhile1]
    constructor
    · intro h
      split at h
      · rename_i hc
        obtain ⟨taken, rfl, htaken⟩ := mem_restsWhile.1 h
        exact ⟨c :: taken, by simp, rfl, List.forall_mem_cons.2 ⟨hc, htaken⟩⟩
      · cases h
    · rintro ⟨taken, hne, h, htaken⟩
      obtain ⟨d, taken, rfl⟩ := List.exists_cons_of_ne_nil hne
      obtain ⟨rfl, rfl⟩ := List.cons.inj h
      obtain ⟨hc, htaken⟩ := List.forall_mem_cons.1 htaken
      rw [if_pos hc]
      exact mem_restsWhile.2 ⟨taken, rfl, htaken⟩

theorem startWith_many {s : CharSet} {ps : List Piece} {t : Text} :
    startWith (.many s :: ps) t = true ↔
      ∃ taken r, t = taken ++ r ∧ (∀ c ∈ taken, s.has c = true) ∧ startWith ps r = true := by
  rw [startWith, Piece.rests, List.any_eq_true]
  simp only [mem_restsWhile]
  constructor
  · rintro ⟨r, ⟨taken, rfl, htaken⟩, h⟩
    exact ⟨taken, r, rfl, htaken, h⟩
  · rintro ⟨taken, r, rfl, htaken, h⟩
    exact ⟨r, ⟨taken, rfl, htaken⟩, h⟩

theorem onLine_has {c : Char} : CharSet.onLine.has c = true ↔ c ≠ '\n' := by
  simp only [CharSet.onLine, CharSet.has, List.any_cons, List.any_nil, Bool.or_false, bne_iff_ne, ne_eq,
    Bool.and_eq_true, decide_eq_true_eq]
  grind

theorem startWith_directoriesBefore {ps : List Piece} {t : Text} :
    startWith (.directoriesBefore :: ps) t = true ↔ startWith ps t = true ∨
      ∃ passed r, passed ≠ [] ∧ '\n' ∉ passed ∧ t = passed ++ '/' :: r ∧ startWith ps r = true := by
  rw [startWith, Piece.rests, List.any_cons, Bool.or_eq_true, List.any_eq_true]
  refine or_congr_right ?_
  simp only [List.mem_filterMap, mem_restsWhile1, onLine_has, Text.dropStart?_eq_some_iff]
  constructor
  · rintro ⟨r, ⟨_, ⟨passed, hne, rfl, hline⟩, rfl⟩, h⟩
    exact ⟨passed, r, hne, fun hm => hline _ hm rfl, rfl, h⟩
  · rintro ⟨passed, r, hne, hline, rfl, h⟩
    exact ⟨r, ⟨_, ⟨passed, hne, rfl, fun c hc hlf => hline (hlf ▸ hc)⟩, rfl⟩, h⟩

/-! ## Patterns of one part -/

/-- A pattern of one part holds at any depth, and of directories only. -/
theorem pathPieces_of_part {part : Text} (hne : part ≠ []) (hslash : '/' ∉ part) (hdeep : part ≠ deep)
    (hstar : part ≠ ['*']) :
    pathPieces (part ++ ['/']) =
      (globPieces part).map fun ps => .directoriesBefore :: (ps ++ [.one (.only '/')]) := by
  have hpath : part ++ ['/'] ≠ ['/'] := fun h => hne (List.append_left_eq_self.1 h)
  have hsplit : Text.splitAt '/' (part ++ ['/']) = [part, []] := Text.splitAt_append hslash []
  have hparts : rootedParts [part, []] = [deep, part, deep] := by
    obtain ⟨c, r, rfl⟩ := List.exists_cons_of_ne_nil hne
    simp only [rootedParts, List.reverse_cons, List.reverse_nil, List.nil_append,
      List.cons_append, mergeDeep, hdeep, and_false, false_and, if_false]
  rw [pathPieces, if_neg hpath, hsplit, hparts]
  have hnot : ¬ ([deep, part, deep] = [deep] ∨ [deep, part, deep] = [deep, ['*'], deep]) := by
    simp [hstar]
  simp only [hnot, if_false, partsPieces, if_true, laterPieces, hdeep, List.isEmpty_nil]
  cases globPieces part <;> rfl

/-! ## Names taken as they are written -/

/-- A bracket with this text behind it opens a class: behind a mark that turns the class around and a first member
stands one that closes it. -/
def opensClass (r : Text) : Bool :=
  ((if r.head? == some '!' || r.head? == some '^' then r.drop 1 else r).drop 1).contains ']'

/-- The text holds no wildcard, no backslash and no bracket that opens a class. -/
def isVerbatim : Text → Bool
  | [] => true
  | c :: r => c != '*' && c != '?' && c != '\\' && !(c == '[' && opensClass r) && isVerbatim r

/-- A line with the name names it: it holds nothing special and does not begin like another kind of line. -/
structure NamesItself (name : Text) : Prop where
  verbatim : isVerbatim name = true
  no_remark : name.head? ≠ some '#'
  no_return : name.head? ≠ some '!'

theorem find?_eq_none_iff {t : Text} : closeClass?.find? t = none ↔ ']' ∉ t := by
  induction t with
  | nil => simp [closeClass?.find?]
  | cons c r ih =>
    rw [closeClass?.find?]
    split
    · rename_i hc
      simp [hc]
    · rename_i hc
      rw [Option.map_eq_none_iff, ih, List.mem_cons, not_or]
      exact (and_iff_right fun h => hc h.symm).symm

theorem charClass?_eq_none_iff {r : Text} : charClass? r = none ↔ opensClass r = false := by
  have hclose : ∀ inside : Text, closeClass? inside = none ↔ (inside.drop 1).contains ']' = false := by
    intro inside
    cases inside with
    | nil => simp [closeClass?]
    | cons c r => simp [closeClass?, find?_eq_none_iff]
  simp only [charClass?, opensClass, Option.map_eq_none_iff]
  exact hclose _

theorem isVerbatim_cons {c : Char} {r : Text} :
    isVerbatim (c :: r) = true ↔
      c ≠ '*' ∧ c ≠ '?' ∧ c ≠ '\\' ∧ (c = '[' → opensClass r = false) ∧ isVerbatim r = true := by
  simp only [isVerbatim, Bool.and_eq_true, bne_iff_ne, ne_eq, Bool.not_eq_true', Bool.and_eq_false_imp, beq_iff_eq,
    and_assoc]

theorem globPiecesFrom_cons {c : Char} {r : Text} (hstar : c ≠ '*') (hany : c ≠ '?') (hescape : c ≠ '\\')
    (hclass : c = '[' → charClass? r = none) :
    globPiecesFrom 0 (c :: r) = (globPiecesFrom 0 r).map (.one (.only c) :: ·) := by
  rcases eq_or_ne c '[' with rfl | hbracket
  · rw [globPiecesFrom, hclass rfl]
  · rw [globPiecesFrom]
    · exact fun _ _ h => absurd h hescape
    · exact fun h => absurd h hescape
    · exact hstar
    · exact hany
    · exact hbracket

theorem globPiecesFrom_of_isVerbatim {t : Text} (h : isVerbatim t = true) :
    globPiecesFrom 0 t = some (literal t) := by
  induction t with
  | nil => rfl
  | cons c r ih =>
    obtain ⟨hstar, hany, hescape, hclass, hr⟩ := isVerbatim_cons.1 h
    rw [globPiecesFrom_cons hstar hany hescape fun hc => charClass?_eq_none_iff.2 (hclass hc), ih hr]
    rfl

theorem star_not_mem_of_isVerbatim {t : Text} (h : isVerbatim t = true) : '*' ∉ t := by
  induction t with
  | nil => simp
  | cons c r ih =>
    obtain ⟨hstar, -, -, -, hr⟩ := isVerbatim_cons.1 h
    exact List.not_mem_cons_of_ne_of_not_mem hstar.symm (ih hr)

/-! ## Simple names -/

/-- A character that a pattern takes as it is written. -/
def isSimple (c : Char) : Bool := c.isAlphanum || c == '.' || c == '_' || c == '-'

/-- A name that a pattern takes as it is written. -/
def IsSimple (name : Text) : Prop := ∀ c ∈ name, isSimple c = true

instance (name : Text) : Decidable (IsSimple name) := List.decidableBAll _ name

theorem IsSimple.not_mem {name : Text} (h : IsSimple name) {c : Char} (hc : isSimple c = false) : c ∉ name := by
  intro hm
  rw [h c hm] at hc
  cases hc

theorem IsSimple.no_slash {name : Text} (h : IsSimple name) : '/' ∉ name := h.not_mem (by decide)

theorem IsSimple.isVerbatim {name : Text} (h : IsSimple name) : isVerbatim name = true := by
  induction name with
  | nil => rfl
  | cons c name ih =>
    have hother : ∀ d, isSimple d = false → c ≠ d := fun d hd hc => h.not_mem hd (hc ▸ List.mem_cons_self)
    exact isVerbatim_cons.2 ⟨hother '*' (by decide), hother '?' (by decide), hother '\\' (by decide),
      fun hc => absurd hc (hother '[' (by decide)), ih fun d hd => h d (List.mem_cons_of_mem _ hd)⟩

theorem IsSimple.namesItself {name : Text} (h : IsSimple name) : NamesItself name :=
  ⟨h.isVerbatim, fun hc => h.not_mem (by decide) (List.mem_of_head? hc),
    fun hc => h.not_mem (by decide) (List.mem_of_head? hc)⟩

/-! ## Patterns of names and endings -/

def namePattern (name : Text) : Pattern := ⟨true, .directoriesBefore :: (literal name ++ [.one (.only '/')])⟩

def endingPattern (ending : Text) : Pattern :=
  ⟨true, .directoriesBefore :: ((.many .notSlash :: literal ending) ++ [.one (.only '/')])⟩

theorem any_isBackwards_literal (name : Text) : (literal name).any Piece.isBackwards = false := by
  rw [literal, List.any_map, List.any_eq_false]
  intro c _ h
  cases h

/-- A line is the pattern of its path, unless it begins like something else. -/
theorem parse?_of_pathPieces {c : Char} {r : Text} (hremark : c ≠ '#') (hback : c ≠ '!') {ps : List Piece}
    (hpieces : pathPieces (c :: r) = some ps) (hrange : ps.any Piece.isBackwards = false) :
    Pattern.parse? (c :: r) = .ok (some ⟨true, ps⟩) := by
  have hpath : Pattern.ofPath true (c :: r) = .ok ⟨true, ps⟩ := by
    rw [Pattern.ofPath, hpieces]
    simp only
    rw [if_neg (by simp [hrange])]
  rw [Pattern.parse?]
  · rw [hpath]
    rfl
  · simp
  · rintro _ ⟨⟩
    exact hremark rfl
  · rintro _ ⟨⟩
    exact hback rfl

theorem trimSlashes_of_not_mem {t : Text} (h : '/' ∉ t) : trimSlashes t = t := by
  have hkeep : ∀ t : Text, '/' ∉ t → t.dropWhile (· == '/') = t := by
    intro t ht
    cases t with
    | nil => rfl
    | cons c r => exact List.dropWhile_cons_of_neg fun hc => ht (by simp [beq_iff_eq.1 hc])
  rw [trimSlashes, hkeep t h, hkeep _ (by simpa using h), List.reverse_reverse]

theorem globPieces_of_ne_star {part : Text} (h : part ≠ ['*']) : globPieces part = globPiecesFrom 0 part := by
  rw [globPieces, if_neg h]

theorem pathPieces_skipDirPattern {name : Text} (hne : name ≠ []) (hslash : '/' ∉ name) (hdeep : name ≠ deep)
    (hstar : name ≠ ['*']) :
    pathPieces (skipDirPattern name) =
      (globPiecesFrom 0 name).map fun ps => .directoriesBefore :: (ps ++ [.one (.only '/')]) := by
  rw [skipDirPattern, trimSlashes_of_not_mem hslash, pathPieces_of_part hne hslash hdeep hstar,
    globPieces_of_ne_star hstar]

theorem pathPieces_suffixPattern {ending : Text} (hne : ending ≠ []) (hslash : '/' ∉ ending) (hdeep : ending ≠ ['*']) :
    pathPieces (suffixPattern ending) = (globPiecesFrom 0 ending).map fun ps =>
      .directoriesBefore :: ((.many .notSlash :: ps) ++ [.one (.only '/')]) := by
  have hparts : '*' :: ending ≠ deep := fun h => hdeep (List.cons.inj h).2
  rw [suffixPattern, pathPieces_of_part (List.cons_ne_nil '*' ending) (by simp [hslash]) hparts (by simp [hne]),
    globPieces_of_ne_star (by simp [hne]), globPiecesFrom, Option.map_map]
  rfl

theorem parse?_skipDirPattern {name : Text} (h : NamesItself name) (hslash : '/' ∉ name) (hne : name ≠ []) :
    Pattern.parse? (skipDirPattern name) = .ok (some (namePattern name)) := by
  have hstar : '*' ∉ name := star_not_mem_of_isVerbatim h.verbatim
  have hpieces := pathPieces_skipDirPattern hne hslash (fun h => hstar (by simp [h, deep]))
    (fun h => hstar (by simp [h]))
  rw [globPiecesFrom_of_isVerbatim h.verbatim, skipDirPattern, trimSlashes_of_not_mem hslash] at hpieces
  rw [skipDirPattern, trimSlashes_of_not_mem hslash]
  obtain ⟨c, r, rfl⟩ := List.exists_cons_of_ne_nil hne
  refine parse?_of_pathPieces (fun hc => h.no_remark (congrArg some hc)) (fun hc => h.no_return (congrArg some hc))
    hpieces ?_
  rw [List.any_cons, List.any_append, any_isBackwards_literal]
  rfl

theorem parse?_suffixPattern {ending : Text} (h : isVerbatim ending = true) (hslash : '/' ∉ ending)
    (hne : ending ≠ []) : Pattern.parse? (suffixPattern ending) = .ok (some (endingPattern ending)) := by
  have hstar : '*' ∉ ending := star_not_mem_of_isVerbatim h
  have hpieces := pathPieces_suffixPattern hne hslash (fun h => hstar (by simp [h]))
  rw [globPiecesFrom_of_isVerbatim h] at hpieces
  refine parse?_of_pathPieces (by decide) (by decide) hpieces ?_
  rw [List.any_cons, List.any_append, List.any_cons, any_isBackwards_literal]
  rfl

/-! ## Exclusions -/

theorem mapM_map_eq_ok {ε α β γ : Type} {f : α → β} {g : β → Except ε γ} {h : α → γ} {l : List α}
    (hl : ∀ x ∈ l, g (f x) = .ok (h x)) : (l.map f).mapM g = .ok (l.map h) := by
  induction l with
  | nil => rfl
  | cons x l ih =>
    rw [List.map_cons, List.mapM_cons, hl x List.mem_cons_self, ih fun y hy => hl y (List.mem_cons_of_mem _ hy)]
    rfl

theorem checkSkipDir_eq_ok_iff (v : Value) (name : Text) :
    checkSkipDir v = .ok name ↔ v = .text name ∧ Text.isAllBlank name = false := by
  cases v with
  | text t =>
    rw [checkSkipDir]
    split
    · rename_i hblank
      simp only [reduceCtorEq, Value.text.injEq, false_iff, not_and]
      rintro rfl
      rw [hblank]
      exact Bool.noConfusion
    · rename_i hfilled
      simp only [Except.ok.injEq, Value.text.injEq]
      exact ⟨fun h => ⟨h, h ▸ Bool.eq_false_iff.2 hfilled⟩, fun h => h.1⟩
  | _ => simp [checkSkipDir]

theorem checkSuffix_eq_ok_iff (v : Value) (ending : Text) :
    checkSuffix v = .ok ending ↔ v = .text ending ∧ ending.head? = some '.' ∧ 2 ≤ ending.length := by
  cases v with
  | text t =>
    unfold checkSuffix
    simp only [Value.text.injEq]
    split
    · rename_i hdot
      simp only [reduceCtorEq, false_iff]
      rintro ⟨rfl, h, -⟩
      exact absurd h (by simpa using hdot)
    split
    · rename_i hshort
      simp only [reduceCtorEq, false_iff]
      rintro ⟨rfl, -, h⟩
      omega
    · rename_i hdot hlong
      rw [Except.ok.injEq]
      constructor
      · rintro rfl
        exact ⟨rfl, by simpa using hdot, by omega⟩
      · exact fun h => h.1
  | _ => simp [checkSuffix]

theorem checkSkipDirs_eq_ok_iff {v : Value} {names : List Text} :
    checkSkipDirs v = .ok names ↔ v = .list (names.map .text) ∧ ∀ n ∈ names, Text.isAllBlank n = false := by
  cases v with
  | list items => rw [checkSkipDirs, Except.mapM_eq_ok_iff checkSkipDir_eq_ok_iff, Value.list.injEq]
  | _ => simp [checkSkipDirs]

theorem checkSuffixes_eq_ok_iff {v : Value} {endings : List Text} :
    checkSuffixes v = .ok endings ↔
      v = .list (endings.map .text) ∧ ∀ e ∈ endings, e.head? = some '.' ∧ 2 ≤ e.length := by
  cases v with
  | list items => rw [checkSuffixes, Except.mapM_eq_ok_iff checkSuffix_eq_ok_iff, Value.list.injEq]
  | _ => simp [checkSuffixes]

theorem exclusionPatterns_eq_ok_iff {skipDirs suffixes : Value} {lines : List Text} :
    exclusionPatterns skipDirs suffixes = .ok lines ↔ ∃ names endings, checkSkipDirs skipDirs = .ok names ∧
      checkSuffixes suffixes = .ok endings ∧ names.map skipDirPattern ++ endings.map suffixPattern = lines := by
  simp only [exclusionPatterns, Except.bind_eq_ok_iff]
  constructor
  · rintro ⟨names, hnames, endings, hendings, h⟩
    cases h
    exact ⟨names, endings, hnames, hendings, rfl⟩
  · rintro ⟨names, endings, hnames, hendings, rfl⟩
    exact ⟨names, hnames, endings, hendings, rfl⟩

theorem map_text_inj {l l' : List Text} : Value.list (l.map .text) = .list (l'.map .text) ↔ l = l' := by
  rw [Value.list.injEq, List.map_inj_right fun _ _ => Value.text.inj]

theorem checked_of_exclusionPatterns {names endings lines : List Text}
    (h : exclusionPatterns (.list (names.map .text)) (.list (endings.map .text)) = .ok lines) :
    checkSkipDirs (.list (names.map .text)) = .ok names ∧
      checkSuffixes (.list (endings.map .text)) = .ok endings := by
  obtain ⟨names', endings', hnames, hendings, -⟩ := exclusionPatterns_eq_ok_iff.1 h
  cases map_text_inj.1 (checkSkipDirs_eq_ok_iff.1 hnames).1
  cases map_text_inj.1 (checkSuffixes_eq_ok_iff.1 hendings).1
  exact ⟨hnames, hendings⟩

theorem ne_nil_of_checkSkipDirs {v : Value} {names : List Text} (h : checkSkipDirs v = .ok names) :
    ∀ n ∈ names, n ≠ [] := by
  rintro _ hn rfl
  cases (checkSkipDirs_eq_ok_iff.1 h).2 _ hn

theorem ne_nil_of_checkSuffixes {v : Value} {endings : List Text} (h : checkSuffixes v = .ok endings) :
    ∀ e ∈ endings, e ≠ [] := by
  rintro _ he rfl
  cases ((checkSuffixes_eq_ok_iff.1 h).2 _ he).1

section

variable {skipDirs suffixes : Value} {names endings : List Text}

/-- What is left out is parsed from the lines of the names and the endings that pass the checks. -/
theorem exclusions_of_checked (hskip : checkSkipDirs skipDirs = .ok names)
    (hsuffixes : checkSuffixes suffixes = .ok endings) :
    exclusions skipDirs suffixes =
      (Spec.parse (names.map skipDirPattern ++ endings.map suffixPattern)).mapError .pattern := by
  rw [exclusions, exclusionPatterns_eq_ok_iff.2 ⟨names, endings, hskip, hsuffixes, rfl⟩]

/-- There is something to leave out by if the names and the endings pass the checks and every line of theirs is one that
patterns are read from. -/
theorem exists_exclusions_iff : (∃ spec, exclusions skipDirs suffixes = .ok spec) ↔
    ∃ names endings, checkSkipDirs skipDirs = .ok names ∧ checkSuffixes suffixes = .ok endings ∧
      ∀ line ∈ names.map skipDirPattern ++ endings.map suffixPattern, ∃ found, Pattern.parse? line = .ok found := by
  constructor
  · rintro ⟨spec, hspec⟩
    cases hlines : exclusionPatterns skipDirs suffixes with
    | error p =>
      rw [exclusions, hlines] at hspec
      cases hspec
    | ok lines =>
      obtain ⟨names, endings, hnames, hendings, -⟩ := exclusionPatterns_eq_ok_iff.1 hlines
      rw [exclusions_of_checked hnames hendings] at hspec
      obtain ⟨found, hfound, -⟩ := Except.exists_of_map_eq_ok (Except.of_mapError_eq_ok hspec)
      exact ⟨names, endings, hnames, hendings, Except.exists_mapM_eq_ok_iff.1 ⟨found, hfound⟩⟩
  · rintro ⟨names, endings, hnames, hendings, hlines⟩
    obtain ⟨found, hfound⟩ := Except.exists_mapM_eq_ok_iff.2 hlines
    rw [exclusions_of_checked hnames hendings, Spec.parse, hfound]
    exact ⟨_, rfl⟩

/-- Names and endings that a pattern takes as they are written are one pattern each. -/
theorem exclusions_eq (hskip : checkSkipDirs skipDirs = .ok names) (hsuffixes : checkSuffixes suffixes = .ok endings)
    (hslash : ∀ t ∈ names ++ endings, '/' ∉ t) (hnames : ∀ n ∈ names, NamesItself n)
    (hendings : ∀ e ∈ endings, isVerbatim e = true) :
    exclusions skipDirs suffixes = .ok (names.map namePattern ++ endings.map endingPattern) := by
  obtain ⟨hslashN, hslashE⟩ := List.forall_mem_append.1 hslash
  have hname : ∀ n ∈ names, Pattern.parse? (skipDirPattern n) = .ok (some (namePattern n)) := fun n hn =>
    parse?_skipDirPattern (hnames n hn) (hslashN n hn) (ne_nil_of_checkSkipDirs hskip n hn)
  have hending : ∀ e ∈ endings, Pattern.parse? (suffixPattern e) = .ok (some (endingPattern e)) := fun e he =>
    parse?_suffixPattern (hendings e he) (hslashE e he) (ne_nil_of_checkSuffixes hsuffixes e he)
  have hparse : (names.map skipDirPattern ++ endings.map suffixPattern).mapM Pattern.parse? =
      .ok (names.map (some ∘ namePattern) ++ endings.map (some ∘ endingPattern)) := by
    rw [List.mapM_append, mapM_map_eq_ok hname, Except.ok_bind, mapM_map_eq_ok hending, Except.ok_bind]
    rfl
  rw [exclusions_of_checked hskip hsuffixes, Spec.parse, hparse, Except.map, List.filterMap_append,
    List.filterMap_map, List.filterMap_map]
  simp [Except.mapError]

end

/-! ## Directories -/

/-- The path of a directory: its names, a slash behind each. -/
def slashed (place : List Text) : Text := place.flatMap (· ++ ['/'])

theorem slashed_cons (n : Text) (place : List Text) : slashed (n :: place) = n ++ '/' :: slashed place := by
  rw [slashed, List.flatMap_cons, List.append_assoc]
  rfl

theorem slashed_append (before after : List Text) : slashed (before ++ after) = slashed before ++ slashed after :=
  List.flatMap_append

theorem joinWith_slash {place : List Text} (hne : place ≠ []) :
    Text.joinWith ['/'] place ++ ['/'] = slashed place := by
  induction place with
  | nil => exact absurd rfl hne
  | cons n rest ih =>
    rcases eq_or_ne rest [] with rfl | hrest
    · rw [slashed_cons]
      rfl
    · rw [Text.joinWith_cons _ hrest, slashed_cons, ← ih hrest, List.append_assoc, List.append_assoc]
      rfl

theorem eq_of_append_slash {a b r s : Text} (ha : '/' ∉ a) (hb : '/' ∉ b) (h : a ++ '/' :: r = b ++ '/' :: s) :
    a = b := by
  have hsplit := congrArg (Text.splitAt '/') h
  rw [Text.splitAt_append ha, Text.splitAt_append hb] at hsplit
  exact (List.cons.inj hsplit).1

theorem exists_of_slashed_eq {place : List Text} (hplace : ∀ n ∈ place, '/' ∉ n) {passed r : Text}
    (h : slashed place = passed ++ '/' :: r) : ∃ after, after <:+ place ∧ r = slashed after := by
  induction place generalizing passed with
  | nil => simp [slashed] at h
  | cons n rest ih =>
    obtain ⟨hn, hrest⟩ := List.forall_mem_cons.1 hplace
    rw [slashed_cons] at h
    rcases List.append_eq_append_iff.1 h with ⟨left, hpassed, hleft⟩ | ⟨left, hname, hleft⟩
    · cases left with
      | nil =>
        obtain ⟨-, hr⟩ := List.cons.inj hleft
        exact ⟨rest, List.suffix_cons n rest, hr.symm⟩
      | cons c left =>
        obtain ⟨-, hbelow⟩ := List.cons.inj hleft
        obtain ⟨after, hafter, hr⟩ := ih hrest hbelow
        exact ⟨after, hafter.trans (List.suffix_cons n rest), hr⟩
    · cases left with
      | nil =>
        obtain ⟨-, hr⟩ := List.cons.inj hleft
        exact ⟨rest, List.suffix_cons n rest, hr⟩
      | cons c left =>
        obtain ⟨rfl, -⟩ := List.cons.inj hleft
        exact absurd (hname ▸ List.mem_append_right _ List.mem_cons_self) hn

/-- What a pattern of one part holds of, at any depth. -/
theorem startWith_slashed {ps : List Piece} {p : Text → Prop}
    (hnil : startWith (ps ++ [.one (.only '/')]) [] = false)
    (hps : ∀ n r, '/' ∉ n → (startWith (ps ++ [.one (.only '/')]) (n ++ '/' :: r) = true ↔ p n))
    {place : List Text} (hplace : ∀ n ∈ place, Path.IsPart n ∧ '\n' ∉ n) :
    startWith (.directoriesBefore :: (ps ++ [.one (.only '/')])) (slashed place) = true ↔ ∃ n ∈ place, p n := by
  have hslash : ∀ n ∈ place, '/' ∉ n := fun n hn => (hplace n hn).1.no_slash
  have hhere : ∀ after, after <:+ place → startWith (ps ++ [.one (.only '/')]) (slashed after) = true →
      ∃ n ∈ place, p n := by
    intro after hafter h
    cases after with
    | nil =>
      rw [show slashed [] = [] from rfl, hnil] at h
      cases h
    | cons n rest =>
      have hn : n ∈ place := hafter.subset List.mem_cons_self
      rw [slashed_cons] at h
      exact ⟨n, hn, (hps n _ (hslash n hn)).1 h⟩
  rw [startWith_directoriesBefore]
  constructor
  · rintro (h | ⟨passed, r, -, -, hsplit, h⟩)
    · exact hhere place List.suffix_rfl h
    · obtain ⟨after, hafter, rfl⟩ := exists_of_slashed_eq hslash hsplit
      exact hhere after hafter h
  · rintro ⟨n, hn, hp⟩
    obtain ⟨before, after, rfl⟩ := List.append_of_mem hn
    have h := (hps n (slashed after) (hslash n hn)).2 hp
    rw [← slashed_cons] at h
    rcases eq_or_ne before [] with rfl | hne
    · exact .inl h
    have hbefore : ∀ m ∈ before, Path.IsPart m ∧ '\n' ∉ m := fun m hm => hplace m (List.mem_append_left _ hm)
    refine .inr ⟨Text.joinWith ['/'] before, slashed (n :: after), ?_, ?_, ?_, h⟩
    · intro hnil
      have hparts := Path.parts_joinWith fun m hm => (hbefore m hm).1
      rw [hnil] at hparts
      exact hne hparts.symm
    · intro hlf
      obtain hlf | ⟨m, hm, hlf⟩ := Text.mem_of_mem_joinWith hlf
      · cases hlf
      · exact (hbefore m hm).2 hlf
    · rw [slashed_append, ← joinWith_slash hne, List.append_assoc]
      rfl

theorem startWith_namePattern {name : Text} (hname : '/' ∉ name) {place : List Text}
    (hplace : ∀ n ∈ place, Path.IsPart n ∧ '\n' ∉ n) :
    startWith (namePattern name).pieces (slashed place) = true ↔ name ∈ place := by
  refine (startWith_slashed (p := (· = name)) ?_ (fun n r hn => ?_) hplace).trans exists_eq_right
  · rw [Bool.eq_false_iff, ne_eq, startWith_literal]
    rintro ⟨r, hr, h⟩
    obtain ⟨_, rfl, -⟩ := startWith_one.1 h
    simp at hr
  · rw [startWith_literal]
    constructor
    · rintro ⟨r', hr, h⟩
      obtain ⟨s, rfl, -⟩ := startWith_one.1 h
      exact eq_of_append_slash hn hname hr
    · rintro rfl
      exact ⟨_, rfl, startWith_one.2 ⟨r, rfl, rfl⟩⟩

theorem startWith_endingPattern {ending : Text} (hending : '/' ∉ ending) {place : List Text}
    (hplace : ∀ n ∈ place, Path.IsPart n ∧ '\n' ∉ n) :
    startWith (endingPattern ending).pieces (slashed place) = true ↔ ∃ n ∈ place, Text.endsWith n ending = true := by
  have hstart : ∀ t, startWith ((.many .notSlash :: literal ending) ++ [.one (.only '/')]) t = true ↔
      ∃ taken r, t = (taken ++ ending) ++ '/' :: r ∧ '/' ∉ taken := by
    intro t
    rw [List.cons_append, startWith_many]
    constructor
    · rintro ⟨taken, _, rfl, htaken, h⟩
      obtain ⟨_, rfl, hslash⟩ := startWith_literal.1 h
      obtain ⟨r, rfl, -⟩ := startWith_one.1 hslash
      exact ⟨taken, r, by rw [List.append_assoc], fun hm => by cases htaken _ hm⟩
    · rintro ⟨taken, r, rfl, htaken⟩
      refine ⟨taken, ending ++ '/' :: r, by rw [List.append_assoc], fun c hc => ?_, ?_⟩
      · exact bne_iff_ne.2 fun hslash => htaken (hslash ▸ hc)
      · exact startWith_literal.2 ⟨_, rfl, startWith_one.2 ⟨r, rfl, rfl⟩⟩
  refine startWith_slashed ?_ (fun n r hn => ?_) hplace
  · rw [Bool.eq_false_iff, ne_eq, hstart]
    rintro ⟨taken, r, hr, -⟩
    simp at hr
  · rw [hstart, Text.endsWith, List.isSuffixOf_iff_suffix]
    constructor
    · rintro ⟨taken, s, hs, htaken⟩
      have hpart : '/' ∉ taken ++ ending := by simp [htaken, hending]
      exact ⟨taken, (eq_of_append_slash hn hpart hs).symm⟩
    · rintro ⟨taken, rfl⟩
      exact ⟨taken, r, rfl, fun hm => hn (List.mem_append_left _ hm)⟩

theorem relative_slashed {place : List Text} (hplace : ∀ n ∈ place, Path.IsPart n) :
    relative (slashed place) = slashed place := by
  cases place with
  | nil => rfl
  | cons n rest =>
    have hn := hplace n List.mem_cons_self
    rw [slashed_cons, relative]
    · intro r hr
      have hnil : n = [] := eq_of_append_slash (a := n) (b := []) hn.no_slash (by simp) hr
      rw [hnil] at hn
      cases hn.not_idle
    · intro r hr
      have hdot : n = ['.'] := eq_of_append_slash (a := n) (b := ['.']) hn.no_slash (by decide) hr
      rw [hdot] at hn
      cases hn.not_idle

/-- Where every pattern ignores, one that matches is enough. -/
theorem isIgnored_of_ignores {spec : Spec} (h : ∀ p ∈ spec, p.ignores = true) (path : Text) :
    spec.isIgnored path = true ↔ ∃ p ∈ spec, startWith p.pieces (relative path) = true := by
  rw [Spec.isIgnored]
  constructor
  · intro hlast
    split at hlast
    · rename_i p hp
      obtain ⟨hp, hstart⟩ := List.mem_filter.1 (List.mem_of_getLast? hp)
      exact ⟨p, hp, hstart⟩
    · cases hlast
  · rintro ⟨p, hp, hstart⟩
    split
    · rename_i q hq
      exact h q (List.mem_filter.1 (List.mem_of_getLast? hq)).1
    · rename_i hnone
      have hempty := List.getLast?_eq_none_iff.1 hnone
      exact absurd hstart (List.filter_eq_nil_iff.1 hempty p hp)

/-- A directory is left out exactly if one of the names on its path is a name that is left out, or ends in
an ending that is. -/
theorem isIgnored_iff {names endings : List Text} (hnames : ∀ n ∈ names, '/' ∉ n)
    (hendings : ∀ e ∈ endings, '/' ∉ e) {place : List Text} (hne : place ≠ [])
    (hplace : ∀ n ∈ place, Path.IsPart n ∧ '\n' ∉ n) :
    Spec.isIgnored (names.map namePattern ++ endings.map endingPattern) (Text.joinWith ['/'] place ++ ['/']) = true ↔
      ∃ n ∈ place, n ∈ names ∨ ∃ e ∈ endings, Text.endsWith n e = true := by
  have hignores : ∀ p ∈ names.map namePattern ++ endings.map endingPattern, p.ignores = true := by
    intro p hp
    rcases List.mem_append.1 hp with hp | hp <;> obtain ⟨_, -, rfl⟩ := List.mem_map.1 hp <;> rfl
  rw [isIgnored_of_ignores hignores, joinWith_slash hne, relative_slashed fun n hn => (hplace n hn).1]
  constructor
  · rintro ⟨p, hp, hstart⟩
    rcases List.mem_append.1 hp with hp | hp
    · obtain ⟨name, hname, rfl⟩ := List.mem_map.1 hp
      exact ⟨name, (startWith_namePattern (hnames name hname) hplace).1 hstart, .inl hname⟩
    · obtain ⟨ending, hending, rfl⟩ := List.mem_map.1 hp
      obtain ⟨n, hn, hends⟩ := (startWith_endingPattern (hendings ending hending) hplace).1 hstart
      exact ⟨n, hn, .inr ⟨ending, hending, hends⟩⟩
  · rintro ⟨n, hn, hname | ⟨ending, hending, hends⟩⟩
    · exact ⟨namePattern n, List.mem_append_left _ (List.mem_map_of_mem hname),
        (startWith_namePattern (hnames n hname) hplace).2 hn⟩
    · exact ⟨endingPattern ending, List.mem_append_right _ (List.mem_map_of_mem hending),
        (startWith_endingPattern (hendings ending hending) hplace).2 ⟨n, hn, hends⟩⟩

end SdkGraft.Ignore
