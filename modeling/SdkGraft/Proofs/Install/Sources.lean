import SdkGraft.Proofs.Ignore.Names
import SdkGraft.Proofs.Install.Reached

/-!
# The source files below a root

* `Settings.Excludes` : the names of directories that are not entered;
* `Tree.IsSource` : a place where a source file stands;
* `isLeftOut_iff`, `isOutside_iff` : what the exclusions mean for a directory, and for what is below it;
* `files_are_sources` : the source files that are found are all there are to get to, each once, in the order of a
  walk;
* `LacksSource`, `files_lack_source_not_listed` : not so those in directories that cannot be listed.
-/

namespace SdkGraft

/-- Directories of that name are not entered. -/
def Settings.Excludes (s : Settings) (name : Text) : Prop :=
  name ∈ s.skipDirs ∨ ∃ ending ∈ s.bundleSuffixes, Text.endsWith name ending = true

/-- The exclusions pass their check, and a pattern takes each of them as it is written. -/
structure Settings.HasSimpleExclusions (s : Settings) : Prop where
  valid : ∃ lines, Ignore.exclusionPatterns (.list (s.skipDirs.map .text)) (.list (s.bundleSuffixes.map .text)) =
    .ok lines
  skipDirs : ∀ name ∈ s.skipDirs, Ignore.IsSimple name
  bundleSuffixes : ∀ ending ∈ s.bundleSuffixes, Ignore.IsSimple ending

def Node.NamesOnOneLine (node : Node) : Prop :=
  ∀ place below, node.at? place = some below → ∀ name ∈ place, '\n' ∉ name

theorem Node.namesOnOneLine_of_not_dir {node : Node} (h : node.kind.isDir = false) : node.NamesOnOneLine := by
  intro place below hat
  cases place with
  | nil =>
    intro name hm
    cases hm
  | cons n rest =>
    rw [at?_cons_of_not_dir h] at hat
    cases hat

theorem Node.namesOnOneLine_dir {entries : Entries} (mode : Nat)
    (h : ∀ e ∈ entries, '\n' ∉ e.1 ∧ e.2.NamesOnOneLine) : (Node.dir entries mode).NamesOnOneLine := by
  intro place below hat
  cases place with
  | nil =>
    intro name hm
    cases hm
  | cons n rest =>
    rw [at?_dir_cons, Option.bind_eq_some_iff] at hat
    obtain ⟨child, hget, hat⟩ := hat
    obtain ⟨hn, hchild⟩ := h _ (Entries.mem_of_get? hget)
    exact List.forall_mem_cons.2 ⟨hn, hchild rest below hat⟩

namespace Tree

variable {t : Tree} {s : Settings} {root suffix : Text} {top place : Place}

/-- At `place` below the directory `top`, which `root` leads to, stands a file, or a link that leads to no
directory, its name ends with `suffix`, and the directories it is in are none that are not entered, and no
links. -/
structure IsSource (t : Tree) (s : Settings) (root suffix : Text) (top place : Place) : Prop where
  ne_nil : place ≠ []
  is_file : ∃ kind, t.kind? (top ++ place) = some kind ∧ kind.isDir = false ∧
    ∀ goal, kind = .link goal → t.leadsToDirectory (Path.tidy root) place = false
  named : namedWith suffix place = true
  entered : ∀ above name left, place = above ++ name :: left → left ≠ [] →
    HasDir t.kind? (top ++ (above ++ [name])) ∧ ¬ s.Excludes name

theorem exclusions_eq (hs : s.HasSimpleExclusions) :
    s.exclusions = .ok (s.skipDirs.map Ignore.namePattern ++ s.bundleSuffixes.map Ignore.endingPattern) := by
  obtain ⟨lines, hvalid⟩ := hs.valid
  obtain ⟨hskip, hsuffixes⟩ := Ignore.checked_of_exclusionPatterns hvalid
  rw [Settings.exclusions, Ignore.exclusions_eq hskip hsuffixes
    (List.forall_mem_append.2 ⟨fun n hn => (hs.skipDirs n hn).no_slash, fun e he => (hs.bundleSuffixes e he).no_slash⟩)
    (fun n hn => (hs.skipDirs n hn).namesItself) fun e he => (hs.bundleSuffixes e he).isVerbatim]
  rfl

/-- A directory is left out exactly if one of the names on its path is excluded. -/
theorem isLeftOut_iff (hs : s.HasSimpleExclusions) {spec : Ignore.Spec} (hspec : s.exclusions = .ok spec)
    (hne : place ≠ []) (hplace : ∀ n ∈ place, Path.IsPart n ∧ '\n' ∉ n) :
    isLeftOut spec place = true ↔ ∃ n ∈ place, s.Excludes n := by
  rw [exclusions_eq hs] at hspec
  cases hspec
  exact Ignore.isIgnored_iff (fun n hn => (hs.skipDirs n hn).no_slash)
    (fun e he => (hs.bundleSuffixes e he).no_slash) hne hplace

/-- No directory above a place is left out if none of their names is excluded. -/
theorem isOutside_iff (hs : s.HasSimpleExclusions) (hplace : ∀ n ∈ place, Path.IsPart n ∧ '\n' ∉ n) :
    s.IsOutside place ↔ ∀ above name left, place = above ++ name :: left → left ≠ [] → ¬ s.Excludes name := by
  have hspec := exclusions_eq hs
  generalize s.skipDirs.map Ignore.namePattern ++ s.bundleSuffixes.map Ignore.endingPattern = spec at hspec
  have hout : ∀ above left, place = above ++ left → above ≠ [] →
      (isLeftOut spec above = false ↔ ∀ n ∈ above, ¬ s.Excludes n) := by
    intro above left hsplit hne
    rw [Bool.eq_false_iff, ne_eq, isLeftOut_iff hs hspec hne fun n hn =>
      hplace n (hsplit ▸ List.mem_append_left _ hn)]
    simp only [not_exists, not_and]
  constructor
  · intro h above name left hsplit hleft
    have hsplit' : place = (above ++ [name]) ++ left := by rw [hsplit, List.append_assoc]; rfl
    exact (hout _ left hsplit' (by simp)).1 (h spec hspec _ left hsplit' (by simp) hleft) name (by simp)
  · intro h spec' hspec' above left hsplit habove hleft
    rw [hspec] at hspec'
    cases hspec'
    refine (hout above left hsplit habove).2 fun n hn => ?_
    obtain ⟨before, after, rfl⟩ := List.append_of_mem hn
    exact h before n (after ++ left) (by rw [hsplit]; simp) (by simp [hleft])

theorem isSource_iff (ht : t.IsProper) (hs : s.HasSimpleExclusions)
    (hline : ∀ node, t.node? top = some node → node.NamesOnOneLine) :
    t.IsSource s root suffix top place ↔ t.IsUnpruned s root top place ∧ namedWith suffix place = true := by
  have hnames : ∀ kind, t.kind? (top ++ place) = some kind → ∀ n ∈ place, Path.IsPart n ∧ '\n' ∉ n := by
    intro kind hkind n hn
    obtain ⟨below, hbelow, -⟩ := Option.map_eq_some_iff.1 hkind
    rw [node?, Node.at?_append, Option.bind_eq_some_iff] at hbelow
    obtain ⟨node, hnode, hat⟩ := hbelow
    exact ⟨(ht.isEntryName hkind (List.mem_append_right _ hn)).isPart, hline node hnode place below hat n hn⟩
  constructor
  · intro h
    obtain ⟨kind, hkind, -⟩ := h.is_file
    exact ⟨⟨h.ne_nil, h.is_file, (isOutside_iff hs (hnames kind hkind)).2 fun above name left hsplit hleft =>
      (h.entered above name left hsplit hleft).2⟩, h.named⟩
  · rintro ⟨h, hnamed⟩
    obtain ⟨kind, hkind, -⟩ := h.is_file
    refine ⟨h.ne_nil, h.is_file, hnamed, fun above name left hsplit hleft =>
      ⟨?_, (isOutside_iff hs (hnames kind hkind)).1 h.outside above name left hsplit hleft⟩⟩
    have hbelow : t.kind? ((top ++ (above ++ [name])) ++ left) = some kind := by
      rw [List.append_assoc, List.append_assoc, List.singleton_append, ← hsplit, hkind]
    exact hasDir_of_append hbelow hleft

theorem mem_walk_iff (ht : t.IsProper) (hs : s.HasSimpleExclusions) {spec : Ignore.Spec}
    (hspec : s.exclusions = .ok spec)
    (hline : ∀ node, t.lookUp (Path.tidy root) = .ok node → node.NamesOnOneLine) :
    place ∈ t.walk (isLeftOut spec) (Path.tidy root) ∧ namedWith suffix place = true ↔
      ∃ top, t.resolve (Path.tidy root) = .ok top ∧ t.IsSource s root suffix top place ∧
        ∀ above left, place = above ++ left → left ≠ [] → t.IsListable (Path.tidy root) top above := by
  have hsource : ∀ top, t.resolve (Path.tidy root) = .ok top →
      (t.IsSource s root suffix top place ↔ t.IsUnpruned s root top place ∧ namedWith suffix place = true) :=
    fun top hresolve => isSource_iff ht hs fun node hnode => hline node (lookUp_eq_ok_iff.2 ⟨top, hresolve, hnode⟩)
  rw [mem_walk ht hspec]
  constructor
  · rintro ⟨⟨top, hresolve, hfile, hlisted⟩, hnamed⟩
    obtain ⟨kind, hkind, -⟩ := hfile.is_file
    exact ⟨top, hresolve, (hsource top hresolve).2 ⟨hfile, hnamed⟩, (canBeListed_iff ht hresolve hkind).1 hlisted⟩
  · rintro ⟨top, hresolve, h, hlisted⟩
    obtain ⟨hfile, hnamed⟩ := (hsource top hresolve).1 h
    obtain ⟨kind, hkind, -⟩ := hfile.is_file
    exact ⟨⟨top, hresolve, hfile, (canBeListed_iff ht hresolve hkind).2 hlisted⟩, hnamed⟩

/-- The source files that are found below a root are all there are in directories that can be listed, each once, in
the order of a walk. -/
theorem files_are_sources (ht : t.IsProper) (hs : s.HasSimpleExclusions) (hnull : '\x00' ∉ root)
    (hline : ∀ node, t.lookUp (Path.tidy root) = .ok node → node.NamesOnOneLine) (suffix : Text) :
    ∃ places : List Place, t.files s root suffix = .ok (places.map (Path.under root)) ∧
      (∀ place, place ∈ places ↔ ∃ top, t.resolve (Path.tidy root) = .ok top ∧
        t.IsSource s root suffix top place ∧
          ∀ above left, place = above ++ left → left ≠ [] → t.IsListable (Path.tidy root) top above) ∧
      places.Pairwise Before ∧ (places.map (Path.under root)).Nodup := by
  obtain ⟨spec, hspec⟩ : ∃ spec, s.exclusions = .ok spec := ⟨_, exclusions_eq hs⟩
  have hsources : t.sources s root = .ok (t.walk (isLeftOut spec) (Path.tidy root)) :=
    sources_eq_ok_iff.2 ⟨hnull, spec, hspec, rfl⟩
  have hmem : ∀ place, place ∈ (t.walk (isLeftOut spec) (Path.tidy root)).filter (namedWith suffix) ↔
      ∃ top, t.resolve (Path.tidy root) = .ok top ∧ t.IsSource s root suffix top place ∧
        ∀ above left, place = above ++ left → left ≠ [] → t.IsListable (Path.tidy root) top above := fun place => by
    rw [List.mem_filter]
    exact mem_walk_iff ht hs hspec hline
  have hpairwise := (pairwise_walk ht (isLeftOut spec) (Path.tidy root)).filter (namedWith suffix)
  refine ⟨_, by rw [files, hsources, Except.map], hmem, hpairwise, ?_⟩
  rw [List.Nodup, List.pairwise_map]
  refine hpairwise.imp_of_mem fun {a b} ha hb hbefore hpath => ?_
  have hparts : ∀ place, place ∈ (t.walk (isLeftOut spec) (Path.tidy root)).filter (namedWith suffix) →
      ∀ n ∈ place, Path.IsPart n := fun place hm n hn => by
    obtain ⟨top, -, hsource, -⟩ := (hmem place).1 hm
    obtain ⟨kind, hkind, -⟩ := hsource.is_file
    exact (ht.isEntryName hkind (List.mem_append_right _ hn)).isPart
  have hsame := congrArg Path.parts hpath
  rw [Path.parts_under (hparts a ha), Path.parts_under (hparts b hb)] at hsame
  rw [List.append_cancel_left hsame] at hbefore
  exact hbefore.irrefl b

/-! ## Directories that cannot be listed -/

def longName : Text := List.replicate 63 '😀'

def deepEntries (mode : Nat) : Entries :=
  [("A.swift".toList, .file [] 0o644), ("subs".toList, .dir [("F.swift".toList, .file [] 0o644)] mode)]

/-- A directory with a long name, with one source file in it and one in a directory with these permissions. -/
def deepProject (mode : Nat) : Tree where
  top := .dir [(longName, .dir (deepEntries mode) 0o755)] 0o755
  here := []
  home := []

/-- A path of 4092 bytes to that directory: into it and out again 15 times. -/
def longRoot : Text := (List.replicate 15 (longName ++ "/../".toList)).flatten ++ longName

theorem isProper_deepProject (mode : Nat) : (deepProject mode).IsProper := by
  have hfile : ∀ bytes mode, (Node.file bytes mode).IsProper := fun bytes mode =>
    Node.isProper_of_not_dir rfl
  refine Node.isProper_dir _ (by decide : [longName].Nodup) (by decide : ∀ name ∈ [longName], IsEntryName name)
    (List.forall_mem_singleton.2 ?_)
  refine Node.isProper_dir _ (by decide : ["A.swift".toList, "subs".toList].Nodup)
    (by decide : ∀ name ∈ ["A.swift".toList, "subs".toList], IsEntryName name)
    (List.forall_mem_cons.2 ⟨hfile _ _, ?_⟩)
  refine List.forall_mem_singleton.2 (Node.isProper_dir _ (by decide) (by decide) ?_)
  exact List.forall_mem_singleton.2 (hfile _ _)

theorem namesOnOneLine_deepEntries (mode : Nat) : (Node.dir (deepEntries mode) 0o755).NamesOnOneLine := by
  have hfile : ∀ bytes mode, (Node.file bytes mode).NamesOnOneLine := fun bytes mode =>
    Node.namesOnOneLine_of_not_dir rfl
  refine Node.namesOnOneLine_dir _ (List.forall_mem_cons.2 ⟨⟨by decide, hfile _ _⟩, ?_⟩)
  refine List.forall_mem_singleton.2 ⟨(by decide : '\n' ∉ "subs".toList), Node.namesOnOneLine_dir _ ?_⟩
  exact List.forall_mem_singleton.2 ⟨by decide, hfile _ _⟩

theorem lookUp_deepProject {mode : Nat} {root : Text} (hroot : (deepProject mode).resolve root = .ok [longName]) :
    (deepProject mode).lookUp root = .ok (.dir (deepEntries mode) 0o755) :=
  lookUp_eq_ok_iff.2 ⟨_, hroot, rfl⟩

theorem eq_of_split_deep {above left : Place} (h : ["subs".toList, "F.swift".toList] = above ++ left)
    (habove : above ≠ []) (hleft : left ≠ []) : above = ["subs".toList] := by
  obtain ⟨n, above, rfl⟩ := List.exists_cons_of_ne_nil habove
  obtain ⟨rfl, htail⟩ := List.cons.inj h
  cases above with
  | nil => rfl
  | cons m above =>
    obtain ⟨-, hnil⟩ := List.cons.inj htail
    exact absurd (List.append_eq_nil_iff.1 hnil.symm).2 hleft

theorem isSource_deepProject (mode : Nat) (root : Text) : (deepProject mode).IsSource Settings.byDefault root
    ".swift".toList [longName] ["subs".toList, "F.swift".toList] where
  ne_nil := by simp
  is_file := ⟨.file [] 0o644, rfl, rfl, by simp⟩
  named := by decide
  entered := by
    intro above name left hsplit hleft
    have hsubs : above ++ [name] = ["subs".toList] :=
      eq_of_split_deep (by rw [hsplit, List.append_assoc]; rfl) (by simp) hleft
    rw [hsubs]
    obtain ⟨-, hname⟩ := List.append_inj' (hsubs.trans (List.nil_append _).symm) rfl
    obtain rfl := List.singleton_inj.1 hname
    exact ⟨⟨mode, rfl⟩, by rintro (h | h) <;> revert h <;> decide⟩

theorem hasSimpleExclusions_byDefault : Settings.byDefault.HasSimpleExclusions where
  valid := ⟨_, rfl⟩
  skipDirs := by decide
  bundleSuffixes := by decide

/-- Both source files are found by a path that is short, the one of the directory itself first. -/
theorem files_are_sources_of_deepProject : (deepProject 0o755).IsProper ∧ Settings.byDefault.HasSimpleExclusions ∧
    '\x00' ∉ longName ∧ ∃ places : List Place,
      (deepProject 0o755).files Settings.byDefault longName ".swift".toList =
        .ok (places.map (Path.under longName)) ∧
      ["subs".toList, "F.swift".toList] ∈ places ∧ places.Pairwise Before := by
  have hresolve : (deepProject 0o755).resolve (Path.tidy longName) = .ok [longName] :=
    Except.of_toOption_eq_some (by decide +kernel)
  obtain ⟨places, hfiles, hmem, hpairwise, -⟩ := files_are_sources (isProper_deepProject 0o755)
    hasSimpleExclusions_byDefault (show '\x00' ∉ longName by decide) (fun node hnode => by
      rw [lookUp_deepProject hresolve] at hnode
      cases hnode
      exact namesOnOneLine_deepEntries 0o755) ".swift".toList
  refine ⟨isProper_deepProject _, hasSimpleExclusions_byDefault, by decide, places, hfiles, ?_, hpairwise⟩
  have hkind : (deepProject 0o755).kind? ([longName] ++ ["subs".toList, "F.swift".toList]) =
      some (.file [] 0o644) := rfl
  refine (hmem _).2 ⟨_, hresolve, isSource_deepProject _ longName, ?_⟩
  refine (canBeListed_iff (isProper_deepProject _) hresolve hkind).1 fun above left hsplit hleft => ?_
  rcases eq_or_ne above [] with rfl | habove
  · decide +kernel
  · rw [eq_of_split_deep hsplit habove hleft]
    decide +kernel

/-- A source file below the root is not found, though nothing that leads to it is left out. -/
structure LacksSource (t : Tree) (root : Text) : Prop where
  proper : t.IsProper
  no_null : '\x00' ∉ root
  onOneLine : ∀ node, t.lookUp (Path.tidy root) = .ok node → node.NamesOnOneLine
  lacks : ¬ ∃ places : List Place,
    t.files Settings.byDefault root ".swift".toList = .ok (places.map (Path.under root)) ∧
      ∀ place, place ∈ places ↔ ∃ top, t.resolve (Path.tidy root) = .ok top ∧
        t.IsSource Settings.byDefault root ".swift".toList top place

theorem lacksSource_deepProject {mode : Nat} {root : Text} (hnull : '\x00' ∉ root)
    (hresolve : (deepProject mode).resolve (Path.tidy root) = .ok [longName])
    (hfound : ((deepProject mode).files Settings.byDefault root ".swift".toList).toOption =
      some [Path.under root ["A.swift".toList]])
    (hother : Path.under root ["subs".toList, "F.swift".toList] ≠ Path.under root ["A.swift".toList]) :
    (deepProject mode).LacksSource root where
  proper := isProper_deepProject mode
  no_null := hnull
  onOneLine node hnode := by
    rw [lookUp_deepProject hresolve] at hnode
    cases hnode
    exact namesOnOneLine_deepEntries mode
  lacks := by
    rintro ⟨places, hfiles, hmem⟩
    have hsource := (hmem _).2 ⟨_, hresolve, isSource_deepProject mode root⟩
    rw [hfiles] at hfound
    have hpath := List.mem_map_of_mem (f := Path.under root) hsource
    rw [Option.some.inj hfound] at hpath
    exact hother (List.mem_singleton.1 hpath)

/-- A directory whose path is too long is not listed, nor is one that cannot be read, so a source file in it is not
found. -/
theorem files_lack_source_not_listed : Settings.ofLayers .plenty none .null = .ok Settings.byDefault ∧
    Settings.byDefault.HasSimpleExclusions ∧ (deepProject 0o755).LacksSource longRoot ∧
    (deepProject 0o311).LacksSource longName := by
  refine ⟨Settings.ofLayers_nothing, hasSimpleExclusions_byDefault, ?_, ?_⟩
  · exact lacksSource_deepProject (by decide +kernel) (Except.of_toOption_eq_some (by decide +kernel))
      (by decide +kernel) (by decide +kernel)
  · exact lacksSource_deepProject (by decide +kernel) (Except.of_toOption_eq_some (by decide +kernel))
      (by decide +kernel) (by decide +kernel)

end Tree

end SdkGraft
