import SdkGraft.Proofs.Install.Relocate

/-!
# Calls one after the other

* `Call`, `Tree.run` : installations into one root, each into the tree that the one before has left;
* `Made.IsIdle`, `Made.IsRepeat` : calls that change nothing, before an insertion and after it;
* `idle_or_inserts` : what one call does to a tree; `isRepeat_of_settled` : what it does to a settled one;
* `linkChain` : a project of links, each to the next one;
* `ChangesOnce`, `run_changes_once` : over a whole run the tree changes at most once.
-/

namespace SdkGraft

open Install
open Source (IsPlain)

/-- What a call of an installation gives beside the root and the settings, and what fails during it. -/
structure Call where
  clientId : Value
  clientSecret : Value
  dryRun : Bool
  mishaps : Mishaps

def Call.request (root : Value) (c : Call) : Request := ⟨root, c.clientId, c.clientSecret, .bool c.dryRun⟩

/-- A call, the tree it has left, and how it ended. -/
structure Made where
  call : Call
  tree : Tree
  result : Except Fault Report

def Tree.make (s : Settings) (root : Value) (t : Tree) (c : Call) : Made :=
  let done := t.install c.mishaps s (c.request root)
  ⟨c, done.1, done.2⟩

/-- Calls one after the other, each on the tree that the one before has left. -/
def Tree.run (s : Settings) (root : Value) : Tree → List Call → List Made
  | _, [] => []
  | t, c :: calls => t.make s root c :: run s root (t.make s root c).tree calls

namespace Made

/-- Credentials that cannot be inserted are refused. -/
def RefusesInvalid (m : Made) : Prop :=
  ∀ problem, Credentials.validate m.call.clientId m.call.clientSecret = .error problem →
    ∃ report, m.result = .ok report ∧ report.outcome = .invalidCredentials

/-- Nothing is inserted, or only for show, and the tree stays as it was. -/
structure IsIdle (m : Made) (t : Tree) : Prop where
  tree : m.tree = t
  refuses : m.RefusesInvalid
  outcome : m.call.dryRun = false → ∀ report, m.result = .ok report → report.outcome ≠ .inserted

/-- The call is found in the file at `path`, and the tree stays as it was. -/
structure IsRepeat (m : Made) (t : Tree) (path : Text) : Prop where
  tree : m.tree = t
  refuses : m.RefusesInvalid
  present : ∀ c, Credentials.validate m.call.clientId m.call.clientSecret = .ok c →
    ∃ report, m.result = .ok report ∧ report.outcome = .alreadyPresent ∧ report.file = some path

/-- Something is inserted into the file at `path`, and not only for show. -/
structure Inserts (m : Made) (path : Text) : Prop where
  dryRun : m.call.dryRun = false
  outcome : ∃ report, m.result = .ok report ∧ report.outcome = .inserted ∧ report.file = some path

end Made

/-- The tree changes at most once: up to the first insertion nothing happens to it, and after that one
every call finds what was inserted, at a path that is to the first one as `again` says. -/
def ChangesOnce (again : Tree → Tree → Text → Text → Prop) (t : Tree) (run : List Made) : Prop :=
  (∀ m ∈ run, m.IsIdle t) ∨
  ∃ before m after path path', run = before ++ m :: after ∧ (∀ b ∈ before, b.IsIdle t) ∧ m.Inserts path ∧
    again t m.tree path path' ∧ ∀ a ∈ after, a.IsRepeat m.tree path'

namespace Tree

variable {t : Tree} {s : Settings} {root : Value}

/-! ## One call -/

theorem make_refusesInvalid (t : Tree) (s : Settings) (root : Value) (c : Call) :
    (t.make s root c).RefusesInvalid := by
  intro problem hvalid
  obtain ⟨report, hinstall, houtcome, -⟩ :=
    install_of_invalid (t := t) (s := s) (r := c.request root) hvalid rfl c.mishaps
  exact ⟨report, congrArg Prod.snd hinstall, houtcome⟩

theorem make_tree_of_invalid {c : Call} {problem : CredentialError}
    (hvalid : Credentials.validate c.clientId c.clientSecret = .error problem) : (t.make s root c).tree = t := by
  obtain ⟨report, hinstall, -⟩ :=
    install_of_invalid (t := t) (s := s) (r := c.request root) hvalid rfl c.mishaps
  exact congrArg Prod.fst hinstall

/-- A settled project stays settled, and every call finds it so. -/
theorem isRepeat_of_settled {file : EntryFile} (h : t.Settled s root file) (c : Call) :
    (t.make s root c).IsRepeat t file.path := by
  have hpresent : ∀ cs, Credentials.validate c.clientId c.clientSecret = .ok cs → ∃ report,
      t.install c.mishaps s (c.request root) = (t, .ok report) ∧ report.outcome = .alreadyPresent ∧
        report.file = some file.path := by
    intro cs hvalid
    obtain ⟨report, hinstall, houtcome, hfile, -⟩ :=
      install_of_settled (r := c.request root) h hvalid rfl c.mishaps
    exact ⟨report, hinstall, houtcome, hfile⟩
  refine ⟨?_, make_refusesInvalid t s root c, fun cs hvalid => ?_⟩
  · cases hvalid : Credentials.validate c.clientId c.clientSecret with
    | error problem => exact make_tree_of_invalid hvalid
    | ok cs =>
      obtain ⟨report, hinstall, -⟩ := hpresent cs hvalid
      exact congrArg Prod.fst hinstall
  · obtain ⟨report, hinstall, houtcome⟩ := hpresent cs hvalid
    exact ⟨report, congrArg Prod.snd hinstall, houtcome⟩

/-- A call that is not given up half-way changes nothing, or it inserts something and leaves the project settled. -/
theorem idle_or_inserts (ht : t.IsProper) (hcall : IsPlain s.initCall)
    (hmarker : ∀ marker, s.rootMarker = .ok marker → IsPlain marker) (root : Value) (c : Call)
    (hencodes : (t.make s root c).result ≠ .error .unencodable) :
    (t.make s root c).IsIdle t ∨ ∃ path file, (t.make s root c).Inserts path ∧
      (t.make s root c).tree.Settled s root file ∧ t.Refound (t.make s root c).tree path file.path := by
  obtain ⟨hsame, hnot⟩ | ⟨cs, workspace, file, e, d, m, t', -, hfinds, heditor, hedit, hinserted, hdry,
      ⟨hwrite, hinstall⟩ | ⟨-, hinstall⟩⟩ := install_cases ht c.mishaps s (c.request root)
  · left
    refine ⟨hsame, make_refusesInvalid t s root c, fun hdry report hreport hinserted => ?_⟩
    exact hnot report hreport ⟨hinserted, hdry⟩
  · right
    obtain ⟨file', hsettled, -, hrefound⟩ :=
      settled_of_inserted ht hcall hmarker hfinds heditor hedit hinserted hwrite
    have htree : (t.make s root c).tree = t' := congrArg Prod.fst hinstall
    have hm : ({ m with written := true } : Mutation).outcome ≠ .noAnchor := by
      simp [hinserted]
    obtain ⟨report, hreport, houtcome, hfile, -⟩ :=
      exists_report_of_edited (r := c.request root) rfl workspace file hm
    have hresult : (t.make s root c).result = .ok report := (congrArg Prod.snd hinstall).trans hreport
    rw [hinserted] at houtcome
    exact ⟨file.path, file', ⟨hdry, report, hresult, houtcome, hfile⟩, htree ▸ hsettled, htree ▸ hrefound⟩
  · exact absurd (congrArg Prod.snd hinstall) hencodes

end Tree

/-! ## A chain of links -/

theorem Settings.isPlain_byDefault : IsPlain Settings.byDefault.initCall ∧
    ∀ marker, Settings.byDefault.rootMarker = .ok marker → IsPlain marker := by
  refine ⟨by decide, fun marker hmarker => ?_⟩
  cases hmarker
  decide

/-- The name of the `i`-th link of a chain. -/
def linkName (i : Nat) : Text := 'L' :: Text.decimal (100 + i) ++ ".swift".toList

/-- A project in which `n` links lead to a marked file, each by way of all that follow it. -/
def linkChain (n : Nat) : Tree where
  top := .dir [("p".toList, .dir (("App.xcodeproj".toList, .dir [] 0o755) ::
    ("F.txt".toList, .file (Utf8.encode "@main\nstruct DemoApp \x7b\n\x7d\n".toList) 0o644) ::
    (List.range n).map fun i => (linkName i, .link (if i + 1 = n then "F.txt".toList else linkName (i + 1))))
    0o755)] 0o755
  here := []
  home := []

theorem linkName_injective : Function.Injective linkName := by
  intro i j h
  have hdigits : Nat.toDigits 10 (100 + i) = Nat.toDigits 10 (100 + j) :=
    List.append_cancel_right (List.cons.inj h).2
  have hnumber := congrArg (Nat.ofDigitChars 10 · 0) hdigits
  simp only [Nat.ofDigitChars_ten_toDigits] at hnumber
  omega

theorem not_mem_linkName {c : Char} (hfirst : c ≠ 'L') (hdigit : c.isDigit = false) (hsuffix : c ∉ ".swift".toList)
    (i : Nat) : c ∉ linkName i := by
  rw [linkName, List.cons_append, List.mem_cons, List.mem_append, not_or, not_or]
  refine ⟨hfirst, fun hc => ?_, hsuffix⟩
  have hc := Nat.isDigit_of_mem_toDigits (by decide) (by decide) hc
  rw [hdigit] at hc
  cases hc

theorem isEntryName_linkName (i : Nat) : IsEntryName (linkName i) where
  not_idle := rfl
  not_up h := by cases h
  no_slash := not_mem_linkName (by decide) (by decide) (by decide) i
  no_null := not_mem_linkName (by decide) (by decide) (by decide) i

theorem isProper_linkChain (n : Nat) : (linkChain n).IsProper := by
  have hempty : (Node.dir [] 0o755).IsProper :=
    Node.isProper_dir 0o755 List.nodup_nil (fun _ h => by cases h) fun _ h => by cases h
  have hnames : ∀ f : Nat → Node, ((List.range n).map fun i => (linkName i, f i)).map Prod.fst =
      (List.range n).map linkName := fun f => by rw [List.map_map]; rfl
  have hlinks : ((List.range n).map linkName).Nodup :=
    List.pairwise_map.2 (List.nodup_range.imp fun hne heq => hne (linkName_injective heq))
  have hother : ∀ {name : Text} {c : Char} {r : Text}, name = c :: r → c ≠ 'L' →
      name ∉ (List.range n).map linkName := by
    rintro name c r rfl hc hm
    obtain ⟨i, -, hi⟩ := List.mem_map.1 hm
    exact hc (List.cons.inj hi).1.symm
  have hproject : (linkChain n).top.IsProper := by
    refine Node.isProper_dir _ (List.pairwise_singleton _ _) (fun name hm => ?_) fun e he => ?_
    · obtain rfl := List.mem_singleton.1 hm
      exact (by decide : IsEntryName "p".toList)
    obtain rfl := List.mem_singleton.1 he
    refine Node.isProper_dir _ ?_ ?_ ?_
    · rw [Entries.names, List.map_cons, List.map_cons, hnames, List.nodup_cons, List.mem_cons, not_or]
      exact ⟨⟨by decide, hother rfl (by decide)⟩, List.nodup_cons.2 ⟨hother rfl (by decide), hlinks⟩⟩
    · rw [Entries.names, List.map_cons, List.map_cons, hnames]
      intro name hm
      rcases List.mem_cons.1 hm with rfl | hm
      · decide
      rcases List.mem_cons.1 hm with rfl | hm
      · decide
      obtain ⟨i, -, rfl⟩ := List.mem_map.1 hm
      exact isEntryName_linkName i
    · intro e he
      rcases List.mem_cons.1 he with rfl | he
      · exact hempty
      rcases List.mem_cons.1 he with rfl | he
      · exact Node.isProper_of_not_dir rfl
      obtain ⟨i, -, rfl⟩ := List.mem_map.1 he
      exact Node.isProper_of_not_dir rfl
  exact hproject

/-- Credentials that are inserted as they are, and nothing fails. -/
def plainCall : Call := ⟨.text "id".toList, .text "secret".toList, false, noMishaps⟩

/-- What a report says first: how the call ended, and in which file. -/
def Made.seen (m : Made) : Option (InstallOutcome × Option Text) :=
  m.result.toOption.map fun report => (report.outcome, report.file)

theorem Made.exists_of_seen {m : Made} {outcome : InstallOutcome} {file : Option Text}
    (h : m.seen = some (outcome, file)) :
    ∃ report, m.result = .ok report ∧ report.outcome = outcome ∧ report.file = file := by
  rw [seen] at h
  cases hresult : m.result with
  | error f =>
    rw [hresult] at h
    cases h
  | ok report =>
    rw [hresult] at h
    cases h
    exact ⟨report, rfl, rfl, rfl⟩

theorem ChangesOnce.of_inserts {again : Tree → Tree → Text → Text → Prop} {t : Tree} {first : Made}
    {rest : List Made} {path : Text} (h : ChangesOnce again t (first :: rest)) (hinserts : first.Inserts path) :
    ∃ path', again t first.tree path path' ∧ ∀ m ∈ rest, m.IsRepeat first.tree path' := by
  obtain ⟨report, hreport, houtcome, hfile⟩ := hinserts.outcome
  obtain hall | ⟨before, m, after, found, path', hrun, hbefore, hfound, hagain, hafter⟩ := h
  · exact absurd houtcome ((hall first List.mem_cons_self).outcome hinserts.dryRun report hreport)
  cases before with
  | cons b bs =>
    obtain ⟨rfl, -⟩ := List.cons.inj hrun
    exact absurd houtcome ((hbefore first List.mem_cons_self).outcome hinserts.dryRun report hreport)
  | nil =>
    obtain ⟨rfl, rfl⟩ := List.cons.inj hrun
    obtain ⟨report', hreport', -, hfile'⟩ := hfound.outcome
    rw [hreport] at hreport'
    cases hreport'
    rw [hfile] at hfile'
    cases hfile'
    exact ⟨path', hagain, hafter⟩

/-! ## Runs -/

namespace Tree

variable {t : Tree} {s : Settings} {root : Value}

theorem run_of_settled {file : EntryFile} (h : t.Settled s root file) (calls : List Call) :
    ∀ m ∈ t.run s root calls, m.IsRepeat t file.path := by
  induction calls with
  | nil =>
    intro m hm
    cases hm
  | cons c calls ih =>
    have hfirst := isRepeat_of_settled h c
    rw [run, hfirst.tree]
    intro m hm
    rcases List.mem_cons.1 hm with rfl | hm
    · exact hfirst
    · exact ih m hm

/-- Over a whole run the tree changes at most once, if no text to write cannot be encoded. -/
theorem run_changes_once (ht : t.IsProper) (hcall : IsPlain s.initCall)
    (hmarker : ∀ marker, s.rootMarker = .ok marker → IsPlain marker) (root : Value) (calls : List Call)
    (hencodes : ∀ m ∈ t.run s root calls, m.result ≠ .error .unencodable) :
    ChangesOnce Refound t (t.run s root calls) := by
  induction calls with
  | nil =>
    left
    intro m hm
    cases hm
  | cons c calls ih =>
    obtain ⟨hfirst, hrest⟩ := List.forall_mem_cons.1 hencodes
    obtain hidle | ⟨path, file, hinserts, hsettled, hrefound⟩ := idle_or_inserts ht hcall hmarker root c hfirst
    · rw [hidle.tree] at hrest
      rw [run, hidle.tree]
      obtain hall | ⟨before, m, after, path, path', hrun, hbefore, hinserts, hagain, hafter⟩ := ih hrest
      · left
        intro m hm
        rcases List.mem_cons.1 hm with rfl | hm
        · exact hidle
        · exact hall m hm
      · right
        refine ⟨t.make s root c :: before, m, after, path, path', ?_, ?_, hinserts, hagain, hafter⟩
        · rw [hrun, List.cons_append]
        · intro b hb
          rcases List.mem_cons.1 hb with rfl | hb
          · exact hidle
          · exact hbefore b hb
    · right
      refine ⟨[], _, _, path, file.path, rfl, ?_, hinserts, hrefound, run_of_settled hsettled calls⟩
      intro b hb
      cases hb

/-- The first of two calls inserts something in the place of a link, and the second one finds it. -/
theorem run_changes_once_behind_link : ∃ first second path,
    (linkChain 1).run Settings.byDefault (.text "p".toList) [plainCall, plainCall] = [first, second] ∧
      first.Inserts "p/L100.swift".toList ∧ (linkChain 1).Refound first.tree "p/L100.swift".toList path ∧
      second.IsRepeat first.tree path := by
  have hseen : ((linkChain 1).make Settings.byDefault (.text "p".toList) plainCall).seen =
      some (.inserted, some "p/L100.swift".toList) := by decide +kernel
  have hinserts : ((linkChain 1).make Settings.byDefault (.text "p".toList) plainCall).Inserts
      "p/L100.swift".toList := ⟨rfl, Made.exists_of_seen hseen⟩
  have hencodes : ((linkChain 1).run Settings.byDefault (.text "p".toList) [plainCall, plainCall]).all
      (fun m => m.result.toOption.isSome) = true := by decide +kernel
  obtain ⟨path, hagain, hafter⟩ := (run_changes_once (isProper_linkChain 1) Settings.isPlain_byDefault.1
    Settings.isPlain_byDefault.2 (.text "p".toList) [plainCall, plainCall] fun m hm herror => by
      have hreport := List.all_eq_true.1 hencodes m hm
      rw [herror] at hreport
      cases hreport).of_inserts hinserts
  exact ⟨_, _, path, rfl, hinserts, hagain, hafter _ List.mem_cons_self⟩

/-- Where 41 links lead to a file, the first of them is one too many. The second one is no link any more
after the first call, so the second call comes to the same file by the first link. -/
theorem run_finds_other_link : Settings.ofLayers .plenty none .null = .ok Settings.byDefault ∧
    IsPlain Settings.byDefault.initCall ∧
    (∀ marker, Settings.byDefault.rootMarker = .ok marker → IsPlain marker) ∧ (linkChain 41).IsProper ∧
    ¬ ChangesOnce (fun _ _ path path' => path' = path) (linkChain 41)
      ((linkChain 41).run Settings.byDefault (.text "p".toList) [plainCall, plainCall]) := by
  refine ⟨Settings.ofLayers_nothing, Settings.isPlain_byDefault.1, Settings.isPlain_byDefault.2,
    isProper_linkChain 41, fun h => ?_⟩
  have hseen : ((linkChain 41).run Settings.byDefault (.text "p".toList) [plainCall, plainCall]).map Made.seen =
      [some (.inserted, some "p/L101.swift".toList), some (.alreadyPresent, some "p/L100.swift".toList)] := by
    decide +kernel
  obtain ⟨hfirst, hrest⟩ := List.cons.inj hseen
  obtain ⟨report, hreport, -, hfile⟩ := Made.exists_of_seen (List.cons.inj hrest).1
  obtain ⟨path, rfl, hafter⟩ := h.of_inserts ⟨rfl, Made.exists_of_seen hfirst⟩
  obtain ⟨report', hreport', -, hfile'⟩ := (hafter _ List.mem_cons_self).present
    ⟨"id".toList, "secret".toList, by decide, by decide⟩ rfl
  rw [hreport] at hreport'
  cases hreport'
  rw [hfile] at hfile'
  exact absurd hfile' (by decide)

end Tree

end SdkGraft
