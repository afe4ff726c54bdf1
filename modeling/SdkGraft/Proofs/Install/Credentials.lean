import SdkGraft.Proofs.Source.SnippetLines
import SdkGraft.Proofs.Text.Blanks
import SdkGraft.Proofs.Install.Settled

/-!
# Credentials that are accepted, and those that are refused

* `Credential.IsEmbeddable` : a text that can be inserted; `Credential.Accepts` : it is what a value comes to;
* `Credential.Flaw`, `Credential.Refuses` : the first thing wrong with a text, and with a value;
* `problem?_eq_none_iff`, `problem?_eq_some_iff` : the check of a text finds just that;
* `exists_check_eq_ok_iff`, `check_eq_error_iff` : so does the check of a value;
* `CredentialError.message_injective` : a message tells which value is refused, and why;
* `Credentials.validate_exact` : both values are accepted, or the first one that is not ends the installation.
-/

namespace SdkGraft

namespace Credential

/-- A text that can stand inside a string literal. -/
structure IsEmbeddable (t : Text) : Prop where
  nonempty : t ≠ []
  no_quote : '"' ∉ t
  no_backslash : '\\' ∉ t
  printing : ∀ c ∈ t, 0x20 ≤ c.toNat ∧ c.toNat ≠ 0x7F

/-- A value is a text that can be inserted when the blanks at its ends are gone. -/
def Accepts (v : Value) (t : Text) : Prop := ∃ u, v = .text u ∧ Text.trim u = t ∧ IsEmbeddable t

/-- The first thing wrong with a text: that nothing is there, then a character that ends a literal, then one that
bends it, then one that does not print. -/
inductive Flaw : Text → CredentialProblem → Prop where
  | nothing : Flaw [] .empty
  | quote {t : Text} (h : '"' ∈ t) : Flaw t (.forbidden '"')
  | backslash {t : Text} (hquote : '"' ∉ t) (h : '\\' ∈ t) : Flaw t (.forbidden '\\')
  | control {t : Text} {c : Char} (hquote : '"' ∉ t) (hback : '\\' ∉ t) (hc : c ∈ t)
      (h : c.toNat < 0x20 ∨ c.toNat = 0x7F) : Flaw t .control

/-- The first thing wrong with a value: that it is no text, or something with the text between its outer blanks. -/
inductive Refuses : Value → CredentialProblem → Prop where
  | noText {v : Value} (h : ∀ t, v ≠ .text t) : Refuses v .empty
  | flawed {t : Text} {p : CredentialProblem} (h : Flaw (Text.trim t) p) : Refuses (.text t) p

variable {t : Text} {v : Value} {p : CredentialProblem}

/-! ## Texts -/

theorem isControl_iff {c : Char} : isControl c = true ↔ c.toNat < 0x20 ∨ c.toNat = 0x7F := by
  simp [isControl]

theorem problem?_eq_none_iff : problem? t = none ↔ IsEmbeddable t := by
  constructor
  · intro h
    have hfits := fits_of_problem?_eq_none h
    have hnonempty : t ≠ [] := by
      rintro rfl
      cases h
    refine ⟨hnonempty, hfits.no_quote, hfits.no_backslash, fun c hc => ?_⟩
    have hno := mt isControl_iff.2 (Bool.eq_false_iff.1 (hfits.no_control c hc))
    omega
  · intro h
    have hcontrol : t.any isControl = false := by
      refine List.any_eq_false.2 fun c hc => mt isControl_iff.1 ?_
      have := h.printing c hc
      omega
    simp [problem?, h.nonempty, h.no_quote, h.no_backslash, hcontrol]

theorem problem?_eq_some_iff : problem? t = some p ↔ Flaw t p := by
  constructor
  · intro h
    rw [problem?] at h
    split at h
    · rename_i hempty
      cases h
      rw [List.isEmpty_iff.1 hempty]
      exact .nothing
    split at h
    · rename_i hquote
      cases h
      exact .quote (List.contains_iff_mem.1 hquote)
    rename_i hquote
    split at h
    · rename_i hback
      cases h
      exact .backslash (mt List.contains_iff_mem.2 hquote) (List.contains_iff_mem.1 hback)
    rename_i hback
    split at h
    · rename_i hcontrol
      cases h
      obtain ⟨c, hc, h⟩ := List.any_eq_true.1 hcontrol
      exact .control (mt List.contains_iff_mem.2 hquote) (mt List.contains_iff_mem.2 hback) hc (isControl_iff.1 h)
    · cases h
  · intro h
    cases h with
    | nothing => rfl
    | quote h => simp [problem?, List.ne_nil_of_mem h, h]
    | backslash hquote h => simp [problem?, List.ne_nil_of_mem h, hquote, h]
    | control hquote hback hc h =>
      have hcontrol : t.any isControl = true := List.any_eq_true.2 ⟨_, hc, isControl_iff.2 h⟩
      simp [problem?, List.ne_nil_of_mem hc, hquote, hback, hcontrol]

/-! ## Values -/

theorem check_text_of_some (h : problem? (Text.trim t) = some p) : check (.text t) = .error p := by
  rw [check]
  split <;> simp_all

theorem check_text_of_none (h : problem? (Text.trim t) = none) : check (.text t) = .ok ⟨Text.trim t, h⟩ := by
  rw [check]
  split
  · simp_all
  · rfl

theorem check_of_noText (h : ∀ t, v ≠ .text t) : check v = .error .empty := by
  cases v with
  | text t => exact absurd rfl (h t)
  | _ => rfl

theorem exists_check_eq_ok_iff : (∃ h, check v = .ok ⟨t, h⟩) ↔ Accepts v t := by
  constructor
  · rintro ⟨h, hcheck⟩
    cases v with
    | text u =>
      cases hu : problem? (Text.trim u) with
      | some p => rw [check_text_of_some hu] at hcheck; cases hcheck
      | none =>
        rw [check_text_of_none hu] at hcheck
        cases hcheck
        exact ⟨u, rfl, rfl, problem?_eq_none_iff.1 hu⟩
    | _ => cases hcheck
  · rintro ⟨u, rfl, rfl, hfit⟩
    have hnone := problem?_eq_none_iff.2 hfit
    exact ⟨hnone, check_text_of_none hnone⟩

theorem check_eq_error_iff : check v = .error p ↔ Refuses v p := by
  constructor
  · intro hcheck
    cases v with
    | text u =>
      cases hu : problem? (Text.trim u) with
      | some q =>
        rw [check_text_of_some hu] at hcheck
        cases hcheck
        exact .flawed (problem?_eq_some_iff.1 hu)
      | none => rw [check_text_of_none hu] at hcheck; cases hcheck
    | _ => cases hcheck; exact .noText fun t h => by cases h
  · intro h
    cases h with
    | noText h => exact check_of_noText h
    | flawed h => exact check_text_of_some (problem?_eq_some_iff.2 h)

/-- What a value comes to is accepted as it is. -/
theorem Accepts.again (h : Accepts v t) : Accepts (.text t) t := by
  obtain ⟨u, rfl, rfl, hfit⟩ := h
  exact ⟨_, rfl, Text.trim_trim u, hfit⟩

end Credential

/-! ## Both values -/

/-- A message tells which value is refused, and why. -/
theorem CredentialError.message_injective : Function.Injective CredentialError.message := by
  rintro ⟨field, problem⟩ ⟨field', problem'⟩ h
  -- The labels differ in their eighth character, the wordings of two problems in their eleventh or nineteenth.
  have hfield : field = field' := by
    have heighth := congrArg (fun t : Text => t[7]?) h
    cases field <;> cases field' <;> first | rfl | cases heighth
  subst hfield
  have hrest := fun i : Nat => congrArg (fun t : Text => t[i]?) (List.append_cancel_left h)
  cases problem with
  | empty =>
    cases problem' with
    | empty => rfl
    | forbidden c' => cases hrest 10
    | control => cases hrest 10
  | forbidden c =>
    cases problem' with
    | empty => cases hrest 10
    | forbidden c' => cases hrest 19; rfl
    | control => cases hrest 18
  | control =>
    cases problem' with
    | empty => cases hrest 10
    | forbidden c' => cases hrest 18
    | control => rfl

namespace Credentials

open Credential

variable {clientId clientSecret : Value}

theorem validate_eq_ok_iff {c : Credentials} :
    validate clientId clientSecret = .ok c ↔ Accepts clientId c.clientId ∧ Accepts clientSecret c.clientSecret := by
  rw [← exists_check_eq_ok_iff, ← exists_check_eq_ok_iff, validate]
  obtain ⟨id, secret, hid, hsecret⟩ := c
  cases check clientId with
  | error p => simp
  | ok id' =>
    cases check clientSecret with
    | error p => simp
    | ok secret' =>
      obtain ⟨id', hid'⟩ := id'
      obtain ⟨secret', hsecret'⟩ := secret'
      simp [hid, hsecret]

theorem validate_eq_error_iff {e : CredentialError} :
    validate clientId clientSecret = .error e ↔
      (e.field = .clientId ∧ Refuses clientId e.problem) ∨
      (e.field = .clientSecret ∧ (∃ t, Accepts clientId t) ∧ Refuses clientSecret e.problem) := by
  obtain ⟨field, problem⟩ := e
  simp only [← exists_check_eq_ok_iff, ← check_eq_error_iff, validate]
  cases check clientId with
  | error p => cases field <;> simp
  | ok id =>
    obtain ⟨id, hid⟩ := id
    cases check clientSecret with
    | error p => cases field <;> simp [hid]
    | ok secret => cases field <;> simp

/-- Two values are accepted if each is a text with something between its outer blanks that can stand inside a string
literal, and what is kept of them is accepted again as it is. Otherwise the first value that is not is named with
the first thing that is wrong with it, and every installation ends with that message and changes nothing. -/
theorem validate_exact (clientId clientSecret : Value) :
    (∀ c, validate clientId clientSecret = .ok c ↔
      Accepts clientId c.clientId ∧ Accepts clientSecret c.clientSecret) ∧
    ((∃ c, validate clientId clientSecret = .ok c) ↔ (∃ t, Accepts clientId t) ∧ ∃ t, Accepts clientSecret t) ∧
    (∀ c, validate clientId clientSecret = .ok c →
      validate (.text c.clientId) (.text c.clientSecret) = .ok c) ∧
    (∀ e, validate clientId clientSecret = .error e ↔
      (e.field = .clientId ∧ Refuses clientId e.problem) ∨
      (e.field = .clientSecret ∧ (∃ t, Accepts clientId t) ∧ Refuses clientSecret e.problem)) ∧
    ∀ e, validate clientId clientSecret = .error e → ∀ (t : Tree) mishaps s root dryRun (isDry : Bool),
      dryRun.flag? = some isDry → ∃ report,
        t.install mishaps s ⟨root, clientId, clientSecret, dryRun⟩ = (t, .ok report) ∧
        report.outcome = .invalidCredentials ∧ report.message = e.message := by
  refine ⟨fun c => validate_eq_ok_iff, ?_, fun c h => ?_, fun e => validate_eq_error_iff,
    fun e h t mishaps s root dryRun isDry hdry => Tree.install_of_invalid h hdry mishaps⟩
  · constructor
    · rintro ⟨c, h⟩
      have := validate_eq_ok_iff.1 h
      exact ⟨⟨_, this.1⟩, ⟨_, this.2⟩⟩
    · rintro ⟨⟨id, hid⟩, secret, hsecret⟩
      obtain ⟨hidFit, -⟩ := exists_check_eq_ok_iff.2 hid
      obtain ⟨hsecretFit, -⟩ := exists_check_eq_ok_iff.2 hsecret
      exact ⟨⟨id, secret, hidFit, hsecretFit⟩, validate_eq_ok_iff.2 ⟨hid, hsecret⟩⟩
  · have := validate_eq_ok_iff.1 h
    exact validate_eq_ok_iff.2 ⟨this.1.again, this.2.again⟩

/-- A separator is a blank at the ends of a text and a control character within it. -/
theorem validate_exact_of_separators :
    (∃ c, validate (.text "\u001cid ".toList) (.text " secret\u001f".toList) = .ok c ∧
      c.clientId = "id".toList ∧ c.clientSecret = "secret".toList) ∧
    ∀ t : Tree, ∃ report,
      t.install noMishaps .byDefault
        ⟨.null, .text "\u001cid ".toList, .text "sec\u001fret\u001f".toList, .bool false⟩ = (t, .ok report) ∧
      report.outcome = .invalidCredentials ∧
      report.message = "Client secret must not contain control characters.".toList := by
  have hid : Accepts (.text "\u001cid ".toList) "id".toList :=
    ⟨_, rfl, by decide, problem?_eq_none_iff.1 (by decide)⟩
  have hsecret : Accepts (.text " secret\u001f".toList) "secret".toList :=
    ⟨_, rfl, by decide, problem?_eq_none_iff.1 (by decide)⟩
  constructor
  · obtain ⟨c, hc⟩ := (validate_exact _ _).2.1.2 ⟨⟨_, hid⟩, _, hsecret⟩
    obtain ⟨⟨u, hu, hclient, -⟩, ⟨u', hu', hclient', -⟩⟩ := ((validate_exact _ _).1 c).1 hc
    cases hu
    cases hu'
    exact ⟨c, hc, hclient.symm.trans (by decide), hclient'.symm.trans (by decide)⟩
  · intro t
    have hrefused : Refuses (.text "sec\u001fret\u001f".toList) .control :=
      .flawed (.control (c := '\u001f') (by decide) (by decide) (by decide) (by decide))
    have herror := ((validate_exact _ _).2.2.2.1 ⟨.clientSecret, .control⟩).2 (.inr ⟨rfl, ⟨_, hid⟩, hrefused⟩)
    exact (validate_exact _ _).2.2.2.2 _ herror t noMishaps .byDefault .null (.bool false) false rfl

end Credentials

end SdkGraft
