/-!
# Steps that may fail

* `Except.exists_of_bind_eq_ok` : where two steps succeed one after the other, both did;
* `Except.map_bind` : what is made of the result of the last step;
* `Except.bind_eq_ok_iff`, `Except.bind_eq_error_iff` : how two steps one after the other end;
* `Except.exists_of_map_eq_ok`, `Except.of_mapError_eq_ok` : the same for what is made of results and faults;
* `Except.of_toOption_eq_some` : a result that is seen is one;
* `Except.mapM_eq_ok_iff`, `Except.exists_mapM_eq_ok_iff`, `Except.mapM_eq_error_iff` : how a check of each item of a
  list ends.
-/

namespace SdkGraft

variable {ε ε' α β γ : Type}

theorem Except.ok_bind (a : α) (f : α → Except ε β) : (Except.ok a >>= f) = f a := rfl

theorem Except.map_bind (g : β → γ) (x : Except ε α) (f : α → Except ε β) :
    (x >>= f).map g = x >>= fun a => (f a).map g := by
  cases x <;> rfl

theorem Except.exists_of_bind_eq_ok {x : Except ε α} {f : α → Except ε β} {b : β} (h : (x >>= f) = .ok b) :
    ∃ a, x = .ok a ∧ f a = .ok b := by
  cases x with
  | error e => cases h
  | ok a => exact ⟨a, rfl, h⟩

theorem Except.bind_eq_ok_iff {x : Except ε α} {f : α → Except ε β} {b : β} :
    (x >>= f) = .ok b ↔ ∃ a, x = .ok a ∧ f a = .ok b := by
  constructor
  · exact exists_of_bind_eq_ok
  · rintro ⟨a, rfl, h⟩
    exact h

theorem Except.bind_eq_error_iff {x : Except ε α} {f : α → Except ε β} {e : ε} :
    (x >>= f) = .error e ↔ x = .error e ∨ ∃ a, x = .ok a ∧ f a = .error e := by
  cases x with
  | error e' =>
    show Except.error e' = _ ↔ _
    simp
  | ok a =>
    rw [ok_bind]
    simp

theorem Except.exists_of_map_eq_ok {x : Except ε α} {f : α → β} {b : β} (h : x.map f = .ok b) :
    ∃ a, x = .ok a ∧ f a = b := by
  cases x with
  | error e => cases h
  | ok a => exact ⟨a, rfl, Except.ok.inj h⟩

theorem Except.of_mapError_eq_ok {x : Except ε α} {f : ε → ε'} {a : α} (h : x.mapError f = .ok a) :
    x = .ok a := by
  cases x with
  | error e => cases h
  | ok a => exact congrArg Except.ok (Except.ok.inj h)

theorem Except.of_toOption_eq_some {x : Except ε α} {a : α} (h : x.toOption = some a) : x = .ok a := by
  cases x with
  | error e => cases h
  | ok b => exact congrArg Except.ok (Option.some.inj h)

/-! ## Lists -/

/-- A check that makes `b` of `g b` and of nothing else, item by item. -/
theorem Except.mapM_eq_ok_iff {f : α → Except ε β} {g : β → α} {p : β → Prop}
    (hf : ∀ a b, f a = .ok b ↔ a = g b ∧ p b) {l : List α} {l' : List β} :
    l.mapM f = .ok l' ↔ l = l'.map g ∧ ∀ b ∈ l', p b := by
  induction l generalizing l' with
  | nil =>
    constructor
    · intro h
      cases h
      exact ⟨rfl, fun b hb => by cases hb⟩
    · rintro ⟨h, -⟩
      rw [List.map_eq_nil_iff.1 h.symm]
      rfl
  | cons a l ih =>
    rw [List.mapM_cons, bind_eq_ok_iff]
    constructor
    · rintro ⟨b, hb, h⟩
      obtain ⟨bs, hbs, h⟩ := exists_of_bind_eq_ok h
      cases h
      obtain ⟨rfl, hp⟩ := (hf a b).1 hb
      obtain ⟨rfl, hps⟩ := ih.1 hbs
      exact ⟨rfl, List.forall_mem_cons.2 ⟨hp, hps⟩⟩
    · rintro ⟨h, hp⟩
      cases l' with
      | nil => cases h
      | cons b bs =>
        obtain ⟨rfl, rfl⟩ := List.cons.inj h
        obtain ⟨hb, hbs⟩ := List.forall_mem_cons.1 hp
        refine ⟨b, (hf _ b).2 ⟨rfl, hb⟩, ?_⟩
        rw [ih.2 ⟨rfl, hbs⟩]
        rfl

theorem Except.exists_mapM_eq_ok_iff {f : α → Except ε β} {l : List α} :
    (∃ l', l.mapM f = .ok l') ↔ ∀ a ∈ l, ∃ b, f a = .ok b := by
  induction l with
  | nil => exact ⟨fun _ a ha => (by cases ha), fun _ => ⟨[], rfl⟩⟩
  | cons a l ih =>
    rw [List.forall_mem_cons, ← ih]
    simp only [List.mapM_cons, bind_eq_ok_iff]
    constructor
    · rintro ⟨_, b, hb, bs, hbs, -⟩
      exact ⟨⟨b, hb⟩, bs, hbs⟩
    · rintro ⟨⟨b, hb⟩, bs, hbs⟩
      exact ⟨_, b, hb, bs, hbs, rfl⟩

theorem Except.mapM_eq_error_iff {f : α → Except ε β} {l : List α} {e : ε} :
    l.mapM f = .error e ↔
      ∃ before a after, l = before ++ a :: after ∧ (∀ x ∈ before, ∃ b, f x = .ok b) ∧ f a = .error e := by
  induction l with
  | nil =>
    constructor
    · intro h
      cases h
    · rintro ⟨before, a, after, h, -⟩
      simp at h
  | cons first l ih =>
    rw [List.mapM_cons, bind_eq_error_iff]
    constructor
    · rintro (h | ⟨b, hb, h⟩)
      · exact ⟨[], first, l, rfl, fun x hx => (by cases hx), h⟩
      · obtain h | ⟨_, -, h⟩ := bind_eq_error_iff.1 h
        · obtain ⟨before, a, after, rfl, hbefore, ha⟩ := ih.1 h
          exact ⟨first :: before, a, after, rfl, List.forall_mem_cons.2 ⟨⟨b, hb⟩, hbefore⟩, ha⟩
        · cases h
    · rintro ⟨before, a, after, h, hbefore, ha⟩
      cases before with
      | nil =>
        obtain ⟨rfl, -⟩ := List.cons.inj h
        exact .inl ha
      | cons x before =>
        obtain ⟨rfl, rfl⟩ := List.cons.inj h
        obtain ⟨⟨b, hb⟩, hbefore⟩ := List.forall_mem_cons.1 hbefore
        refine .inr ⟨b, hb, bind_eq_error_iff.2 (.inl (ih.2 ⟨before, a, after, rfl, hbefore, ha⟩))⟩

end SdkGraft
