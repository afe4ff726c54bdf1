import Mathlib.Tactic.ByContra
import SdkGraft.Install.Progress

/-!
# The progress over every run

* `Move`, `Progress.attempt`, `Progress.run` : steps reported to a progress, the refused ones without effect;
* `Progress.Admits` : a move that is due: its step is the first pending one, and none has failed;
* `IsOrdered` : some successes, then a failure at most, then what is pending;
* `Progress.finished` : the events of the steps that are not pending (`Progress.finished_eq`);
* `Progress.Sound` : no step is ahead of its time, and the listener knows of all that are finished
  (`Progress.sound_start`, `Progress.Sound.record`, `Progress.sound_run`);
* `Progress.run_invariant` : so it is after any moves, and then the moves that are due are those allowed.
-/

namespace SdkGraft.Install

/-! ## Steps -/

/-- The steps stand around each of them: some before it, and all others behind. -/
theorem Step.exists_all_eq (s : Step) : ∃ after, Step.all = s.before ++ s :: after ∧
    s ∉ s.before ∧ s ∉ after ∧ ∀ later ∈ after, s ∈ later.before := by
  cases s <;> exact ⟨_, rfl, by decide, by decide, by decide⟩

theorem Step.before_eq {s : Step} {front rest : List Step} (h : Step.all = front ++ s :: rest) (hs : s ∉ front) :
    s.before = front := by
  have hfront : ∀ s' ∈ front, (s' != s) = true := by
    intro s' hs'
    rw [bne_iff_ne]
    rintro rfl
    exact hs hs'
  rw [Step.before, h, List.takeWhile_append_of_pos hfront, List.takeWhile_cons_of_neg (by simp), List.append_nil]

theorem Step.pairwise_all : Step.all.Pairwise fun s later => s ∈ later.before := by decide

theorem Step.mem_all (s : Step) : s ∈ Step.all := by cases s <;> decide

/-! ## States in order -/

/-- Some successes, then a failure at most, then what is pending. -/
def IsOrdered (states : List StepState) : Prop :=
  ∃ won left, states = List.replicate won .success ++ List.replicate left .pending ∨
    states = List.replicate won .success ++ .failed :: List.replicate left .pending

/-- States are in order where everything before one that is not pending is a success. -/
theorem isOrdered_of_pairwise {states : List StepState}
    (h : states.Pairwise fun s later => later ≠ .pending → s = .success) : IsOrdered states := by
  induction states with
  | nil => exact ⟨0, 0, Or.inl rfl⟩
  | cons s rest ih =>
    rw [List.pairwise_cons] at h
    have hpending : s ≠ .success → rest = List.replicate rest.length .pending := by
      intro hs
      apply List.eq_replicate_of_mem
      intro later hlater
      by_contra hne
      exact hs (h.1 later hlater hne)
    cases s with
    | success =>
      rcases ih h.2 with ⟨won, left, hrest | hrest⟩
      · exact ⟨won + 1, left, Or.inl (by rw [hrest]; rfl)⟩
      · exact ⟨won + 1, left, Or.inr (by rw [hrest]; rfl)⟩
    | failed => exact ⟨0, rest.length, Or.inr (congrArg _ (hpending (by simp)))⟩
    | pending => exact ⟨0, rest.length + 1, Or.inl (congrArg _ (hpending (by simp)))⟩

/-- Where nothing that is kept stands behind what is not, what is kept is a beginning. -/
theorem filter_eq_takeWhile {α : Type} {q : α → Bool} {l : List α}
    (h : l.Pairwise fun a later => q later = true → q a = true) : l.filter q = l.takeWhile q := by
  induction l with
  | nil => rfl
  | cons a rest ih =>
    rw [List.pairwise_cons] at h
    by_cases ha : q a = true
    · rw [List.filter_cons_of_pos ha, List.takeWhile_cons_of_pos ha, ih h.2]
    · rw [List.filter_cons_of_neg ha, List.takeWhile_cons_of_neg ha, List.filter_eq_nil_iff]
      intro later hlater hq
      exact ha (h.1 later hlater hq)

/-! ## Moves -/

/-- A step is reported to have succeeded or failed. -/
inductive Move where
  | succeed (step : Step) (detail : Option Text)
  | fail (step : Step) (detail : Option Text)

def Move.event : Move → Event
  | .succeed step detail => ⟨step, .success, detail⟩
  | .fail step detail => ⟨step, .failed, detail⟩

/-- The progress after a move, if it is allowed. -/
def Move.apply (m : Move) (p : Progress) : Except Misstep Progress :=
  match m with
  | .succeed step detail => p.succeed step detail
  | .fail step detail => p.fail step detail

theorem Move.apply_eq (m : Move) (p : Progress) : m.apply p = p.move m.event := by cases m <;> rfl

theorem Move.state_event (m : Move) : m.event.state ≠ .pending := by cases m <;> simp [Move.event]

namespace Progress

variable {p q : Progress} {e : Event} {s : Step}

/-- The progress goes on from a move that is allowed, and stays as it was at one that is not. -/
def attempt (p : Progress) (m : Move) : Progress :=
  match m.apply p with
  | .ok q => q
  | .error _ => p

def run (moves : List Move) : Progress := moves.foldl attempt start

def next? (p : Progress) : Option Step := Step.all.find? fun s => p.states s == .pending

/-- The step is the first one pending, and no step has failed. -/
def Admits (p : Progress) (s : Step) : Prop := p.next? = some s ∧ ∀ s, p.states s ≠ .failed

/-- A move is allowed of a pending step that has nothing but successes before it, and is recorded. -/
theorem move_eq_ok_iff : p.move e = .ok q ↔
    (p.states e.step = .pending ∧ ∀ s ∈ e.step.before, p.states s = .success) ∧ q = p.record e := by
  unfold move
  split
  · rename_i hpending
    split
    · rename_i earlier hfind
      have hearlier : p.states earlier ≠ .success := by simpa using List.find?_some hfind
      have hmem := List.mem_of_find?_eq_some hfind
      constructor
      · intro h
        cases h
      · rintro ⟨⟨-, hbefore⟩, -⟩
        exact absurd (hbefore earlier hmem) hearlier
    · rename_i hfind
      have hbefore : ∀ s ∈ e.step.before, p.states s = .success := by simpa using hfind
      constructor
      · intro h
        cases h
        exact ⟨⟨hpending, hbefore⟩, rfl⟩
      · rintro ⟨-, rfl⟩
        rfl
  · rename_i hpending
    constructor
    · intro h
      cases h
    · rintro ⟨⟨h, -⟩, -⟩
      exact absurd h hpending

/-! ## Finished steps -/

/-- The events of the steps that are not pending, in order. -/
def finished (p : Progress) : List Event := p.snapshot.filter fun e => e.state != .pending

/-- Where all is finished before a step and pending behind it, only the step itself is in question. -/
theorem finished_eq (hbefore : ∀ s' ∈ s.before, p.states s' ≠ .pending)
    (hlater : ∀ later, s ∈ later.before → p.states later = .pending) :
    p.finished = s.before.map p.event ++ [p.event s].filter fun e => e.state != .pending := by
  obtain ⟨after, hall, -, -, hafter⟩ := s.exists_all_eq
  have hkept : (s.before.map p.event).filter (fun e => e.state != .pending) = s.before.map p.event := by
    rw [List.filter_eq_self]
    intro e he
    obtain ⟨s', hs', rfl⟩ := List.mem_map.1 he
    simpa [event] using hbefore s' hs'
  have hdropped : (after.map p.event).filter (fun e => e.state != .pending) = [] := by
    rw [List.filter_eq_nil_iff]
    intro e he
    obtain ⟨later, hmem, rfl⟩ := List.mem_map.1 he
    simp [event, hlater later (hafter later hmem)]
  rw [finished, snapshot, hall, List.map_append, List.map_cons, List.filter_append, List.filter_cons,
    hkept, hdropped, List.filter_cons]
  split <;> rfl

theorem event_record_of_ne (h : s ≠ e.step) : (p.record e).event s = p.event s := by
  simp [event, record, h]

theorem states_record_of_ne (h : s ≠ e.step) : (p.record e).states s = p.states s := by
  simp [record, h]

theorem event_record_self (p : Progress) (e : Event) : (p.record e).event e.step = e := by
  simp [event, record]

/-! ## What every move keeps -/

/-- A finished step has nothing but successes before it, and the listener has been told of all finished steps. -/
structure Sound (p : Progress) : Prop where
  ordered : ∀ later, p.states later ≠ .pending → ∀ s ∈ later.before, p.states s = .success
  told : p.told = p.finished

theorem sound_start : Sound start where
  ordered _ h := absurd rfl h
  told := rfl

theorem Sound.pending_of_pending (h : Sound p) (hs : p.states s = .pending) {later : Step}
    (hlater : s ∈ later.before) : p.states later = .pending := by
  by_contra hne
  have hsuccess := h.ordered later hne s hlater
  rw [hs] at hsuccess
  cases hsuccess

theorem Sound.record (h : Sound p) (he : e.state ≠ .pending) (hpending : p.states e.step = .pending)
    (hbefore : ∀ s ∈ e.step.before, p.states s = .success) : Sound (p.record e) := by
  obtain ⟨after, hall, hself, -, hafter⟩ := e.step.exists_all_eq
  have hne : ∀ s ∈ e.step.before, s ≠ e.step := fun s hs hse => hself (hse ▸ hs)
  have hlater : ∀ later, e.step ∈ later.before → later ≠ e.step := fun later hmem hle =>
    hself (by rw [hle] at hmem; exact hmem)
  constructor
  · intro later hfinished s hs
    by_cases hl : later = e.step
    · rw [hl] at hs
      rw [states_record_of_ne (hne s hs)]
      exact hbefore s hs
    · rw [states_record_of_ne hl] at hfinished
      have hsuccess := h.ordered later hfinished s hs
      have hse : s ≠ e.step := by
        rintro rfl
        rw [hpending] at hsuccess
        cases hsuccess
      rw [states_record_of_ne hse]
      exact hsuccess
  · have hwas : p.finished = e.step.before.map p.event ++ [] := by
      rw [finished_eq (fun s hs => by rw [hbefore s hs]; simp) fun later => h.pending_of_pending hpending,
        List.filter_cons_of_neg (by simp [event, hpending]), List.filter_nil]
    have hnow : (p.record e).finished = e.step.before.map (p.record e).event ++ [e] := by
      rw [finished_eq, event_record_self, List.filter_cons_of_pos (by simpa using he), List.filter_nil]
      · intro s hs
        rw [states_record_of_ne (hne s hs), hbefore s hs]
        simp
      · intro later hmem
        rw [states_record_of_ne (hlater later hmem)]
        exact h.pending_of_pending hpending hmem
    have hmap : e.step.before.map (p.record e).event = e.step.before.map p.event :=
      List.map_congr_left fun s hs => event_record_of_ne (hne s hs)
    rw [hnow, hmap]
    show p.told ++ [e] = _
    rw [h.told, hwas, List.append_nil]

/-- An attempt keeps a progress sound, allowed or not. -/
theorem Sound.attempt (h : Sound p) (m : Move) : Sound (p.attempt m) := by
  unfold Progress.attempt
  split
  · rename_i q hq
    rw [Move.apply_eq] at hq
    obtain ⟨⟨hpending, hbefore⟩, rfl⟩ := move_eq_ok_iff.1 hq
    exact h.record m.state_event hpending hbefore
  · exact h

/-- Every run leads to a sound progress: by induction on the moves, from any sound progress on. -/
theorem sound_run (moves : List Move) : Sound (run moves) := by
  have hfold : ∀ p, Sound p → Sound (moves.foldl Progress.attempt p) := by
    induction moves with
    | nil => exact fun p h => h
    | cons m rest ih =>
      intro p h
      exact ih _ (h.attempt m)
  exact hfold start sound_start

/-! ## What is allowed -/

/-- The first pending step has only finished steps before it. -/
theorem next?_eq_some_iff : p.next? = some s ↔ p.states s = .pending ∧ ∀ s' ∈ s.before, p.states s' ≠ .pending := by
  obtain ⟨after, hall, hself, -, -⟩ := s.exists_all_eq
  unfold next?
  constructor
  · intro hnext
    obtain ⟨hs, front, rest, hsplit, hfront⟩ := List.find?_eq_some_iff_append.1 hnext
    have hpending : p.states s = .pending := by simpa using hs
    have hnot : s ∉ front := by
      intro hmem
      have hbad := hfront s hmem
      simp [hpending] at hbad
    refine ⟨hpending, ?_⟩
    intro s' hs'
    rw [← Step.before_eq hsplit hnot] at hfront
    simpa using hfront s' hs'
  · rintro ⟨hpending, hbefore⟩
    have hnone : s.before.find? (fun s => p.states s == .pending) = none := by simpa using hbefore
    rw [hall, List.find?_append, hnone, Option.none_or]
    exact List.find?_cons_of_pos (by simp [hpending])

/-- In a sound progress the moves that are due are of pending steps with nothing but successes before them. -/
theorem Sound.admits_iff (h : Sound p) : p.Admits s ↔
    p.states s = .pending ∧ ∀ s' ∈ s.before, p.states s' = .success := by
  obtain ⟨after, hall, -, -, hafter⟩ := s.exists_all_eq
  unfold Admits
  rw [next?_eq_some_iff]
  constructor
  · rintro ⟨⟨hpending, hbefore⟩, hnone⟩
    refine ⟨hpending, ?_⟩
    intro s' hs'
    cases hstate : p.states s' with
    | success => rfl
    | failed => exact absurd hstate (hnone s')
    | pending => exact absurd hstate (hbefore s' hs')
  · rintro ⟨hpending, hbefore⟩
    refine ⟨⟨hpending, fun s' hs' => by rw [hbefore s' hs']; simp⟩, ?_⟩
    intro s' hfailed
    have hmem := s'.mem_all
    rw [hall, List.mem_append, List.mem_cons] at hmem
    rcases hmem with hs' | rfl | hs'
    · rw [hbefore s' hs'] at hfailed
      cases hfailed
    · rw [hpending] at hfailed
      cases hfailed
    · rw [h.pending_of_pending hpending (hafter s' hs')] at hfailed
      cases hfailed

/-- A move that is due is recorded; any other is refused, and nothing comes of it. -/
theorem Sound.apply (h : Sound p) (m : Move) :
    (p.Admits m.event.step → m.apply p = .ok (p.record m.event) ∧ p.attempt m = p.record m.event) ∧
      (¬ p.Admits m.event.step → (∃ misstep, m.apply p = .error misstep) ∧ p.attempt m = p) := by
  rw [h.admits_iff]
  constructor
  · intro hdue
    have happly : m.apply p = .ok (p.record m.event) := by
      rw [Move.apply_eq]
      exact move_eq_ok_iff.2 ⟨hdue, rfl⟩
    refine ⟨happly, ?_⟩
    rw [Progress.attempt, happly]
  · intro hnot
    cases happly : m.apply p with
    | ok q =>
      rw [Move.apply_eq] at happly
      exact absurd (move_eq_ok_iff.1 happly).1 hnot
    | error misstep =>
      refine ⟨⟨misstep, rfl⟩, ?_⟩
      rw [Progress.attempt, happly]

/-- In a sound progress the states are in order. -/
theorem Sound.isOrdered (h : Sound p) : IsOrdered (Step.all.map p.states) := by
  apply isOrdered_of_pairwise
  rw [List.pairwise_map]
  exact Step.pairwise_all.imp fun hbefore hfinished => h.ordered _ hfinished _ hbefore

/-- The events of a sound progress that are not pending are the beginning of the snapshot. -/
theorem Sound.finished_eq_takeWhile (h : Sound p) :
    p.finished = p.snapshot.takeWhile fun e => e.state != .pending := by
  apply filter_eq_takeWhile
  unfold snapshot
  rw [List.pairwise_map]
  refine Step.pairwise_all.imp fun {s later} hbefore hfinished => ?_
  have hsuccess := h.ordered later (by simpa [event] using hfinished) s hbefore
  simp [event, hsuccess]

theorem run_concat (moves : List Move) (m : Move) : run (moves ++ [m]) = (run moves).attempt m := by
  unfold run
  rw [List.foldl_append, List.foldl_cons, List.foldl_nil]

/-- After any moves, refused ones among them, the states of the steps are in order; exactly the moves of the first
pending step are allowed, as long as none has failed, and are recorded; any other leaves all as it is; and the
listener has been told just the beginning of the snapshot that is not pending. -/
theorem run_invariant (moves : List Move) :
    IsOrdered (Step.all.map (run moves).states) ∧
      (∀ m : Move, (∃ q, m.apply (run moves) = .ok q) ↔ (run moves).Admits m.event.step) ∧
      (∀ m : Move, (run moves).Admits m.event.step → run (moves ++ [m]) = (run moves).record m.event) ∧
      (∀ m : Move, ¬ (run moves).Admits m.event.step → run (moves ++ [m]) = run moves) ∧
      (run moves).told = (run moves).snapshot.takeWhile fun e => e.state != .pending := by
  have hsound := sound_run moves
  refine ⟨hsound.isOrdered, ?_, ?_, ?_, hsound.told.trans hsound.finished_eq_takeWhile⟩
  · intro m
    constructor
    · rintro ⟨q, hq⟩
      by_contra hnot
      obtain ⟨misstep, herror⟩ := ((hsound.apply m).2 hnot).1
      rw [herror] at hq
      cases hq
    · intro hdue
      exact ⟨_, ((hsound.apply m).1 hdue).1⟩
  · intro m hdue
    rw [run_concat]
    exact ((hsound.apply m).1 hdue).2
  · intro m hnot
    rw [run_concat]
    exact ((hsound.apply m).2 hnot).2

/-- A step that is moved twice, and one that is moved after a failure: both are refused, and nobody is told. -/
theorem run_invariant_of_refused :
    let moves : List Move := [.succeed .credentials none, .fail .credentials none, .fail .project (some "p".toList)]
    run (moves ++ [.succeed .entryPoint none]) = run moves ∧
      (run moves).told = [⟨.credentials, .success, none⟩, ⟨.project, .failed, some "p".toList⟩] ∧
      (run moves).told = (run moves).snapshot.takeWhile fun e => e.state != .pending := by
  intro moves
  obtain ⟨-, -, -, hrefused, htold⟩ := run_invariant moves
  refine ⟨hrefused _ ?_, rfl, htold⟩
  rintro ⟨-, hnone⟩
  exact hnone .project rfl

end Progress

end SdkGraft.Install
