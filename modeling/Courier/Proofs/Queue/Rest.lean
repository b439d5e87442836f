import Courier.Proofs.Queue.Awake

/-!
A queue comes to rest.  Each poll of a ready task lowers the load of the queue, so the polls of a
run are enough, and afterwards no task is ready.  At rest a worker that has not ended waits in line,
for a permit that others hold, or for the answer to a call; its request is not finished.
-/

namespace Courier.Queue

variable {α : Type} {q q₁ : Queue α} {s : Settings} {i n : Nat} {e : Entry α}

/-! ### Coming to rest -/

lemma apply_poll_of_cons {t : Task} {ts : List Task} (hr : q.ready = t :: ts) :
    q.apply (.poll t) = { q with ready := ts }.poll t := by
  show { q with ready := q.ready.erase t }.poll t = _
  rw [hr, List.erase_cons_head]

/-- A step of the executor polls the task that has been ready for the longest time. -/
lemma step_eq_some_iff : q.step? = some q₁ ↔
    ∃ t ts, q.ready = t :: ts ∧ q₁ = q.apply (.poll t) := by
  unfold step?
  cases hr : q.ready with
  | nil => simp
  | cons t ts =>
    dsimp only
    rw [← apply_poll_of_cons hr, Option.some.injEq]
    constructor
    · rintro rfl
      exact ⟨t, ts, rfl, rfl⟩
    · rintro ⟨t', ts', hcons, rfl⟩
      cases hcons
      rfl

lemma steps_of_cons {t : Task} {ts : List Task} (hr : q.ready = t :: ts) (n : Nat) :
    q.steps (n + 1) = (q.apply (.poll t)).steps n := by
  have h : q.step? = some (q.apply (.poll t)) := step_eq_some_iff.mpr ⟨t, ts, hr, rfl⟩
  rw [steps, h]

lemma steps_of_quiet (hr : q.ready = []) (n : Nat) : q.steps n = q := by
  cases n with
  | zero => rfl
  | succ n =>
    have h : q.step? = none := by
      unfold step?
      rw [hr]
    rw [steps, h]

lemma load_poll_le (s : q.Sound) (t : Task) : (q.poll t).load ≤ q.load := by
  cases t with
  | worker i => exact (s.turn i).load_le
  | reader =>
    show q.pollReader.load ≤ q.load
    unfold pollReader
    dsimp only
    split <;> exact Nat.le_refl _

/-- Each step lowers the load. -/
lemma load_step_lt (s : q.Sound) (h : q.step? = some q₁) : q₁.load < q.load := by
  obtain ⟨t, ts, hr, rfl⟩ := step_eq_some_iff.mp h
  have x := (advances_erase s t).sound
  rw [hr, List.erase_cons_head] at x
  have hpoll := load_poll_le x t
  have hload : q.load = ({ q with ready := ts } : Queue α).load + 1 := by
    unfold load
    rw [hr]
    show ts.length + 1 + (q.entries.map (·.stage.owes)).sum + q.hasPosters.toNat =
      ts.length + (q.entries.map (·.stage.owes)).sum + q.hasPosters.toNat + 1
    omega
  rw [apply_poll_of_cons hr]
  omega

lemma ready_steps (s : q.Sound) (hn : q.load ≤ n) : (q.steps n).ready = [] := by
  induction n generalizing q with
  | zero =>
    have hzero : q.ready.length = 0 := by
      unfold load at hn
      omega
    exact List.length_eq_zero_iff.mp hzero
  | succ n ih =>
    unfold steps
    cases h : q.step? with
    | none =>
      cases hr : q.ready with
      | nil => rfl
      | cons t ts => cases h.symm.trans (step_eq_some_iff.mpr ⟨t, ts, hr, rfl⟩)
    | some q₁ =>
      have hlt := load_step_lt s h
      obtain ⟨t, ts, -, rfl⟩ := step_eq_some_iff.mp h
      exact ih (s.apply (.poll t)).sound (by omega)

lemma steps_eq_play (n : Nat) (q : Queue α) :
    ∃ ts : List Task, q.steps n = q.play (ts.map .poll) := by
  induction n generalizing q with
  | zero => exact ⟨[], rfl⟩
  | succ n ih =>
    unfold steps
    cases h : q.step? with
    | none => exact ⟨[], rfl⟩
    | some q₁ =>
      obtain ⟨t, ts, -, rfl⟩ := step_eq_some_iff.mp h
      obtain ⟨us, hus⟩ := ih (q.apply (.poll t))
      exact ⟨t :: us, hus⟩

lemma load_le_enough (q : Queue α) : q.load ≤ q.enough := by
  have hsum : ∀ es : List (Entry α), (es.map (·.stage.owes)).sum ≤ 2 * es.length := by
    intro es
    induction es with
    | nil => exact Nat.le_refl 0
    | cons e es ih =>
      have hle : e.stage.owes ≤ 2 := by cases e.stage <;> simp [Stage.owes]
      rw [List.map_cons, List.sum_cons, List.length_cons]
      omega
  have h := hsum q.entries
  have hp : q.hasPosters.toNat ≤ 1 := Bool.toNat_le _
  unfold load enough
  omega

/-- **A run comes to rest**: its polls are enough, and no task is ready when they are done. -/
theorem Sound.ready_run (s : q.Sound) : q.run.ready = [] := ready_steps s q.load_le_enough

theorem run_eq_play (q : Queue α) : ∃ ts : List Task, q.run = q.play (ts.map .poll) :=
  steps_eq_play q.enough q

theorem Reachable.run (h : Reachable s q) : Reachable s q.run := by
  obtain ⟨ts, hts⟩ := q.run_eq_play
  rw [hts]
  exact h.play _

/-! ### At rest -/

/-- A poll of a blocked worker changes nothing. -/
lemma pollWorker_of_blocked (he : q.entries[i]? = some e) (b : q.Blocked e) :
    q.pollWorker i = q := by
  have hnot : ¬ e.signal = true := by
    rw [b.1]
    exact Bool.false_ne_true
  unfold pollWorker
  rw [he]
  dsimp only
  rcases b.2 with hs | ⟨c, k, hs, hk, ha⟩
  · rw [hs]
    cases q.limiter with
    | none => rfl
    | some l => exact if_neg hnot
  · rw [hs]
    show q.receive i e c = q
    unfold receive
    rw [hk]
    dsimp only
    rw [if_neg hnot, ha]

/-- A blocked worker waits for a permit and its request was not begun, or it waits for an answer and
its request is executing. -/
lemma Blocked.phase_eq (b : q.Blocked e) (live : e.Live) :
    e.stage = .inLine ∧ e.phase = .idle ∨ (∃ c, e.stage = .sending c) ∧ e.phase = .executing := by
  have hsig := b.1
  rcases b.2 with hs | ⟨c, k, hs, -, -⟩
  · rcases live.of_early (by rw [hs]; rfl) with ⟨-, is⟩ | is
    · exact .inl ⟨hs, is.phase⟩
    · cases hsig.symm.trans is.signal
  · obtain ⟨r, -, is | is⟩ := live.of_sending hs
    · exact .inr ⟨⟨c, hs⟩, is.phase⟩
    · cases hsig.symm.trans is.signal

section Rest

variable (sound : q.Sound) (awake : q.Awake) (quiet : q.ready = [])

include awake quiet in
lemma blocked_at_rest (he : q.entries[i]? = some e) (hs : e.stage ≠ .ended) : q.Blocked e := by
  refine (awake.attended i e he hs).resolve_left ?_
  rw [quiet]
  exact List.not_mem_nil

include awake quiet in
/-- At rest no poll of a worker would change anything. -/
theorem pollWorker_at_rest (i : Nat) : q.pollWorker i = q := by
  cases he : q.entries[i]? with
  | none => exact pollWorker_of_none he
  | some e =>
    by_cases hs : e.stage = .ended
    · exact pollWorker_of_ended he hs
    · exact pollWorker_of_blocked he (blocked_at_rest awake quiet he hs)

include sound awake quiet in
/-- At rest a request is finished exactly if its worker has ended. -/
theorem isTerminal_iff_at_rest (he : q.entries[i]? = some e) :
    e.phase.isTerminal = true ↔ e.stage = .ended := by
  constructor
  · intro hp
    by_contra hs
    have live := (sound.stories i e he).live hs
    rcases (blocked_at_rest awake quiet he hs).phase_eq live with ⟨-, h⟩ | ⟨-, h⟩
    · rw [h] at hp
      cases hp
    · rw [h] at hp
      cases hp
  · exact fun hs => ((sound.stories i e he).past hs).isTerminal

end Rest

end Courier.Queue
