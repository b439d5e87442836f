import Courier.Proofs.Queue.Concurrency
import Courier.Proofs.Queue.Rest

/-!
No permit is lost and no request is left behind.  When a queue has come to rest, as many calls are
under way as there are requests that are not finished, or as the cap allows.  A request that was not
begun then waits for nothing but a permit, and all permits are in the hands of workers that wait for
answers.
-/

namespace Courier.Queue

variable {α : Type} {q : Queue α} {s : Settings} {i c : Nat} {e : Entry α}

/-! ### Who is not finished -/

/-- The requests that are not finished. -/
def unfinished (q : Queue α) : Finset Nat :=
  (Finset.range q.entries.length).filter fun i => (q.phase? i).any (!·.isTerminal)

/-- The workers that wait for answers. -/
def awaiting (q : Queue α) : Finset Nat :=
  (Finset.range q.entries.length).filter fun i => (q.hands i).call.isSome

lemma mem_unfinished (he : q.entries[i]? = some e) :
    i ∈ q.unfinished ↔ e.phase.isTerminal = false := by
  unfold unfinished phase?
  rw [Finset.mem_filter, Finset.mem_range, he]
  simpa using fun _ => (List.getElem?_eq_some_iff.mp he).1

lemma mem_awaiting (he : q.entries[i]? = some e) :
    i ∈ q.awaiting ↔ ∃ c, e.stage = .sending c := by
  unfold awaiting
  rw [Finset.mem_filter, Finset.mem_range, hands_of_entry he]
  refine (and_iff_right (List.getElem?_eq_some_iff.mp he).1).trans ?_
  cases e.stage <;> simp [Stage.hand]

lemma Awaits.sender_eq (h : q.Awaits c i) : ((q.calls[c]?).map (·.sender)).getD 0 = i := by
  obtain ⟨k, hk, rfl, -⟩ := h
  rw [hk]
  rfl

/-- Calls that are under way and workers that wait for answers are paired. -/
theorem card_outstanding_eq (sound : q.Sound) : q.outstanding.card = q.awaiting.card := by
  have hcall : ∀ {c i}, q.Awaits c i → (q.hands i).call = some c := fun h => (sound.awaits _ _).mp h
  have mem : ∀ i, i ∈ q.awaiting ↔ ∃ c, q.Awaits c i := by
    intro i
    unfold awaiting
    rw [Finset.mem_filter, Finset.mem_range, Option.isSome_iff_exists]
    constructor
    · rintro ⟨-, c, hc⟩
      exact ⟨c, (sound.awaits c i).mpr hc⟩
    · rintro ⟨c, hc⟩
      have hi := hcall hc
      obtain ⟨k, hk, rfl, -⟩ := hc
      obtain ⟨e, he, -⟩ := sound.recorded.placed c k hk
      exact ⟨(List.getElem?_eq_some_iff.mp he).1, c, hi⟩
  refine Finset.card_nbij' (fun c => ((q.calls[c]?).map (·.sender)).getD 0)
    (fun i => (q.hands i).call.getD 0) ?_ ?_ ?_ ?_
  · intro c hc
    obtain ⟨i, hi⟩ := mem_outstanding.mp hc
    refine (mem _).mpr ⟨c, ?_⟩
    dsimp only
    rwa [hi.sender_eq]
  · intro i hi
    obtain ⟨c, hc⟩ := (mem i).mp hi
    refine mem_outstanding.mpr ⟨i, ?_⟩
    show q.Awaits ((q.hands i).call.getD 0) i
    rw [hcall hc]
    exact hc
  · intro c hc
    obtain ⟨i, hi⟩ := mem_outstanding.mp hc
    show (q.hands (((q.calls[c]?).map (·.sender)).getD 0)).call.getD 0 = c
    rw [hi.sender_eq, hcall hi]
    rfl
  · intro i hi
    obtain ⟨c, hc⟩ := (mem i).mp hi
    show ((q.calls[(q.hands i).call.getD 0]?).map (·.sender)).getD 0 = i
    rw [hcall hc]
    exact hc.sender_eq

/-! ### At rest -/

section Rest

variable (sound : q.Sound) (awake : q.Awake) (quiet : q.ready = [])
include sound awake quiet

/-- Who is not finished waits for an answer, or in line and was not begun. -/
lemma unfinished_cases (he : q.entries[i]? = some e) (hi : e.phase.isTerminal = false) :
    i ∈ q.awaiting ∧ e.phase = .executing ∨ e.stage = .inLine ∧ e.phase = .idle := by
  have hs : e.stage ≠ .ended := fun hs => by
    cases hi.symm.trans ((isTerminal_iff_at_rest sound awake quiet he).mpr hs)
  have live := (sound.stories i e he).live hs
  rcases (blocked_at_rest awake quiet he hs).phase_eq live with ⟨h, hp⟩ | ⟨h, hp⟩
  · exact .inr ⟨h, hp⟩
  · exact .inl ⟨(mem_awaiting he).mpr h, hp⟩

lemma awaiting_subset_unfinished : q.awaiting ⊆ q.unfinished := by
  intro i hi
  have hlt : i < q.entries.length := Finset.mem_range.mp (Finset.mem_filter.mp hi).1
  have he := List.getElem?_eq_getElem hlt
  obtain ⟨c, hc⟩ := (mem_awaiting he).mp hi
  rw [mem_unfinished he, ← Bool.not_eq_true, isTerminal_iff_at_rest sound awake quiet he, hc]
  nofun

omit sound in
/-- Permits are in the hands of those only who wait for answers. -/
lemma permitted_eq_awaiting : q.permitted = q.awaiting := by
  ext i
  by_cases hlt : i < q.entries.length
  · have he := List.getElem?_eq_getElem hlt
    rw [mem_permitted he, mem_awaiting he]
    by_cases hs : q.entries[i].stage = .ended
    · rw [hs]
      exact iff_of_false nofun nofun
    · rcases (blocked_at_rest awake quiet he hs).2 with h | ⟨c, k, h, -, -⟩
      · rw [h]
        exact iff_of_false nofun nofun
      · rw [h]
        exact iff_of_true rfl ⟨c, rfl⟩
  · unfold permitted awaiting
    rw [mem_holders, Finset.mem_filter, Finset.mem_range]
    exact iff_of_false (fun h => hlt h.1) fun h => hlt h.1

/-- Without a limiter all requests that are not finished wait for answers. -/
lemma unfinished_eq_awaiting (hl : ∀ (i : Nat) (e : Entry α), q.entries[i]? = some e →
    e.stage ≠ .inLine) :
    q.unfinished = q.awaiting := by
  refine Finset.Subset.antisymm (fun i hi => ?_) (awaiting_subset_unfinished sound awake quiet)
  have hlt : i < q.entries.length := Finset.mem_range.mp (Finset.mem_filter.mp hi).1
  have he := List.getElem?_eq_getElem hlt
  rcases unfinished_cases sound awake quiet he ((mem_unfinished he).mp hi) with h | ⟨h, -⟩
  · exact h.1
  · exact absurd h (hl i _ he)

/-- Where somebody waits in line all permits are in use for calls. -/
lemma card_outstanding_of_inLine {l : Limiter} (hl : q.limiter = some l)
    (he : q.entries[i]? = some e) (hs : e.stage = .inLine) :
    l.free = 0 ∧ q.outstanding.card = l.capacity := by
  have keeps := sound.permits l hl
  have hmem : i ∈ l.line := (keeps.line i).mpr (by rw [hands_of_entry he, hs]; rfl)
  have hfree : l.free = 0 := awake.tight l hl (List.ne_nil_of_mem hmem)
  have hbalance : l.free + q.permitted.card = l.capacity := keeps.balance
  rw [hfree, Nat.zero_add, permitted_eq_awaiting awake quiet,
    ← card_outstanding_eq sound] at hbalance
  exact ⟨hfree, hbalance⟩

/-- Under a cap the calls are as many as the requests that are not finished, or as the permits. -/
lemma card_outstanding_of_limiter {l : Limiter} (hl : q.limiter = some l) :
    q.outstanding.card = min l.capacity q.unfinished.card ∧
      l.free + q.outstanding.card = l.capacity := by
  have hbalance : l.free + q.permitted.card = l.capacity := (sound.permits l hl).balance
  rw [permitted_eq_awaiting awake quiet, ← card_outstanding_eq sound] at hbalance
  refine ⟨?_, hbalance⟩
  by_cases hline : ∃ (i : Nat) (e : Entry α), q.entries[i]? = some e ∧ e.stage = .inLine
  · obtain ⟨i, e, he, hs⟩ := hline
    have hle := Finset.card_le_card (awaiting_subset_unfinished sound awake quiet)
    have hall := (card_outstanding_of_inLine sound awake quiet hl he hs).2
    rw [← card_outstanding_eq sound] at hle
    omega
  · have hnone : ∀ (i : Nat) (e : Entry α), q.entries[i]? = some e → e.stage ≠ .inLine :=
      fun i e he hs => hline ⟨i, e, he, hs⟩
    rw [unfinished_eq_awaiting sound awake quiet hnone, ← card_outstanding_eq sound]
    omega

end Rest

/-- **No permit is lost and no request is left behind.**  A run comes to rest, and a queue at rest
stays as it is until something comes from outside.  Then without a cap a call is under way for
each request that is not finished.  Under a cap the calls are as many as the requests that are not
finished, or as the cap; all other permits are free.  A request that was not begun waits only while
the permits are all in use for the calls of others. -/
theorem throughput (h : Reachable s q) :
    (Reachable s q.run ∧ q.run.ready = []) ∧
    (q.ready = [] →
      (∀ i, q.pollWorker i = q) ∧
      (capOf s = none → q.outstanding.card = q.unfinished.card) ∧
      (∀ n, capOf s = some n → q.outstanding.card = min n q.unfinished.card ∧
        ∃ l, q.limiter = some l ∧ l.free + q.outstanding.card = n) ∧
      ∀ i, q.phase? i = some .idle →
        (∀ c, ¬ q.Awaits c i) ∧ ∃ n, capOf s = some n ∧ q.outstanding.card = n) := by
  have sound := h.sound
  have awake := h.awake
  have hmax := h.maxConcurrent_eq
  refine ⟨⟨h.run, sound.ready_run⟩, fun quiet => ⟨pollWorker_at_rest awake quiet, fun hcap => ?_,
    fun n hcap => ?_, fun i hi => ?_⟩⟩
  · rw [hcap] at hmax
    have hl : q.limiter = none := Option.map_eq_none_iff.mp hmax
    have hnone : ∀ (i : Nat) (e : Entry α), q.entries[i]? = some e → e.stage ≠ .inLine :=
      fun i e he hs => sound.limited i e he (by rw [hs]; rfl) hl
    rw [unfinished_eq_awaiting sound awake quiet hnone, card_outstanding_eq sound]
  · rw [hcap] at hmax
    obtain ⟨l, hl, rfl⟩ := Option.map_eq_some_iff.mp hmax
    obtain ⟨hmin, hfree⟩ := card_outstanding_of_limiter sound awake quiet hl
    exact ⟨hmin, l, hl, hfree⟩
  · obtain ⟨e, he, hp⟩ := Option.map_eq_some_iff.mp hi
    have hopen : e.phase.isTerminal = false := by
      rw [hp]
      rfl
    obtain ⟨hs, -⟩ := (unfinished_cases sound awake quiet he hopen).resolve_left
      fun h => by cases hp.symm.trans h.2
    refine ⟨fun c hc => ?_, ?_⟩
    · have hcall := (sound.awaits c i).mp hc
      rw [hands_of_entry he, hs] at hcall
      cases hcall
    · obtain ⟨l, hl⟩ := sound.exists_limiter he (by rw [hs]; rfl)
      refine ⟨l.capacity, ?_, (card_outstanding_of_inLine sound awake quiet hl he hs).2⟩
      rw [← hmax, maxConcurrent, hl]
      rfl

/-- Of two requests that were submitted where one permit is, one is sent and the other waits. -/
theorem throughput_of_two :
    (single.play [.submit parcel, .submit parcel]).run.outstanding.card =
      min 1 (single.play [.submit parcel, .submit parcel]).run.unfinished.card ∧
    (single.play [.submit parcel, .submit parcel]).run.unfinished.card = 2 := by
  have hrun := (throughput (reachable_single [.submit parcel, .submit parcel])).1
  obtain ⟨-, -, hcap, -⟩ := (throughput hrun.1).2 hrun.2
  exact ⟨(hcap 1 rfl).1, rfl⟩

end Courier.Queue
