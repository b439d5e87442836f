import Courier.Proofs.Queue.Cancellation

/-!
The cap on the requests at work.  A worker has a permit from before its request is begun until it
ends, so there are never more calls to wait for, nor more requests executing, than permits.  Only a
worker whose request was cancelled goes on without a permit, and it finds that the request cannot be
begun any more.
-/

namespace Courier.Queue

variable {α : Type} {q : Queue α} {s : Settings} {i c : Nat} {e : Entry α}

/-! ### Who is at work -/

/-- The calls whose answers workers wait for. -/
def outstanding (q : Queue α) : Finset Nat :=
  (Finset.range q.calls.length).filter fun c => (q.calls[c]?).any (·.awaited)

def permitted (q : Queue α) : Finset Nat := holders q.entries.length q.hands

def executing (q : Queue α) : Finset Nat :=
  (Finset.range q.entries.length).filter fun i => q.phase? i = some .executing

lemma mem_outstanding : c ∈ q.outstanding ↔ ∃ j, q.Awaits c j := by
  unfold outstanding Awaits
  rw [Finset.mem_filter, Finset.mem_range]
  constructor
  · rintro ⟨hc, hw⟩
    rw [List.getElem?_eq_getElem hc] at hw ⊢
    exact ⟨_, _, rfl, rfl, hw⟩
  · rintro ⟨j, k, hk, -, hw⟩
    refine ⟨(List.getElem?_eq_some_iff.mp hk).1, ?_⟩
    rw [hk]
    exact hw

lemma mem_permitted (he : q.entries[i]? = some e) :
    i ∈ q.permitted ↔ e.stage.hand.permit = true := by
  unfold permitted
  rw [mem_holders, hands_of_entry he]
  exact and_iff_right (List.getElem?_eq_some_iff.mp he).1

lemma mem_executing : i ∈ q.executing ↔ ∃ e, q.entries[i]? = some e ∧ e.phase = .executing := by
  unfold executing phase?
  rw [Finset.mem_filter, Finset.mem_range, Option.map_eq_some_iff]
  refine and_iff_right_of_imp ?_
  rintro ⟨e, he, -⟩
  exact (List.getElem?_eq_some_iff.mp he).1

/-! ### Permits bound the work -/

/-- Whoever waits for an answer has a permit, and nobody waits for two. -/
theorem card_outstanding_le (sound : q.Sound) : q.outstanding.card ≤ q.permitted.card := by
  refine Finset.card_le_card_of_injOn (fun c => ((q.calls[c]?).map (·.sender)).getD 0) ?_ ?_
  · intro c hc
    obtain ⟨j, k, hk, rfl, hw⟩ := mem_outstanding.mp hc
    have hcall := (sound.awaits c k.sender).mp ⟨k, hk, rfl, hw⟩
    obtain ⟨e, he, -⟩ := sound.recorded.placed c k hk
    rw [hands_of_entry he] at hcall
    show ((q.calls[c]?).map (·.sender)).getD 0 ∈ q.permitted
    rw [hk, Option.map_some, Option.getD_some, mem_permitted he]
    cases hs : e.stage <;> rw [hs] at hcall <;> first | rfl | cases hcall
  · intro c hc c' hc' heq
    obtain ⟨j, hj⟩ := mem_outstanding.mp hc
    obtain ⟨j', hj'⟩ := mem_outstanding.mp hc'
    have hsame : j = j' := by
      obtain ⟨k, hk, hs, -⟩ := hj
      obtain ⟨k', hk', hs', -⟩ := hj'
      simpa [hk, hk', hs, hs'] using heq
    have hcall := (sound.awaits c j).mp hj
    rw [hsame, (sound.awaits c' j').mp hj'] at hcall
    exact (Option.some.inj hcall).symm

/-- Whoever is executing has a permit. -/
theorem executing_subset (sound : q.Sound) : q.executing ⊆ q.permitted := by
  intro j hj
  obtain ⟨e, he, hp⟩ := mem_executing.mp hj
  rw [mem_permitted he]
  rcases sound.stories j e he with
    (⟨-, -, is⟩ | ⟨-, is⟩ | ⟨c, r, stage, -, -⟩ | ⟨c, r, stage, -, -⟩) | ⟨-, past⟩
  · cases hp.symm.trans is.phase
  · cases hp.symm.trans is.phase
  · rw [stage]
    rfl
  · rw [stage]
    rfl
  · have ht := past.isTerminal
    rw [hp] at ht
    cases ht

/-! ### The cap -/

theorem Reachable.maxConcurrent_eq (h : Reachable s q) : q.maxConcurrent = capOf s := by
  induction h with
  | made hooks instant h =>
    obtain ⟨limiter, hl, rfl⟩ := over_eq_some h
    cases limiter with
    | none =>
      unfold limiterOf? at hl
      cases hc : capOf s with
      | none => rfl
      | some n =>
        rw [hc] at hl
        cases hn : Limiter.ofCapacity? n <;> simp [hn] at hl
    | some l =>
      obtain ⟨n, hn, rfl⟩ := eq_of_limiterOf hl
      exact hn.symm
  | step h m ih => exact (h.sound.apply m).grown.cap.trans ih

/-! ### Going on without a permit -/

/-- A worker that goes on without a permit finds that its request cannot be begun, and ends. -/
lemma poll_without_permit (sound : q.Sound) (he : q.entries[i]? = some e)
    (hs : e.stage.isEarly = true) (hsig : e.signal = true) :
    (∃ q₁ : Queue α, q.apply (.poll (.worker i)) = q₁.start i e false ∧
      q₁.exchange i Phase.begin = (false, q₁)) ∧
    ∃ e', (q.apply (.poll (.worker i))).entries[i]? = some e' ∧ e'.stage = .ended ∧
      e'.deeds = [.moved .idle .cancelled, .cancelled, .delivered .cancelled] := by
  have hlive := Stage.ne_ended_of_isEarly hs
  have is := ((sound.stories i e he).live hlive).calledOff_of_signal hs hsig
  constructor
  · have x := advances_erase sound (.worker i)
    obtain ⟨q₁, p, heq⟩ := pollWorker_of_early x.sound he hs hsig
    have hbegin : Phase.begin e.phase = (false, e.phase) :=
      Phase.begin_of_ne (by rw [is.phase]; nofun)
    exact ⟨q₁, heq, exchange_of_refused p.here hbegin⟩
  · obtain ⟨e', he', hended, hd, -⟩ := poll_of_cancelled sound he is.phase hlive
    rw [Stage.call_hand_of_isEarly hs, is.deeds] at hd
    exact ⟨e', he', hended, hd⟩

/-- A worker whose request was not cancelled begins with a permit, or waits for one. -/
lemma poll_with_permit {l : Limiter} (hl : q.limiter = some l) (he : q.entries[i]? = some e)
    (hs : e.stage.isEarly = true) (hsig : e.signal = false) :
    (∃ q₁ : Queue α, q.apply (.poll (.worker i)) = q₁.start i e true) ∨
      ∃ e', (q.apply (.poll (.worker i))).entries[i]? = some e' ∧ e'.stage = .inLine ∧
        e'.deeds = e.deeds := by
  have hnot : ¬ e.signal = true := by
    rw [hsig]
    exact Bool.false_ne_true
  show (∃ q₁ : Queue α, { q with ready := q.ready.erase (.worker i) }.pollWorker i = _) ∨
    ∃ e', ({ q with ready := q.ready.erase (.worker i) }.pollWorker i).entries[i]? = _ ∧ _
  unfold pollWorker
  dsimp only
  rw [he, hl]
  dsimp only
  cases hstage : e.stage with
  | fresh =>
    dsimp only
    rw [if_neg hnot]
    cases ht : l.take? with
    | some l' => exact .inl ⟨_, rfl⟩
    | none => exact .inr ⟨_, getElem?_modify_self (by exact he), rfl, rfl⟩
  | inLine =>
    dsimp only
    rw [if_neg hnot]
    exact .inr ⟨e, he, hstage, rfl⟩
  | granted =>
    dsimp only
    rw [if_neg hnot]
    exact .inl ⟨_, rfl⟩
  | sending c => exact absurd hstage (Stage.ne_sending_of_isEarly hs c)
  | ended => exact absurd hstage (Stage.ne_ended_of_isEarly hs)

/-- **The cap on the requests at work.**  The calls to wait for are at most as many as the permits
that workers have, and these together with the free ones are as many as the settings say; no more
requests are executing.  A worker that has not begun begins with a permit or waits for one, unless
its request was cancelled: then it goes on without, cannot begin, and ends without having sent
anything. -/
theorem concurrency {n : UInt64} (hn : s.maxConcurrent = some n) (hpos : 0 < n)
    (h : Reachable s q) :
    q.outstanding.card ≤ q.permitted.card ∧ q.permitted.card ≤ n.toNat ∧
    (∃ l, q.limiter = some l ∧ l.free + q.permitted.card = n.toNat) ∧
    q.executing ⊆ q.permitted ∧ q.executing.card ≤ n.toNat ∧
    ∀ i e, q.entries[i]? = some e → e.stage.isEarly = true →
      (e.signal = true →
        (∃ q₁ : Queue α, q.apply (.poll (.worker i)) = q₁.start i e false ∧
          q₁.exchange i Phase.begin = (false, q₁)) ∧
        ∃ e', (q.apply (.poll (.worker i))).entries[i]? = some e' ∧ e'.stage = .ended ∧
          e'.deeds = [.moved .idle .cancelled, .cancelled, .delivered .cancelled]) ∧
      (e.signal = false →
        (∃ q₁ : Queue α, q.apply (.poll (.worker i)) = q₁.start i e true) ∨
          ∃ e', (q.apply (.poll (.worker i))).entries[i]? = some e' ∧ e'.stage = .inLine ∧
            e'.deeds = e.deeds) := by
  have hcap : capOf s = some n.toNat := by
    unfold capOf
    rw [hn]
    have hlt : 0 < n.toNat := UInt64.lt_iff_toNat_lt.mp hpos
    simp [hlt]
  have hmax := h.maxConcurrent_eq
  rw [hcap] at hmax
  obtain ⟨l, hl, hcapacity⟩ := Option.map_eq_some_iff.mp hmax
  have hbalance := (h.sound.permits l hl).balance
  rw [hcapacity] at hbalance
  have hpermitted : q.permitted.card ≤ n.toNat := hbalance ▸ Nat.le_add_left ..
  have hsubset := executing_subset h.sound
  exact ⟨card_outstanding_le h.sound, hpermitted, ⟨l, hl, hbalance⟩, hsubset,
    (Finset.card_le_card hsubset).trans hpermitted,
    fun i e he hs => ⟨poll_without_permit h.sound he hs, poll_with_permit hl he hs⟩⟩

/-- With one permit one request is executing at most, and one that was cancelled before it was
begun never is. -/
theorem concurrency_of_single :
    (single.play [.submit stray, .cancel 0]).executing.card ≤ 1 ∧
      ∃ e', ((single.play [.submit stray, .cancel 0]).apply (.poll (.worker 0))).entries[0]? =
        some e' ∧ e'.deeds = [.moved .idle .cancelled, .cancelled, .delivered .cancelled] := by
  have hfresh : ((single.play [.submit stray, .cancel 0]).entries[0]?).map
      (fun e => (e.stage, e.signal)) = some (.fresh, true) := rfl
  obtain ⟨e, he, hx⟩ := Option.map_eq_some_iff.mp hfresh
  obtain ⟨hs, hsig⟩ := Prod.mk.inj hx
  obtain ⟨-, -, -, -, hle, hpoll⟩ :=
    concurrency (n := 1) rfl (by decide) (reachable_single [.submit stray, .cancel 0])
  obtain ⟨-, e', he', -, hd⟩ := (hpoll 0 e he (by rw [hs]; rfl)).1 hsig
  exact ⟨hle, e', he', hd⟩

end Courier.Queue
