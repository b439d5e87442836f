import Courier.Proofs.Queue.Admission
import Courier.Proofs.Queue.Concurrency
import Courier.Proofs.Queue.Isolation
import Courier.Proofs.Settings.Text
import Courier.Service

/-!
What settings let a queue do.  Settings without a flaw have any number of requests at work but zero,
while a limiter holds a bounded number of permits: there is a queue for the settings exactly when
their number fits.  Such a queue lets so many workers go to work at once, no more, and no fewer.
-/

namespace Courier.Queue

variable {α : Type} {q : Queue α} {s : Settings} {i : Nat} {e : Entry α}

/-! ### Settings that a queue can be made of -/

/-- Without a flaw the cap is the number of the settings. -/
lemma capOf_of_valid (valid : s.validate = .ok ()) :
    capOf s = s.maxConcurrent.map UInt64.toNat := by
  have some_concurrency : s.maxConcurrent ≠ some 0 := by
    intro none_at_all
    unfold Settings.validate Settings.flaw? at valid
    by_cases no_time : s.timeoutMs = 0 <;> simp [no_time, none_at_all] at valid
  unfold capOf
  cases hn : s.maxConcurrent with
  | none => rfl
  | some n =>
    have pos : 0 < n.toNat := by
      refine Nat.pos_of_ne_zero fun zero => some_concurrency ?_
      rw [hn, UInt64.toNat_inj.mp (zero.trans UInt64.toNat_zero.symm)]
    simp [pos]

lemma forall_capOf (valid : s.validate = .ok ()) {P : Nat → Prop} :
    (∀ n ∈ capOf s, P n) ↔ ∀ n ∈ s.maxConcurrent, P n.toNat := by
  rw [capOf_of_valid valid]
  exact Option.forall_mem_map

lemma limiterOf_isSome_iff (cap : Option Nat) :
    (limiterOf? cap).isSome ↔ ∀ n ∈ cap, n ≤ Limiter.maxCapacity := by
  unfold limiterOf? Limiter.ofCapacity?
  cases cap with
  | none => simp
  | some n => by_cases fits : n ≤ Limiter.maxCapacity <;> simp [fits]

/-- There is a queue for settings whose cap fits. -/
lemma exists_over_iff (hooks : List Hook) (instant : Nat → Http.Request → Option Answer) :
    (∃ q : Queue α, over? s hooks instant = some q) ↔
      ∀ n ∈ capOf s, n ≤ Limiter.maxCapacity := by
  rw [← limiterOf_isSome_iff]
  unfold over?
  cases limiterOf? (capOf s) <;> simp

/-! ### Workers that begin -/

/-- How many permits are free, or that none is needed. -/
lemma free_add_permitted (h : Reachable s q) {n : Nat} (cap : capOf s = some n) :
    ∃ l, q.limiter = some l ∧ l.free + q.permitted.card = n := by
  have hmax := h.maxConcurrent_eq
  rw [cap] at hmax
  obtain ⟨l, hl, rfl⟩ := Option.map_eq_some_iff.mp hmax
  exact ⟨l, hl, (h.sound.permits l hl).balance⟩

lemma limiter_eq_none (h : Reachable s q) (cap : capOf s = none) : q.limiter = none := by
  have hmax := h.maxConcurrent_eq
  rw [cap] at hmax
  exact Option.map_eq_none_iff.mp hmax

/-- A permit is free as long as fewer workers have one than may. -/
lemma free_of_room (h : Reachable s q) (room : ∀ n ∈ capOf s, q.permitted.card < n) {l : Limiter}
    (hl : q.limiter = some l) : 0 < l.free := by
  cases cap : capOf s with
  | none => exact nomatch (limiter_eq_none h cap).symm.trans hl
  | some n =>
    obtain ⟨l', hl', balance⟩ := free_add_permitted h cap
    cases hl.symm.trans hl'
    have below := room n cap
    omega

/-- A worker that was not polled yet goes to work when it is polled, if a permit is left for it. -/
lemma starts_of_room (h : Reachable s q) (he : q.entries[i]? = some e) (hs : e.stage = .fresh)
    (hsig : e.signal = false) (room : ∀ n ∈ capOf s, q.permitted.card < n) :
    ∃ q₁ : Queue α, q.apply (.poll (.worker i)) = q₁.start i e (capOf s).isSome := by
  show ∃ q₁ : Queue α, { q with ready := q.ready.erase (.worker i) }.pollWorker i = _
  unfold pollWorker
  dsimp only
  rw [he]
  cases cap : capOf s with
  | none =>
    rw [limiter_eq_none h cap]
    dsimp only
    rw [hs]
    exact ⟨_, rfl⟩
  | some n =>
    obtain ⟨l, hl, -⟩ := free_add_permitted h cap
    obtain ⟨k, hk⟩ := Nat.exists_eq_succ_of_ne_zero (free_of_room h room hl).ne'
    have taken : l.take? = some { l with free := k } := by
      unfold Limiter.take?
      rw [hk]
    rw [hl]
    dsimp only
    rw [hs]
    dsimp only
    rw [hsig, taken]
    exact ⟨_, rfl⟩

/-- A worker that was not polled yet waits in line when it is polled, if no permit is left. -/
lemma waits_of_full (h : Reachable s q) (he : q.entries[i]? = some e) (hs : e.stage = .fresh)
    (hsig : e.signal = false) (full : q.permitted.card ∈ capOf s) :
    ∃ e', (q.apply (.poll (.worker i))).entries[i]? = some e' ∧ e'.stage = .inLine ∧
      e'.deeds = e.deeds := by
  obtain ⟨l, hl, balance⟩ := free_add_permitted h full
  have none_free : l.take? = none := by
    have zero : l.free = 0 := by omega
    unfold Limiter.take?
    rw [zero]
  show ∃ e', ({ q with ready := q.ready.erase (.worker i) }.pollWorker i).entries[i]? = _ ∧ _
  unfold pollWorker
  dsimp only
  rw [he, hl]
  dsimp only
  rw [hs]
  dsimp only
  rw [hsig, none_free]
  exact ⟨_, getElem?_modify_self he, rfl, rfl⟩

/-! ### Filling a queue -/

/-- A request that can be sent, of any type. -/
def probe (α : Type) : Request α :=
  { kind := "probe", endpoint := .ok { method := .get, url := "http://a/" },
    processor := fun _ => .panicked none }

/-- So many requests were submitted to the queue, and all of them are at work. -/
structure Filled (s : Settings) (q : Queue α) (k : Nat) : Prop where
  reachable : Reachable s q
  silent : ∀ c r, q.instant c r = none
  entries : q.entries.length = k
  calls : q.calls.length = k
  awaited : ∀ call ∈ q.calls, call.awaited = true

lemma Filled.card_outstanding {k : Nat} (filled : Filled s q k) : q.outstanding.card = k := by
  have all : q.outstanding = Finset.range q.calls.length := by
    unfold outstanding
    refine Finset.filter_true_of_mem fun c hc => ?_
    rw [List.getElem?_eq_getElem (Finset.mem_range.mp hc)]
    exact filled.awaited _ (List.getElem_mem _)
  rw [all, Finset.card_range, filled.calls]

lemma Filled.card_permitted_le {k : Nat} (filled : Filled s q k) : q.permitted.card ≤ k := by
  have subset : q.permitted ⊆ Finset.range q.entries.length := Finset.filter_subset ..
  simpa [filled.entries] using Finset.card_le_card subset

/-- One more request goes to work while the cap allows it. -/
lemma Filled.more {k : Nat} (filled : Filled s q k) (room : ∀ n ∈ capOf s, k < n) :
    ∃ q' : Queue α, Filled s q' (k + 1) := by
  -- the request is submitted, and its worker has the next turn
  let entry : Entry α := { request := probe α, url := (probe α).url?.getD "" }
  have at_hand : q.apply (.submit (probe α)) = q.enqueue (probe α) := by
    show (q.submit (probe α)).2 = _
    rw [submit_of_admitted rfl]
  have reachable := filled.reachable.step (.submit (probe α))
  have silent := instant_apply filled.reachable.sound (.submit (probe α))
  rw [at_hand] at reachable silent
  have alike : ((q.withEntry entry).log (admission (probe α))).Alike (q.enqueue (probe α)) :=
    alike_wake _ _
  have entries : (q.enqueue (probe α)).entries = q.entries ++ [entry] := alike.entries
  have calls : (q.enqueue (probe α)).calls = q.calls := alike.calls
  have he : (q.enqueue (probe α)).entries[k]? = some entry := by
    rw [entries, ← filled.entries]
    exact List.getElem?_concat_length ..
  have free : ∀ l, (q.enqueue (probe α)).limiter = some l → 0 < l.free := fun l hl =>
    free_of_room filled.reachable (fun n hn => filled.card_permitted_le.trans_lt (room n hn))
      (alike.limiter.symm.trans hl)
  have sends : entry.Sends ⟨.get, "http://a/", [], none⟩ := rfl
  obtain ⟨-, one_more, -⟩ := sends_of_fresh reachable.sound he rfl ⟨rfl, rfl, rfl⟩ free sends
    (by rw [silent]; exact filled.silent _ _)
  rw [calls] at one_more
  refine ⟨_, reachable.step (.poll (.worker k)), fun c r => ?_, ?_, ?_, ?_⟩
  · rw [instant_apply reachable.sound, silent]
    exact filled.silent c r
  · rw [length_apply reachable.sound _ (fun _ h => by cases h), entries, List.length_append,
      filled.entries]
    rfl
  · rw [one_more, List.length_append, filled.calls]
    rfl
  · rw [one_more, List.forall_mem_append]
    exact ⟨filled.awaited, by simp⟩

lemma exists_filled {hooks : List Hook} (hq : over? s hooks (fun _ _ => none) = some q) (k : Nat)
    (room : ∀ n ∈ capOf s, k ≤ n) : ∃ q' : Queue α, Filled s q' k := by
  induction k with
  | zero =>
    refine ⟨q, .made hooks _ hq, ?_, ?_, ?_, ?_⟩ <;> obtain ⟨limiter, -, rfl⟩ := over_eq_some hq
    · exact fun _ _ => rfl
    · rfl
    · rfl
    · exact fun _ => nofun
  | succ k ih =>
    obtain ⟨q', filled⟩ := ih fun n hn => Nat.le_of_succ_le (room n hn)
    exact filled.more room

/-! ### The cap of settings without a flaw -/

/-- There is a service without a queue where the cap of the settings does not fit. -/
lemma service_without_queue_iff (valid : s.validate = .ok ()) {c : Http.Client}
    (client : Http.Client.ofSettings s = .ok c) :
    (Service.ofSettings s : Except Fault (Option (Service α))) = .ok none ↔
      ∃ n ∈ s.maxConcurrent, Limiter.maxCapacity < n.toNat := by
  have fits := exists_over_iff (α := α) (s := s) [] fun _ _ => none
  rw [forall_capOf valid] at fits
  unfold Service.ofSettings Service.build Queue.ofSettings?
  rw [valid, client]
  cases hq : (over? s [] fun _ _ => none : Option (Queue α)) with
  | none =>
    have beyond : ¬ ∀ n ∈ s.maxConcurrent, n.toNat ≤ Limiter.maxCapacity := by
      rw [← fits, hq]
      rintro ⟨q, ⟨⟩⟩
    refine iff_of_true rfl ?_
    simpa using beyond
  | some q =>
    refine iff_of_false nofun ?_
    rintro ⟨n, hn, beyond⟩
    exact Nat.not_lt_of_le (fits.mp ⟨q, hq⟩ n hn) beyond

/-- **What settings without a flaw let a queue do.**  There is a queue for them exactly when the
number of requests that they let be at work fits into a limiter.  Then no more workers than that
have a permit, and no more calls are under way; a worker that was not polled yet goes to work when it
is, as long as fewer have one, and else waits in line; and as many calls as the settings let be under
way can be so at once, any number of them without a cap. -/
theorem capacity (valid : s.validate = .ok ()) :
    (∀ hooks instant, (∃ q : Queue α, over? s hooks instant = some q) ↔
      ∀ n ∈ s.maxConcurrent, n.toNat ≤ Limiter.maxCapacity) ∧
    (∀ c, Http.Client.ofSettings s = .ok c →
      ((Service.ofSettings s : Except Fault (Option (Service α))) = .ok none ↔
        ∃ n ∈ s.maxConcurrent, Limiter.maxCapacity < n.toNat)) ∧
    (∀ q : Queue α, Reachable s q →
      q.maxConcurrent = s.maxConcurrent.map UInt64.toNat ∧
      q.outstanding.card ≤ q.permitted.card ∧
      (∀ n ∈ s.maxConcurrent, q.permitted.card ≤ n.toNat) ∧
      ∀ i e, q.entries[i]? = some e → e.stage = .fresh → e.signal = false →
        ((∀ n ∈ s.maxConcurrent, q.permitted.card < n.toNat) →
          ∃ q₁ : Queue α, q.apply (.poll (.worker i)) = q₁.start i e s.maxConcurrent.isSome) ∧
        (∀ n ∈ s.maxConcurrent, q.permitted.card = n.toNat →
          ∃ e', (q.apply (.poll (.worker i))).entries[i]? = some e' ∧ e'.stage = .inLine ∧
            e'.deeds = e.deeds)) ∧
    ∀ k, (∀ n ∈ s.maxConcurrent, k ≤ n.toNat ∧ n.toNat ≤ Limiter.maxCapacity) →
      ∃ q : Queue α, Reachable s q ∧ q.outstanding.card = k := by
  refine ⟨fun hooks instant => ?_, fun c client => service_without_queue_iff valid client,
    fun q h => ?_, fun k room => ?_⟩
  · rw [exists_over_iff, forall_capOf valid]
  · have caps := capOf_of_valid valid
    refine ⟨h.maxConcurrent_eq.trans caps, card_outstanding_le h.sound, ?_,
      fun i e he hs hsig => ⟨fun room => ?_, fun n hn full => ?_⟩⟩
    · rw [← forall_capOf valid]
      intro n cap
      obtain ⟨l, -, balance⟩ := free_add_permitted h cap
      exact balance ▸ Nat.le_add_left ..
    · rw [← forall_capOf valid] at room
      have started := starts_of_room h he hs hsig room
      rwa [caps, Option.isSome_map] at started
    · refine waits_of_full h he hs hsig ?_
      rw [caps, full]
      exact Option.mem_map_of_mem _ hn
  · obtain ⟨q, hq⟩ := (exists_over_iff (α := α) [] fun _ _ => none).mpr
      ((forall_capOf valid).mpr fun n hn => (room n hn).2)
    obtain ⟨q', filled⟩ := exists_filled hq k ((forall_capOf valid).mpr fun n hn => (room n hn).1)
    exact ⟨q', filled.reachable, filled.card_outstanding⟩

/-- With a cap of two, two calls can be under way at once. -/
theorem capacity_of_two : ∃ q : Queue Nat, Reachable { maxConcurrent := some 2 } q ∧
    q.outstanding.card = 2 ∧ q.permitted.card ≤ 2 := by
  obtain ⟨-, -, bounded, filled⟩ := capacity (α := Nat) (s := { maxConcurrent := some 2 }) rfl
  obtain ⟨q, h, under_way⟩ := filled 2 fun n hn => by
    obtain rfl : 2 = n := by simpa using hn
    decide
  obtain ⟨-, -, permits, -⟩ := bounded q h
  exact ⟨q, h, under_way, permits 2 rfl⟩

/-- Settings without a flaw that are read from a text, whose cap is one more than a limiter holds. -/
def crowd : Settings := { maxConcurrent := some 2305843009213693952 }

/-- Not all settings without a flaw have a queue. -/
theorem no_queue_for_crowd :
    Settings.ofText (Text.Utf8.ofString crowd.pretty) = .ok crowd ∧
    crowd.validate = .ok () ∧
    (∀ hooks instant, (over? crowd hooks instant : Option (Queue Nat)) = none) ∧
    (Service.ofSettings crowd : Except Fault (Option (Service Nat))) = .ok none :=
  ⟨Settings.ofText_pretty crowd, rfl, fun _ _ => rfl, rfl⟩

end Courier.Queue
