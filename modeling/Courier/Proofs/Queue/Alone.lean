import Courier.Proofs.Queue.Admission
import Courier.Proofs.Queue.Isolation

/-!
A request that is alone in a queue whose callbacks run in a task.  When the queue is run its worker
begins, since a permit is free if there are permits; then the request has failed for want of a URL,
or its one call is under way.  When that is answered another run brings the request to its fate.  So
what is given to the transport is what the endpoint resolves to, once, or nothing.
-/

namespace Courier

variable {α : Type}

lemma Request.fate_ne_cancelled (r : Request α) (status : UInt16) (a : Answer) :
    r.fate status a ≠ .cancelled := by
  have hall : ∀ v : Verdict α, v ≠ .abandoned → v.outcome ≠ .cancelled := by
    intro v hv
    cases v with
    | completed | failed => nofun
    | abandoned => exact absurd rfl hv
  unfold fate
  split
  · nofun
  · split
    · nofun
    · exact hall _ (Review.verdict_runThrough _)

namespace Queue

variable {q : Queue α} {s : Settings} {i : Nat} {e : Entry α}

/-! ### Runs -/

lemma length_run (sound : q.Sound) : q.run.entries.length = q.entries.length := by
  have hall : ∀ (ts : List Task) (q : Queue α), q.Sound →
      (q.play (ts.map .poll)).entries.length = q.entries.length := by
    intro ts
    induction ts with
    | nil => exact fun _ _ => rfl
    | cons t ts ih =>
      intro q sound
      exact (ih _ (sound.apply (.poll t)).sound).trans (length_apply sound _ fun _ => nofun)
  obtain ⟨ts, hts⟩ := q.run_eq_play
  rw [hts]
  exact hall ts q sound

theorem Reachable.successStatus_eq (h : Reachable s q) : q.successStatus = s.successStatus := by
  induction h with
  | made hooks instant h =>
    obtain ⟨limiter, -, rfl⟩ := over_eq_some h
    rfl
  | step h m ih => exact ((h.sound.apply m).grown.status).trans ih

lemma Sound.run (sound : q.Sound) : q.Advances q.run := by
  obtain ⟨ts, hts⟩ := q.run_eq_play
  rw [hts]
  exact sound.play _

/-- A run begins with the task that has been ready for the longest time. -/
lemma run_of_cons {t : Task} {ts : List Task} (hr : q.ready = t :: ts) :
    q.run = (q.apply (.poll t)).steps (q.ready.length + 2 * q.entries.length) :=
  steps_of_cons hr _

/-- What a request has come to is not changed by polls. -/
lemma ended_steps (sound : q.Sound) (he : q.entries[i]? = some e) (hs : e.stage = .ended) (n : Nat) :
    ∃ e', (q.steps n).entries[i]? = some e' ∧ e'.stage = .ended ∧ e'.outcomes = e.outcomes := by
  obtain ⟨ts, hts⟩ := steps_eq_play n q
  rw [hts]
  exact (sound.play _).ended sound he hs

lemma outcome_of_outcomes {o : Outcome α} (he : q.entries[i]? = some e) (ho : e.outcomes = [o]) :
    q.outcome? i = some o := by
  unfold outcome?
  rw [he]
  show e.outcome = some o
  rw [e.outcome_eq_head?, ho]
  rfl

lemma outcome_of_live (sound : q.Sound) (he : q.entries[i]? = some e) (hs : e.stage ≠ .ended) :
    q.outcome? i = none := by
  unfold outcome?
  rw [he]
  show e.outcome = none
  rw [e.outcome_eq_head?, ((sound.stories i e he).live hs).path.2]
  rfl

/-! ### What is given to the transport -/

/-- Where the only request was not cancelled, what was given to the transport is what its endpoint
resolves to. -/
lemma requests_of_ended {o : Outcome α} (sound : q.Sound) (hlen : q.entries.length = 1)
    (he : q.entries[0]? = some e) (hs : e.stage = .ended) (ho : e.outcomes = [o])
    (hc : o ≠ .cancelled) :
    q.calls.map Call.request =
      (e.request.endpoint.bind Endpoint.toRequest).toOption.toList := by
  have hp : e.phase ≠ .cancelled := by
    obtain ⟨-, o', ho', hphase⟩ := ((sound.stories 0 e he).past hs).path
    obtain rfl : o = o' := List.singleton_inj.mp (ho.symm.trans ho')
    exact fun hp => hc (Outcome.eq_cancelled (hphase.trans hp))
  have hzero : ∀ (c : Nat) (k : Call), q.calls[c]? = some k → k.sender = 0 := by
    intro c k hk
    obtain ⟨e', he', -⟩ := sound.recorded.placed c k hk
    have hlt := (List.getElem?_eq_some_iff.mp he').1
    omega
  cases hx : e.request.endpoint.bind Endpoint.toRequest with
  | error fault =>
    have hnone : q.calls = [] := by
      refine List.eq_nil_iff_forall_not_mem.mpr fun k hk => ?_
      obtain ⟨c, hc⟩ := List.getElem?_of_mem hk
      obtain ⟨e', he', hmem⟩ := sound.recorded.placed c k hc
      rw [hzero c k hc, he] at he'
      cases he'
      cases hx.symm.trans ((sound.stories 0 e he).sends hmem)
    rw [hnone]
    rfl
  | ok r =>
    obtain ⟨_, -, own⟩ := sound.fated he hs hp
    obtain ⟨-, c, ⟨k, hk, rfl, -⟩, hcall⟩ := own r hx
    have hlt : c < q.calls.length := (List.getElem?_eq_some_iff.mp hk).1
    -- a call at any place is the one that was placed
    have honly : ∀ c' < q.calls.length, c' = c := fun c' hc' => by
      have hk' := List.getElem?_eq_getElem hc'
      exact (hcall c' _ hk').mp (hzero c' _ hk')
    have hlength : q.calls.length = 1 := by
      have h₁ := honly 0 (by omega)
      by_contra hne
      have h₂ := honly 1 (by omega)
      omega
    obtain ⟨k', hk'⟩ := List.length_eq_one_iff.mp hlength
    obtain rfl := honly 0 (by omega)
    rw [hk'] at hk ⊢
    cases hk
    rfl

/-! ### One request -/

/-- The answer to the call under way wakes the worker that waits for it. -/
lemma ready_answer {c : Nat} {k : Call} {b : Http.Request → Answer} (hk : q.calls[c]? = some k)
    (hu : k.used = false) (hw : k.awaited = true) (hr : q.ready = []) :
    (q.answer c b).2.ready = [.worker k.sender] := by
  unfold answer
  rw [hk]
  dsimp only
  rw [hu, hw]
  unfold wake modifyCall
  simp [hr]

lemma snapshot_spawnReader (q : Queue α) : q.spawnReader.snapshot = q.snapshot := by
  unfold spawnReader wake
  split <;> rfl

section Handed

variable {hooks : List Hook} {r : Request α} {sent : Http.Request} {fault : Fault}
  (hq : over? s hooks (fun _ _ => none) = some q) (hr : r.admits q.snapshot = true)
include hq hr

/-- The queue that a request was handed to. -/
lemma handed : (q.spawnReader.submit r).2 = q.spawnReader.enqueue r ∧
    Reachable s (q.spawnReader.submit r).2 := by
  have hkept : q.mailbox.reader = .kept := by
    obtain ⟨limiter, -, rfl⟩ := over_eq_some hq
    rfl
  have hspawn : q.apply .spawnReader = q.spawnReader := if_pos hkept
  refine ⟨by rw [submit_of_admitted (by rwa [snapshot_spawnReader])], ?_⟩
  rw [← hspawn]
  exact ((Reachable.made hooks _ hq).step .spawnReader).step (.submit r)

lemma entries_handed :
    (q.spawnReader.submit r).2.entries = [{ request := r, url := r.url?.getD "" }] := by
  rw [(handed hq hr).1]
  obtain ⟨limiter, -, rfl⟩ := over_eq_some hq
  rfl

/-- When the queue is run its reader finds nothing to do, and then the worker of the request is
polled. -/
lemma exists_begun : ∃ q₁ : Queue α,
    (q.spawnReader.submit r).2.run = (q₁.apply (.poll (.worker 0))).steps 3 ∧ Reachable s q₁ ∧
    q₁.ready = [.worker 0] ∧ q₁.entries = [{ request := r, url := r.url?.getD "" }] ∧
    q₁.calls = [] ∧ (∀ c r, q₁.instant c r = none) ∧
    ∀ l, q₁.limiter = some l → 0 < l.free := by
  obtain ⟨hsubmit, reachable⟩ := handed hq hr
  have room := room_of_over hq
  rw [hsubmit] at reachable ⊢
  refine ⟨(q.spawnReader.enqueue r).apply (.poll .reader), ?_, reachable.step _, ?_⟩
  · obtain ⟨limiter, -, rfl⟩ := over_eq_some hq
    rfl
  · obtain ⟨limiter, -, rfl⟩ := over_eq_some hq
    exact ⟨rfl, rfl, rfl, fun _ _ => rfl, room⟩

/-- A request that has no URL to be asked for has failed when the queue has come to rest. -/
lemma run_of_fault (hf : r.endpoint.bind Endpoint.toRequest = .error fault) (a : Answer) :
    ∃ e, (q.spawnReader.submit r).2.run.entries[0]? = some e ∧ e.stage = .ended ∧
      e.outcomes = [r.fate s.successStatus a] := by
  obtain ⟨q₁, hrun, reachable, -, hentries, -, -, room⟩ := exists_begun hq hr
  have he : q₁.entries[0]? = some { request := r, url := r.url?.getD "" } := by
    rw [hentries]
    rfl
  obtain ⟨e₁, he₁, hs₁, ho₁⟩ :=
    ends_of_fault reachable.sound he rfl ⟨rfl, rfl, rfl⟩ room rfl hf a
  rw [reachable.successStatus_eq] at ho₁
  obtain ⟨e₂, he₂, hs₂, ho₂⟩ := ended_steps (reachable.step (.poll (.worker 0))).sound he₁ hs₁ 3
  rw [hrun]
  exact ⟨e₂, he₂, hs₂, ho₂.trans ho₁⟩

/-- The one call of a request that can be sent is under way when the queue has come to rest. -/
lemma run_of_sent (hsent : r.endpoint.bind Endpoint.toRequest = .ok sent) :
    (∃ e, (q.spawnReader.submit r).2.run.entries[0]? = some e ∧ e.request = r ∧
      e.stage = .sending 0 ∧ e.Is .executing (Deed.sending 0 sent)) ∧
    (q.spawnReader.submit r).2.run.calls = [⟨sent, 0, true, none, false⟩] ∧
    (q.spawnReader.submit r).2.run.ready = [] := by
  obtain ⟨q₁, hrun, reachable, hready, hentries, hcalls, hinstant, room⟩ := exists_begun hq hr
  have he : q₁.entries[0]? = some { request := r, url := r.url?.getD "" } := by
    rw [hentries]
    rfl
  obtain ⟨hentry, hcalls₁, hready₁⟩ :=
    sends_of_fresh reachable.sound he rfl ⟨rfl, rfl, rfl⟩ room hsent (hinstant _ sent)
  rw [hcalls] at hentry hcalls₁
  rw [hready, List.erase_cons_head] at hready₁
  rw [hrun, steps_of_quiet hready₁]
  exact ⟨hentry, hcalls₁, hready₁⟩

/-- The answer to its call, if there is one, brings the request to its fate. -/
lemma fated_of_answer (a : Answer) (stays : r.cancelsItself = false) :
    ∃ e, ((q.spawnReader.submit r).2.run.answer 0 fun _ => a).2.run.entries[0]? = some e ∧
      e.stage = .ended ∧ e.outcomes = [r.fate s.successStatus a] := by
  obtain ⟨-, reachable⟩ := handed hq hr
  have x := reachable.sound.run
  have y := x.sound.answer 0 fun _ => a
  cases hx : r.endpoint.bind Endpoint.toRequest with
  | error fault =>
    obtain ⟨e, he, hs, ho⟩ := run_of_fault hq hr hx a
    obtain ⟨e', he', hs', ho'⟩ := (y.trans y.sound.run).ended x.sound he hs
    exact ⟨e', he', hs', ho'.trans ho⟩
  | ok sent =>
    obtain ⟨⟨e, he, rfl, hs, is⟩, hcalls, hready⟩ := run_of_sent hq hr hx
    have hk : (q.spawnReader.submit e.request).2.run.calls[0]? =
        some ⟨sent, 0, true, none, false⟩ := by
      rw [hcalls]
      rfl
    obtain ⟨e₁, he₁, hs₁, ho₁⟩ := fated_of_sending (a := a) x.sound he hs is hk (.inr stays)
    rw [reachable.run.successStatus_eq] at ho₁
    obtain ⟨e₂, he₂, hs₂, ho₂⟩ :=
      ended_steps (y.sound.apply (.poll (.worker 0))).sound he₁ hs₁ _
    rw [run_of_cons (ready_answer hk rfl rfl hready)]
    exact ⟨e₂, he₂, hs₂, ho₂.trans ho₁⟩

/-- **A request alone** comes to its fate, given the answer to its call, and what was given to the
transport then is what its endpoint resolves to. -/
theorem alone (a : Answer) (stays : r.cancelsItself = false) :
    ((q.spawnReader.submit r).2.run.answer 0 fun _ => a).2.run.outcome? 0 =
      some (r.fate s.successStatus a) ∧
    ((q.spawnReader.submit r).2.run.answer 0 fun _ => a).2.run.calls.map Call.request =
      (r.endpoint.bind Endpoint.toRequest).toOption.toList := by
  obtain ⟨-, reachable⟩ := handed hq hr
  have hentries := entries_handed hq hr
  have x := reachable.sound.run
  have y := x.sound.answer 0 fun _ => a
  have z := (x.trans y).trans y.sound.run
  obtain ⟨e, he, hs, ho⟩ := fated_of_answer hq hr a stays
  obtain ⟨e', he', hrequest, -⟩ := z.grown.entries 0 _ (by rw [hentries]; rfl)
  cases he.symm.trans he'
  obtain rfl : e.request = r := hrequest
  refine ⟨outcome_of_outcomes he ho, requests_of_ended z.sound ?_ he hs ho ?_⟩
  · rw [length_run y.sound]
    have hlen := length_apply x.sound (.answer 0 fun _ => a) fun _ => nofun
    rw [length_run reachable.sound, hentries] at hlen
    exact hlen
  · exact Request.fate_ne_cancelled _ _ _

end Handed

end Queue

end Courier
