import Courier.Proofs.Queue.Callbacks
import Courier.Proofs.Queue.Replies

/-!
Isolation.  What a request that nobody cancels comes to is its own fate (`Request.fate`): it depends
on the request, on the status that counts as success, and on the answer to its own call.  Whatever
else is done in a session, with other requests, with permits, hooks, callbacks and handles, has no
part in it.  So it is what the request would come to alone, in a queue without a cap.
-/

namespace Courier

variable {α : Type}

/-! ### The fate of a request -/

/-- What a verdict makes of a request that nobody cancels. -/
def Verdict.outcome : Verdict α → Outcome α
  | completed v => .completed v
  | failed f => .failed f
  | abandoned => .cancelled

namespace Request

/-- **The fate of a request** that nobody cancels, given the answer to its call.  It fails if it has
no URL that can be asked for, and if there is no response.  A response is reviewed, and the review is
never given up. -/
def fate (r : Request α) (status : UInt16) (a : Answer) : Outcome α :=
  match r.endpoint.bind Endpoint.toRequest with
  | .error fault => .failed (.transport ⟨r.url?.getD "", fault.message⟩)
  | .ok sent =>
    match a with
    | .error e => .failed (.transport e)
    | .ok response =>
      ((Review.ofResponse sent.url status r.processor (some response)).run
        fun _ => false).verdict.outcome

variable {r r' : Request α} {status : UInt16} {a : Answer} {sent : Http.Request} {fault : Fault}

lemma fate_of_fault (h : r.endpoint.bind Endpoint.toRequest = .error fault) :
    r.fate status a = .failed (.transport ⟨r.url?.getD "", fault.message⟩) := by
  unfold fate
  rw [h]

lemma fate_of_sent (h : r.endpoint.bind Endpoint.toRequest = .ok sent) :
    r.fate status a = (r.judged status sent.url a).1.outcome := by
  unfold fate
  rw [h]
  cases a <;> rfl

/-- The fate of a request depends on its endpoint and its processor. -/
lemma fate_congr (he : r'.endpoint = r.endpoint) (hp : r'.processor = r.processor) :
    r'.fate status a = r.fate status a := by
  unfold fate url?
  rw [he, hp]

end Request

namespace Entry

open Deed

variable {e : Entry α} {hooks : List Hook} {status : UInt16} {i c : Nat} {r : Http.Request}
  {a : Answer}

/-- A request that was not cancelled has come to its fate. -/
lemma Over.fated (past : e.Over hooks status i) (hp : e.phase ≠ .cancelled) :
    (∃ fault, e.request.endpoint.bind Endpoint.toRequest = .error fault ∧
      ∀ a, e.outcomes = [e.request.fate status a]) ∨
    ∃ c r a n, e.Sends r ∧ exchanged c r a n <+: e.deeds ∧
      (e.request.judged status r.url a).2 = n ∧ (n = 0 ∨ e.request.cancelsItself = false) ∧
      e.outcomes = [e.request.fate status a] := by
  have hout : ∀ o, delivered o ∈ e.deeds → e.outcomes = [o] := fun _ => past.outcomes_of_mem
  cases past with
  | calledOff is => exact absurd is.phase hp
  | left c r sends is => exact absurd is.phase hp
  | withdrawn c r a sends judged cancels is => exact absurd is.phase hp
  | unsent fault accepted fails is =>
    refine .inl ⟨fault, fails, fun a => ?_⟩
    rw [Request.fate_of_fault fails]
    refine hout _ ?_
    rw [is.deeds]
    simp [failing]
  | completed c r a v n accepted sends judged stays is =>
    refine .inr ⟨c, r, a, n, sends, is.deeds ▸ List.prefix_append .., by rw [judged], stays, ?_⟩
    rw [Request.fate_of_sent sends, judged]
    refine hout (.completed v) ?_
    rw [is.deeds]
    simp [completing]
  | failed c r a f n accepted sends judged stays is =>
    refine .inr ⟨c, r, a, n, sends, is.deeds ▸ List.prefix_append .., by rw [judged], stays, ?_⟩
    rw [Request.fate_of_sent sends, judged]
    refine hout (.failed f) ?_
    rw [is.deeds]
    simp [failing]

/-- A request whose answer was taken, and that its own processor did not cancel, has come to its
fate. -/
lemma Over.fated_of_answered (past : e.Over hooks status i)
    (hd : Deed.sending c r ++ [answered c a] <+: e.deeds)
    (stays : (e.request.judged status r.url a).2 = 0 ∨ e.request.cancelsItself = false) :
    e.outcomes = [e.request.fate status a] := by
  obtain ⟨ds, hds⟩ := hd
  have hp : e.phase ≠ .cancelled := by
    intro hp
    cases past with
    | calledOff is => simp [is.deeds, Deed.sending, withdrawal] at hds
    | left c' r' _ is => simp [is.deeds, Deed.sending, withdrawal] at hds
    | withdrawn c' r' a' _ judged cancels is =>
      simp only [is.deeds, exchanged, Deed.sending, List.cons_append, List.nil_append,
        List.cons.injEq, sent.injEq, answered.injEq] at hds
      obtain ⟨-, ⟨-, rfl⟩, ⟨-, rfl⟩, -⟩ := hds
      rw [judged, cancels] at stays
      simp at stays
    | unsent _ _ _ is => cases hp.symm.trans is.phase
    | completed _ _ _ _ _ _ _ _ _ is => cases hp.symm.trans is.phase
    | failed _ _ _ _ _ _ _ _ _ is => cases hp.symm.trans is.phase
  rcases past.fated hp with ⟨fault, -, hout⟩ | ⟨c', r', a', n, -, ⟨ds', hds'⟩, -, -, hout⟩
  · exact hout a
  · rw [← hds'] at hds
    simp only [exchanged, Deed.sending, List.cons_append, List.nil_append, List.cons.injEq,
      answered.injEq] at hds
    obtain ⟨-, -, ⟨-, rfl⟩, -⟩ := hds
    exact hout

end Entry

namespace Queue

variable {q q₀ : Queue α} {s : Settings} {i c : Nat} {e : Entry α} {h : Hand}

/-! ### Alone -/

/-- A worker that ends leaves its entry as it was, whoever gets the permit that it gives back. -/
lemma Lined.getElem?_retire (lined : q.Lined i) (he : q.entries[i]? = some e) (permit : Bool) :
    (q.retire i permit).entries[i]? = some { e with stage := .ended } := by
  have lined₁ : (q.setStage i .ended).Lined i :=
    lined.of_others rfl fun _ hj => getElem?_modify_of_ne hj
  obtain ⟨-, -, hentry, -⟩ := lined₁.releaseIf permit
  unfold Queue.retire
  rw [(alike_noticePosters _).entries]
  exact hentry.trans (getElem?_modify_self he)

/-- A request that has no URL to be asked for fails as soon as it is begun. -/
lemma Polling.start_of_fault {fault : Fault} (p : q₀.Polling q i e h) (hn : h.inLine = false)
    (is : e.Is .idle []) (hu : e.url = e.request.url?.getD "")
    (hf : e.request.endpoint.bind Endpoint.toRequest = .error fault) (permit : Bool)
    (status : UInt16) (a : Answer) :
    ∃ e', (q.start i e permit).entries[i]? = some e' ∧ e'.stage = .ended ∧
      e'.outcomes = [e.request.fate status a] := by
  have htook : Phase.begin e.phase = (true, .executing) := by
    rw [is.phase]
    rfl
  unfold Queue.start
  rw [exchange_of_took p.here htook]
  dsimp only
  rw [hf]
  obtain ⟨accepted, p₁⟩ := ((p.move .executing).log
    (.error s!"잘못된 URL로 요청 시도: {e.url}: {fault.message}")).fail rfl
      (rfl : e.request = _) (.transport ⟨e.url, fault.message⟩)
  refine ⟨_, (p₁.lined hn).getElem?_retire p₁.here permit, rfl, ?_⟩
  rw [Request.fate_of_fault hf, ← hu]
  show (e.deeds ++ [Deed.moved e.phase .executing] ++ Deed.failing _ _ _ _ _).filterMap _ = _
  rw [is.deeds, List.filterMap_append, Deed.filterMap_failing (fun _ => rfl) rfl]
  rfl

/-- A request is given to the transport as soon as it is begun. -/
lemma Polling.start_of_sends {r : Http.Request} (p : q₀.Polling q i e h) (is : e.Is .idle [])
    (sends : e.Sends r) (hi : q.instant q.calls.length r = none) (permit : Bool) :
    (∃ e', (q.start i e permit).entries[i]? = some e' ∧ e'.request = e.request ∧
      e'.stage = .sending q.calls.length ∧ e'.Is .executing (Deed.sending q.calls.length r)) ∧
    (q.start i e permit).calls = q.calls ++ [⟨r, i, true, none, false⟩] ∧
    (q.start i e permit).ready = q.ready := by
  have htook : Phase.begin e.phase = (true, .executing) := by
    rw [is.phase]
    rfl
  unfold Queue.start
  rw [exchange_of_took p.here htook]
  dsimp only
  rw [show e.request.endpoint.bind Endpoint.toRequest = .ok r from sends]
  dsimp only
  unfold Queue.send Queue.dispatch
  dsimp only
  split
  · rename_i heq
    cases hi.symm.trans heq
  · have here := getElem?_modify_self (f := fun e => { e with phase := .executing }) p.here
    have here₁ := getElem?_modify_self (q := q.setPhase i .executing)
      (f := fun e₁ => { e₁ with deeds := e₁.deeds ++ [.moved e.phase .executing] }) here
    refine ⟨⟨_, getElem?_modify_self (getElem?_modify_self (getElem?_modify_self here₁)), rfl, rfl,
      rfl, is.signal, ?_⟩, rfl, ?_⟩
    · show e.deeds ++ [.moved e.phase .executing] ++ [.sent q.calls.length r] = _
      rw [is.deeds, is.phase]
      rfl
    · simp only [Queue.setStage, Queue.place, Queue.emit, Queue.note, Queue.addCall, Queue.log,
        Queue.setPhase, Queue.modify]

/-- A worker that finds the answer to its call ends. -/
lemma receive_of_answer {r : Http.Request} {k : Call} {a : Answer} (s : q.Sound)
    (he : q.entries[i]? = some e) (hs : e.stage = .sending c)
    (is : e.Is .executing (Deed.sending c r)) (hk : q.calls[c]? = some k) (ha : k.answer = some a)
    (stays : (e.request.judged q.successStatus r.url a).2 = 0 ∨ e.request.cancelsItself = false) :
    ∃ e', (q.receive i e c).entries[i]? = some e' ∧ e'.stage = .ended ∧
      e'.outcomes = [e.request.fate q.successStatus a] := by
  have hmem : .sent c r ∈ e.deeds := by
    rw [is.deeds]
    simp [Deed.sending]
  have sends := (s.stories i e he).sends hmem
  obtain ⟨k', hk', hi, rfl⟩ := s.recorded.witnessed i e he _ hmem
  cases hk.symm.trans hk'
  have hw := witnessed_unawait hk hi ha
  have p := (receiving s he hs).unawait rfl
  obtain ⟨e₁, past, p₁⟩ := p.answered is sends (rfl : e.request = e.request) hw
  obtain ⟨e₂, he₂, hd⟩ := (p.stirs_answered is.phase hw e k.request.url).goesOn _
    (p.note _ hw rfl).here
  cases p₁.here.symm.trans he₂
  obtain ⟨e₃, he₃, hreq, -⟩ := p₁.grown.entries i e he
  cases p₁.here.symm.trans he₃
  unfold Queue.receive
  rw [hk]
  dsimp only
  rw [if_neg (by rw [is.signal]; exact Bool.false_ne_true), ha]
  refine ⟨_, (p₁.lined rfl).getElem?_retire p₁.here _, rfl, ?_⟩
  have hd : Deed.sending c k.request ++ [.answered c a] <+: e₁.deeds := is.deeds ▸ hd
  rw [← hreq] at stays ⊢
  exact past.fated_of_answered hd stays

/-- The answer to a call is handed in, and the worker that waits for it ends. -/
lemma fated_of_sending {r : Http.Request} {a : Answer} (sound : q.Sound)
    (he : q.entries[i]? = some e) (hs : e.stage = .sending c)
    (is : e.Is .executing (Deed.sending c r))
    (hk : q.calls[c]? = some ⟨r, i, true, none, false⟩)
    (stays : (e.request.judged q.successStatus r.url a).2 = 0 ∨ e.request.cancelsItself = false) :
    ∃ e', (q.play [.answer c fun _ => a, .poll (.worker i)]).entries[i]? = some e' ∧
      e'.stage = .ended ∧ e'.outcomes = [e.request.fate q.successStatus a] := by
  have x := sound.answer c fun _ => a
  have hanswer : (q.answer c fun _ => a).2 = (q.modifyCall c fun k =>
      { k with used := true, answer := some a }).wake (.worker i) := by
    unfold Queue.answer
    rw [hk]
    rfl
  have alike := alike_wake (q.modifyCall c fun k => { k with used := true, answer := some a })
    (.worker i)
  rw [← hanswer] at alike
  have he₁ : (q.answer c fun _ => a).2.entries[i]? = some e := alike.entries ▸ he
  have hk₁ : (q.answer c fun _ => a).2.calls[c]? = some ⟨r, i, true, some a, true⟩ := by
    rw [alike.calls]
    exact getElem?_modifyCall_self hk
  show ∃ e', ((q.answer c fun _ => a).2.apply (.poll (.worker i))).entries[i]? = some e' ∧ _
  rw [← x.grown.status] at stays ⊢
  generalize (q.answer c fun _ => a).2 = q₁ at x he₁ hk₁ stays ⊢
  have hpoll : q₁.apply (.poll (.worker i)) =
      Queue.receive { q₁ with ready := q₁.ready.erase (.worker i) } i e c :=
    pollWorker_of_sending (q := { q₁ with ready := q₁.ready.erase (.worker i) }) he₁ hs
  rw [hpoll]
  exact receive_of_answer (advances_erase x.sound (.worker i)).sound he₁ hs is hk₁ rfl stays

section Fresh

variable (sound : q.Sound) (he : q.entries[i]? = some e) (hs : e.stage = .fresh)
  (is : e.Is .idle []) (room : ∀ l, q.limiter = some l → 0 < l.free)
include sound he hs is room

/-- The worker of a request that was not cancelled begins when it is polled, if a permit is free or
none is needed. -/
lemma begins_of_fresh : ∃ (limiter : Option Limiter) (h : Hand),
    q.apply (.poll (.worker i)) =
      Queue.start { q with ready := q.ready.erase (.worker i), limiter } i e h.permit ∧
    Polling { q with ready := q.ready.erase (.worker i) }
      { q with ready := q.ready.erase (.worker i), limiter } i e h ∧ h.inLine = false := by
  have p := (advances_erase sound (.worker i)).sound.polling he (hs ▸ nofun)
  rw [hs] at p
  have hpoll : q.apply (.poll (.worker i)) =
      Queue.pollWorker { q with ready := q.ready.erase (.worker i) } i := rfl
  rw [hpoll]
  unfold pollWorker
  dsimp only
  rw [he]
  cases hl : q.limiter with
  | none =>
    dsimp only
    rw [hs]
    refine ⟨none, Stage.fresh.hand, rfl, ?_, rfl⟩
    rw [← hl]
    exact p
  | some l =>
    obtain ⟨n, hn⟩ := Nat.exists_eq_succ_of_ne_zero (Nat.ne_of_gt (room l hl))
    have ht : l.take? = some { l with free := n } := by
      unfold Limiter.take?
      rw [hn]
    dsimp only
    rw [hs]
    dsimp only
    rw [if_neg (by rw [is.signal]; exact Bool.false_ne_true), ht]
    refine ⟨some { l with free := n }, { Stage.fresh.hand with permit := true }, rfl, ?_, rfl⟩
    rw [← hl]
    exact p.take hl ht rfl rfl

/-- A request that has no URL to be asked for fails when its worker is polled. -/
lemma ends_of_fault {fault : Fault} (hu : e.url = e.request.url?.getD "")
    (hf : e.request.endpoint.bind Endpoint.toRequest = .error fault) (a : Answer) :
    ∃ e', (q.apply (.poll (.worker i))).entries[i]? = some e' ∧ e'.stage = .ended ∧
      e'.outcomes = [e.request.fate q.successStatus a] := by
  obtain ⟨limiter, h, heq, p, hn⟩ := begins_of_fresh sound he hs is room
  rw [heq]
  exact p.start_of_fault hn is hu hf _ _ a

/-- A request is given to the transport when its worker is polled. -/
lemma sends_of_fresh {r : Http.Request} (sends : e.Sends r)
    (hi : q.instant q.calls.length r = none) :
    (∃ e', (q.apply (.poll (.worker i))).entries[i]? = some e' ∧ e'.request = e.request ∧
      e'.stage = .sending q.calls.length ∧ e'.Is .executing (Deed.sending q.calls.length r)) ∧
    (q.apply (.poll (.worker i))).calls = q.calls ++ [⟨r, i, true, none, false⟩] ∧
    (q.apply (.poll (.worker i))).ready = q.ready.erase (.worker i) := by
  obtain ⟨limiter, h, heq, p, -⟩ := begins_of_fresh sound he hs is room
  rw [heq]
  exact p.start_of_sends is sends hi _

/-- A request that nobody cancels is begun, and answered if it could be sent. -/
lemma fated_of_fresh {a : Answer} (hu : e.url = e.request.url?.getD "")
    (hi : ∀ r, q.instant q.calls.length r = none)
    (stays : ∀ r, e.Sends r →
      (e.request.judged q.successStatus r.url a).2 = 0 ∨ e.request.cancelsItself = false) :
    ∃ e', (q.play [.poll (.worker i), .answer q.calls.length fun _ => a,
      .poll (.worker i)]).entries[i]? = some e' ∧
      e'.stage = .ended ∧ e'.outcomes = [e.request.fate q.successStatus a] := by
  have x := sound.apply (.poll (.worker i))
  show ∃ e', ((q.apply (.poll (.worker i))).play [.answer q.calls.length fun _ => a,
    .poll (.worker i)]).entries[i]? = some e' ∧ _
  cases hreq : e.request.endpoint.bind Endpoint.toRequest with
  | error fault =>
    obtain ⟨e₁, he₁, hs₁, ho₁⟩ := ends_of_fault sound he hs is room hu hreq a
    obtain ⟨e₂, he₂, hs₂, ho₂⟩ := (x.sound.play [.answer q.calls.length fun _ => a,
      .poll (.worker i)]).ended x.sound he₁ hs₁
    exact ⟨e₂, he₂, hs₂, ho₂.trans ho₁⟩
  | ok r =>
    obtain ⟨⟨e₁, he₁, hreq₁, hs₁, is₁⟩, hcalls, -⟩ :=
      sends_of_fresh sound he hs is room hreq (hi r)
    have hk : (q.apply (.poll (.worker i))).calls[q.calls.length]? =
        some ⟨r, i, true, none, false⟩ := by
      rw [hcalls]
      exact List.getElem?_concat_length ..
    have hstays := stays r hreq
    rw [← hreq₁, ← x.grown.status] at hstays ⊢
    exact fated_of_sending x.sound he₁ hs₁ is₁ hk hstays

end Fresh

/-- What happens to a request that is alone: it is submitted, worked on, and answered. -/
def course (r : Request α) (a : Answer) : List (Move α) :=
  [.submit r, .poll (.worker 0), .answer 0 fun _ => a, .poll (.worker 0)]

/-- A permit is free in a queue that was just made, if there are permits. -/
lemma room_of_over {hooks : List Hook} {instant : Nat → Http.Request → Option Answer}
    (hq : over? s hooks instant = some q) : ∀ l, q.limiter = some l → 0 < l.free := by
  obtain ⟨limiter, hlimiter, rfl⟩ := over_eq_some hq
  rintro l rfl
  obtain ⟨n, hn, rfl⟩ := eq_of_limiterOf hlimiter
  exact of_decide_eq_true (Option.mem_filter_iff.mp hn).2

/-- A request that is alone in a queue comes to its fate. -/
theorem fated_of_alone {hooks : List Hook} {r : Request α} {a : Answer}
    (hq : over? s hooks (fun _ _ => none) = some q) (hr : r.admits q.snapshot = true)
    (stays : ∀ sent, r.endpoint.bind Endpoint.toRequest = .ok sent →
      (r.judged s.successStatus sent.url a).2 = 0 ∨ r.cancelsItself = false) :
    ∃ e, (q.play (course r a)).entries[0]? = some e ∧ e.stage = .ended ∧
      e.outcomes = [r.fate s.successStatus a] := by
  have reachable : Reachable s q := .made hooks _ hq
  have room := room_of_over hq
  obtain ⟨limiter, -, rfl⟩ := over_eq_some hq
  have submitted := (reachable.step (.submit r)).sound
  show ∃ e, ((Queue.submit _ r).2.play _).entries[0]? = some e ∧ _
  change (Queue.submit _ r).2.Sound at submitted
  rw [submit_of_admitted hr] at submitted ⊢
  exact fated_of_fresh submitted (e := { request := r, url := r.url?.getD "" }) rfl rfl
    ⟨rfl, rfl, rfl⟩ room rfl (fun _ => rfl) stays

/-- Alone in a queue without a cap a request with the endpoint and the processor of another comes to
the fate of that. -/
lemma fated_of_like {hooks : List Hook} {r r' : Request α} {a : Answer}
    (hq : over? { s with maxConcurrent := none } hooks (fun _ _ => none) = some q)
    (hr : r.admits q.snapshot = true) (hendpoint : r.endpoint = r'.endpoint)
    (hprocessor : r.processor = r'.processor) (hcancels : r.cancelsItself = r'.cancelsItself)
    (stays : ∀ sent, r'.endpoint.bind Endpoint.toRequest = .ok sent →
      (r'.judged s.successStatus sent.url a).2 = 0 ∨ r'.cancelsItself = false) :
    ∃ e, (q.play (course r a)).entries[0]? = some e ∧ e.stage = .ended ∧
      e.outcomes = [r'.fate s.successStatus a] := by
  rw [← Request.fate_congr hendpoint hprocessor]
  refine fated_of_alone (s := { s with maxConcurrent := none }) hq hr fun sent hsent => ?_
  have hstays := stays sent (hendpoint ▸ hsent)
  unfold Request.judged at hstays ⊢
  rwa [hprocessor, hcancels]

/-! ### In company -/

/-- The answer to the call of a request whose worker took it. -/
lemma reply_of_exchanged {r : Http.Request} {a : Answer} {n : Nat} (sound : q.Sound)
    (he : q.entries[i]? = some e) (hd : Deed.exchanged c r a n <+: e.deeds) :
    q.Replied c r a ∧
      ∀ (c' : Nat) (k : Call), q.calls[c']? = some k → (k.sender = i ↔ c' = c) := by
  have hsent : .sent c r ∈ e.deeds := hd.subset (by simp [Deed.exchanged, Deed.sending])
  have hanswered : .answered c a ∈ e.deeds := hd.subset (by simp [Deed.exchanged])
  obtain ⟨k, hk, hi, hr⟩ := sound.recorded.witnessed i e he _ hsent
  obtain ⟨k₁, hk₁, -, -, ha⟩ := sound.recorded.witnessed i e he _ hanswered
  cases hk.symm.trans hk₁
  refine ⟨⟨k, hk, hr, ha⟩, fun c' k' hk' => ⟨?_, ?_⟩⟩
  · rintro rfl
    obtain ⟨e', he', hd'⟩ := sound.recorded.placed c' k' hk'
    cases he.symm.trans he'
    exact (sound.stories _ e he).call_unique hsent hd'
  · rintro rfl
    cases hk.symm.trans hk'
    exact hi

/-- A request that was not cancelled has come to its fate, given the answer to its call, and it has no
other call. -/
lemma Sound.fated (sound : q.Sound) (he : q.entries[i]? = some e) (hs : e.stage = .ended)
    (hp : e.phase ≠ .cancelled) :
    ∃ a : Answer, e.outcomes = [e.request.fate q.successStatus a] ∧ ∀ r, e.Sends r →
      ((e.request.judged q.successStatus r.url a).2 = 0 ∨ e.request.cancelsItself = false) ∧
      ∃ c, q.Replied c r a ∧
        ∀ (c' : Nat) (k : Call), q.calls[c']? = some k → (k.sender = i ↔ c' = c) := by
  rcases ((sound.stories i e he).past hs).fated hp with
    ⟨fault, hf, hout⟩ | ⟨c, r, a, n, sends, hd, hn, stays, hout⟩
  · exact ⟨.error ⟨"", ""⟩, hout _, fun r hr => nomatch hf.symm.trans hr⟩
  · refine ⟨a, hout, fun r' hr' => ?_⟩
    obtain rfl : r = r' := Except.ok.inj (sends.symm.trans hr')
    exact ⟨hn ▸ stays, c, reply_of_exchanged sound he hd⟩

/-- **Isolation.**  In every session, whatever else is done in it, a request that was not cancelled
comes to its fate, given the answer to its own call: that is what is sent to its handle, and what its
caller is told.  The answer is the one that the transport had at once for that call, or that was
handed in for it; and no other call is the request's.  Alone in a queue without a cap a request with
the same endpoint and processor comes to the same, given the same answer. -/
theorem isolation {hooks : List Hook} {instant : Nat → Http.Request → Option Answer}
    {acts : List (Act α)} {u : Session α} (h : over? s hooks instant = some q₀)
    (hu : u = ({ queue := q₀ } : Session α).performAll acts)
    (he : u.queue.entries[i]? = some e) (hs : e.stage = .ended) (hp : e.phase ≠ .cancelled) :
    ∃ a : Answer, e.outcomes = [e.request.fate s.successStatus a] ∧
      (∀ r, e.Sends r → ∃ c, u.queue.Replied c r a ∧
        (∀ (c' : Nat) (k : Call), u.queue.calls[c']? = some k → (k.sender = i ↔ c' = c)) ∧
        (instant c r = some a ∨ ∃ b, .move (.answer c b) ∈ acts ∧ a = b r)) ∧
      (∀ name, u.Holds name i →
        (u.wait name).1 = .outcome (e.request.fate s.successStatus a)) ∧
      ∀ (hooks' : List Hook) (q : Queue α) (r : Request α),
        over? { s with maxConcurrent := none } hooks' (fun _ _ => none) = some q →
        r.endpoint = e.request.endpoint → r.processor = e.request.processor →
        r.cancelsItself = e.request.cancelsItself → r.admits q.snapshot = true →
        ∃ e', (q.play (course r a)).entries[0]? = some e' ∧ e'.stage = .ended ∧
          e'.outcomes = e.outcomes := by
  obtain ⟨ms, hms, hanswers⟩ := ({ queue := q₀ } : Session α).queue_performAll acts
  rw [← hu] at hms
  change u.queue = q₀.play ms at hms
  have sound₀ := sound_of_over h
  have x := sound₀.play ms
  obtain ⟨limiter, -, rfl⟩ := over_eq_some h
  rw [← hms] at x
  obtain ⟨a, hout, own⟩ := x.sound.fated he hs hp
  rw [x.grown.status] at hout own
  refine ⟨a, hout, fun r hr => ?_, fun name hold => ?_,
    fun hooks' q r hq hendpoint hprocessor hcancels hadmits => ?_⟩
  · obtain ⟨-, c, hreply, hcall⟩ := own r hr
    refine ⟨c, hreply, hcall, ?_⟩
    rw [hms] at hreply
    rcases sound₀.replied_play ms hreply with ⟨k, hk, -⟩ | hi | ⟨b, hb, hab⟩
    · cases hk
    · exact .inl hi
    · exact .inr ⟨b, hanswers c b hb, hab⟩
  · rw [Session.wait_of_holds hold, awaitEntry_eq (.inl rfl) he, hout]
    rfl
  · rw [hout]
    exact fated_of_like hq hadmits hendpoint hprocessor hcancels fun r hr => (own r hr).1

/-- Two requests that share a permit, a reader that goes, a handle that is dropped, and a queue that
is let go. -/
def company : List (Act Nat) :=
  [.submit "parcel" parcel, .submit "stray" stray, .move .dropReader, .run, .drop "parcel",
    .move .letGo, .move (.answer 0 fun _ => .error ⟨"http://a/", "reset"⟩), .run]

/-- In company a request fails with the error that its call broke off with. -/
theorem isolation_of_company :
    ∃ e, (({ queue := single } : Session Nat).performAll company).queue.entries[0]? = some e ∧
      e.outcomes = [.failed (.transport ⟨"http://a/", "reset"⟩)] := by
  have hends : ((({ queue := single } : Session Nat).performAll company).queue.entries[0]?).map
      (fun e => (e.stage, e.phase, e.request)) = some (.ended, .failed, parcel) := rfl
  obtain ⟨e, he, hx⟩ := Option.map_eq_some_iff.mp hends
  obtain ⟨hs, hx⟩ := Prod.mk.inj hx
  obtain ⟨hp, hr⟩ := Prod.mk.inj hx
  have hover : over? { maxConcurrent := some 1 } [.always true] (fun _ _ => none) =
      some single := rfl
  obtain ⟨a, hout, hreply, -, -⟩ := isolation hover rfl he hs (by rw [hp]; nofun)
  have sends : e.Sends ⟨.get, "http://a/", [], none⟩ := by
    unfold Entry.Sends
    rw [hr]
    rfl
  obtain ⟨c, -, -, hi | ⟨b, hb, rfl⟩⟩ := hreply _ sends
  · cases hi
  · obtain ⟨rfl, rfl⟩ : c = 0 ∧ b = fun _ => .error ⟨"http://a/", "reset"⟩ := by
      simpa [company] using hb
    refine ⟨e, he, ?_⟩
    rw [hout, hr]
    rfl

end Queue

end Courier
