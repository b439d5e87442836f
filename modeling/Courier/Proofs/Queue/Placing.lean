import Courier.Proofs.Queue.Throughput

/-!
Where calls are placed.  Nothing but `Queue.dispatch` gives a request to the transport, and a worker
comes to it only when it is polled, after its request was begun, and with a permit in hand if there
are permits.
-/

namespace Courier.Queue

variable {α : Type} {q q₀ : Queue α} {i c : Nat} {e e' : Entry α} {h : Hand}

/-! ### What places no call -/

lemma calls_postIf (q : Queue α) (i : Nat) (callback : Option CallbackEnd) (ev : QueueEvent α) :
    (q.postIf i callback ev).calls = q.calls := by
  unfold postIf
  split
  · rfl
  · exact (alike_post _ _).calls

lemma calls_exchange (q : Queue α) (i : Nat) (step : Phase → Bool × Phase) :
    (q.exchange i step).2.calls = q.calls := by
  unfold exchange
  split
  · rfl
  · split <;> rfl

lemma calls_wakeWaiting (q : Queue α) (i : Nat) : (q.wakeWaiting i).calls = q.calls := by
  unfold wakeWaiting
  split
  · split
    · exact (alike_wake _ _).calls
    · rfl
  · rfl

lemma calls_cancel (q : Queue α) (i : Nat) : (q.cancel i).2.calls = q.calls := by
  have hx := q.calls_exchange i Phase.cancel
  unfold cancel
  split
  · rename_i q₁ heq
    rw [heq] at hx
    exact (calls_wakeWaiting ((q₁.raiseSignal i).note i .cancelled) i).trans hx
  · rename_i q₁ heq
    rwa [heq] at hx

lemma calls_complete (q : Queue α) (i : Nat) (e : Entry α) (v : α) :
    (q.complete i e v).calls = q.calls := by
  have hx := q.calls_exchange i (Phase.finish .completed)
  unfold complete
  split
  · rename_i q₁ heq
    rwa [heq] at hx
  · rename_i q₁ heq
    rw [heq] at hx
    exact (calls_postIf _ _ _ _).trans hx

lemma calls_handle (q : Queue α) (i : Nat) (f : Failure) : (q.handle i f).calls = q.calls := by
  have all : ∀ (told : List (Nat × Trace HookEvent)) (q : Queue α),
      (told.foldl (tell i f) q).calls = q.calls := by
    intro told
    induction told with
    | nil => exact fun _ => rfl
    | cons t told ih => exact fun q => (ih (q.tell i f t)).trans rfl
  exact all _ _

lemma calls_fail (q : Queue α) (i : Nat) (e : Entry α) (f : Failure) :
    (q.fail i e f).calls = q.calls := by
  have hx := q.calls_exchange i (Phase.finish .failed)
  unfold fail
  split
  · rename_i q₁ heq
    rwa [heq] at hx
  · rename_i q₁ heq
    rw [heq] at hx
    exact (calls_postIf _ _ _ _).trans ((calls_handle _ _ _).trans hx)

lemma calls_follow (q : Queue α) (i : Nat) (e : Entry α) (t : Trace ProcessorCall) :
    (q.follow i e t).calls = q.calls := by
  induction t generalizing q with
  | nil => rfl
  | cons happening t ih =>
    cases happening with
    | log r => exact ih (q.log r)
    | event ev =>
      have hcalled : (q.processorCalled i e).calls = q.calls := by
        unfold processorCalled
        dsimp only
        split
        · exact calls_cancel _ _
        · rfl
      exact (ih (q.processorCalled i e)).trans hcalled

lemma calls_answered (q : Queue α) (i : Nat) (e : Entry α) (c : Nat) (url : String) (a : Answer) :
    (q.answered i e c url a).calls = q.calls := by
  cases a with
  | error error => exact calls_fail _ _ _ _
  | ok response =>
    have hconclude : ∀ (q : Queue α) (v : Verdict α), (q.conclude i e v).calls = q.calls := by
      intro q v
      cases v with
      | completed value => exact calls_complete q i e value
      | failed failure => exact calls_fail q i e failure
      | abandoned => rfl
    exact (hconclude _ _).trans (calls_follow _ _ _ _)

lemma calls_release (q : Queue α) : q.release.calls = q.calls := by
  unfold release
  split
  · rfl
  · split
    · rfl
    · exact (alike_wake _ _).calls

lemma calls_retire (q : Queue α) (i : Nat) (permit : Bool) :
    (q.retire i permit).calls = q.calls := by
  unfold retire releaseIf
  refine (alike_noticePosters _).calls.trans ?_
  cases permit with
  | true => exact calls_release (q.setStage i .ended)
  | false => rfl

/-- A worker that takes the answer to its call places none. -/
lemma length_calls_receive (q : Queue α) (i : Nat) (e : Entry α) (c : Nat) :
    (q.receive i e c).calls.length = q.calls.length := by
  have hunawait : (q.unawait c).calls.length = q.calls.length := List.length_modify ..
  unfold receive
  dsimp only
  split
  · rfl
  · split
    · rw [calls_retire]
      exact hunawait
    · split
      · rfl
      · rw [calls_retire, calls_answered]
        exact hunawait

/-! ### What places a call -/

/-- A request given to the transport is one more call. -/
lemma calls_dispatch (q : Queue α) (i : Nat) (e : Entry α) (permit : Bool) (r : Http.Request) :
    ∃ awaited answer, (q.dispatch i e permit r).calls =
      q.calls ++ [{ request := r, sender := i, awaited, answer }] := by
  unfold dispatch
  dsimp only
  split
  · rename_i a _
    refine ⟨false, some a, ?_⟩
    rw [calls_retire, calls_answered]
    rfl
  · exact ⟨true, none, rfl⟩

/-- The worker of an entry has a permit in hand, if there are permits: together with it and those of
the others the free ones make up the capacity. -/
def Holding (q : Queue α) (i : Nat) : Prop :=
  ∀ l, q.limiter = some l → l.free + (insert i q.permitted).card = l.capacity

lemma Polling.holding (p : q₀.Polling q i e h) (hp : q.limiter ≠ none → h.permit = true) :
    q.Holding i := by
  intro l hl
  have balance := (p.permits l hl).balance
  unfold handsWith at balance
  rwa [holders_update_of_permit p.lt_length (hp (by rw [hl]; exact Option.some_ne_none l))]
    at balance

/-- From `q` to `q'` a request of the entry is given to the transport: it was begun before, and its
worker holds a permit. -/
def Places (q q' : Queue α) (i : Nat) (permit : Bool) : Prop :=
  ∃ (q₁ : Queue α) (e : Entry α) (r : Http.Request), q' = q₁.dispatch i e permit r ∧
    q₁.calls = q.calls ∧ q₁.phase? i = some .executing ∧ q₁.Holding i

/-- A worker that begins gives its request to the transport, or places no call. -/
lemma Polling.start_places (p : q₀.Polling q i e h) (live : e.Live) (hs : e.stage.isEarly = true)
    (hp : e.signal = false → q.limiter ≠ none → h.permit = true) (permit : Bool) :
    (q.start i e permit).calls = q.calls ∨
      e.signal = false ∧ e.phase = .idle ∧ q.Places (q.start i e permit) i permit := by
  rcases live.of_early hs with ⟨-, is⟩ | is
  · have hx : Phase.begin e.phase = (true, .executing) := by
      rw [is.phase]
      rfl
    have p₁ := p.move .executing
    unfold Queue.start
    rw [exchange_of_took p.here hx]
    cases hreq : e.request.endpoint.bind Endpoint.toRequest with
    | error fault =>
      left
      dsimp only
      rw [calls_retire, calls_fail]
      rfl
    | ok r =>
      right
      have p₂ := (p₁.alter (f := fun e => { e with url := r.url }) rfl rfl).log
        (.info s!"요청 전송: {r.method.name} {r.url}")
      refine ⟨is.signal, is.phase, _, e, r, rfl, rfl, ?_, p₂.holding (hp is.signal)⟩
      unfold phase?
      rw [p₂.here]
      rfl
  · left
    have hx : Phase.begin e.phase = (false, e.phase) := Phase.begin_of_ne (by rw [is.phase]; nofun)
    unfold Queue.start
    rw [exchange_of_refused p.here hx]
    dsimp only
    rw [calls_retire]
    rfl

/-! ### Which moves place a call -/

/-- A worker that is polled before it has begun places a call only for an idle request, with a
permit if there are permits. -/
lemma Sound.pollWorker_places_of_early (s : q.Sound) (he : q.entries[i]? = some e)
    (hs : e.stage.isEarly = true) :
    (q.pollWorker i).calls = q.calls ∨
      e.phase = .idle ∧ q.Places (q.pollWorker i) i q.limiter.isSome := by
  have live := (s.stories i e he).live (Stage.ne_ended_of_isEarly hs)
  have p := s.polling he (Stage.ne_ended_of_isEarly hs)
  -- a worker whose request was cancelled places no call
  have off : ∀ {q₁ : Queue α} {h₁ : Hand}, q.Polling q₁ i e h₁ → q₁.calls = q.calls →
      e.signal = true → (q₁.start i e false).calls = q.calls := by
    intro q₁ h₁ p₁ hcalls hsig
    rcases p₁.start_places live hs (fun hq => by cases hsig.symm.trans hq) false with heq | ⟨hq, -⟩
    · exact heq.trans hcalls
    · cases hsig.symm.trans hq
  -- and one that begins does so in the queue that has taken its permit
  generalize hb : q.limiter.isSome = permit
  have on : ∀ {q₁ : Queue α} {h₁ : Hand}, q.Polling q₁ i e h₁ → q₁.calls = q.calls →
      (q₁.limiter ≠ none → h₁.permit = true) → (q₁.start i e permit).calls = q.calls ∨
        e.phase = .idle ∧ q.Places (q₁.start i e permit) i permit := by
    intro q₁ h₁ p₁ hcalls hp
    rcases p₁.start_places live hs (fun _ => hp) permit with
      heq | ⟨-, hidle, q₂, e₂, r, heq, hq₂, h⟩
    · exact .inl (heq.trans hcalls)
    · exact .inr ⟨hidle, q₂, e₂, r, heq, hq₂.trans hcalls, h⟩
  unfold Queue.pollWorker
  rw [he]
  dsimp only
  cases hstage : e.stage with
  | sending c => exact absurd hstage (Stage.ne_sending_of_isEarly hs c)
  | ended => exact absurd hstage (Stage.ne_ended_of_isEarly hs)
  | fresh =>
    rw [hstage] at p
    cases hl : q.limiter with
    | none =>
      obtain rfl : permit = false := by rw [← hb, hl]; rfl
      exact on p rfl fun hne => absurd hl hne
    | some l =>
      dsimp only
      split
      · rename_i hsig
        exact .inl (off p rfl hsig)
      · cases ht : l.take? with
        | none => exact .inl rfl
        | some l' =>
          obtain rfl : permit = true := by rw [← hb, hl]; rfl
          exact on (p.take hl ht rfl rfl) rfl fun _ => rfl
  | inLine =>
    rw [hstage] at p
    obtain ⟨l, hl⟩ := s.exists_limiter he (by rw [hstage]; rfl)
    rw [hl]
    dsimp only
    split
    · rename_i hsig
      exact .inl (off (p.leave hl) rfl hsig)
    · exact .inl rfl
  | granted =>
    rw [hstage] at p
    obtain ⟨l, hl⟩ := s.exists_limiter he (by rw [hstage]; rfl)
    rw [hl]
    dsimp only
    split
    · rename_i hsig
      exact .inl (off (p.release rfl rfl) (calls_release q) hsig)
    · obtain rfl : permit = true := by rw [← hb, hl]; rfl
      exact on p rfl fun _ => rfl

/-- **What places a call**: a worker that is polled does so for an idle request, with a permit if
there are permits, or no call is placed. -/
theorem Sound.pollWorker_places (s : q.Sound) (he : q.entries[i]? = some e) :
    (q.pollWorker i).calls.length = q.calls.length ∨
      e.phase = .idle ∧ q.Places (q.pollWorker i) i q.limiter.isSome := by
  by_cases hs : e.stage.isEarly = true
  · exact (s.pollWorker_places_of_early he hs).imp_left (congrArg List.length)
  · left
    cases hstage : e.stage with
    | fresh | inLine | granted => exact absurd (by rw [hstage]; rfl) hs
    | sending c =>
      rw [pollWorker_of_sending he hstage]
      exact length_calls_receive q i e c
    | ended => rw [pollWorker_of_ended he hstage]

/-- Nothing but the poll of a worker places a call. -/
lemma length_calls_apply (q : Queue α) {m : Move α} (hm : ∀ i, m ≠ .poll (.worker i)) :
    (q.apply m).calls.length = q.calls.length := by
  cases m with
  | submit r =>
    show (q.submit r).2.calls.length = _
    unfold submit
    split
    · exact congrArg List.length (alike_wake _ _).calls
    · rfl
  | cancel i => exact congrArg List.length (q.calls_cancel i)
  | answer c a =>
    show (q.answer c a).2.calls.length = _
    unfold answer
    split
    · rfl
    split
    · rfl
    split
    · rw [(alike_wake _ _).calls]
      exact List.length_modify ..
    · exact List.length_modify ..
  | poll t =>
    cases t with
    | worker i => exact absurd rfl (hm i)
    | reader =>
      show (pollReader _).calls.length = _
      unfold pollReader
      dsimp only
      split <;> rfl
  | runPending => rfl
  | runNext =>
    show q.runNext.2.calls.length = _
    unfold runNext
    split <;> rfl
  | spawnReader =>
    show (if q.mailbox.reader = .kept then q.spawnReader else q).calls.length = _
    split
    · exact congrArg List.length (alike_wake _ _).calls
    · rfl
  | dropReader => rfl
  | letGo => exact congrArg List.length (alike_noticePosters _).calls
  | dropContext => exact congrArg List.length (alike_noticePosters _).calls

/-- **Every call** is placed by a poll of the worker of its request, which was idle until then, and
with a permit if there are permits. -/
theorem Sound.places_of_call (sound : q.Sound) {m : Move α} {k : Call} (hc : q.calls.length ≤ c)
    (hk : (q.apply m).calls[c]? = some k) :
    c = q.calls.length ∧ m = .poll (.worker k.sender) ∧ q.phase? k.sender = some .idle ∧
      ∃ (q₁ : Queue α) (e : Entry α),
        q.apply m = q₁.dispatch k.sender e q.limiter.isSome k.request ∧
        q₁.phase? k.sender = some .executing ∧ q₁.Holding k.sender := by
  have hlt := (List.getElem?_eq_some_iff.mp hk).1
  by_cases hm : ∃ i, m = .poll (.worker i)
  swap
  · have hsame := q.length_calls_apply fun i hi => hm ⟨i, hi⟩
    omega
  obtain ⟨i, rfl⟩ := hm
  have x := advances_erase sound (.worker i)
  generalize hq : { q with ready := q.ready.erase (.worker i) } = q₀ at x
  have hcalls : q₀.calls = q.calls := by rw [← hq]
  have hlimiter : q₀.limiter = q.limiter := by rw [← hq]
  have hentries : q₀.entries = q.entries := by rw [← hq]
  have happly : q.apply (.poll (.worker i)) = q₀.pollWorker i := by rw [← hq]; rfl
  rw [happly] at hk hlt ⊢
  cases he : q₀.entries[i]? with
  | none =>
    rw [pollWorker_of_none he, hcalls] at hlt
    omega
  | some e =>
    rcases x.sound.pollWorker_places he with hlen | ⟨hidle, q₁, e₁, r, heq, hq₁, hp, hhold⟩
    · rw [hcalls] at hlen
      omega
    · obtain ⟨awaited, answer, hplace⟩ := q₁.calls_dispatch i e₁ q₀.limiter.isSome r
      rw [heq, hplace, hq₁, hcalls] at hk hlt
      rw [List.length_append, List.length_singleton] at hlt
      obtain rfl : c = q.calls.length := by omega
      cases hk.symm.trans (List.getElem?_concat_length ..)
      refine ⟨rfl, rfl, ?_, q₁, e₁, hlimiter ▸ heq, hp, hhold⟩
      unfold phase?
      rw [← hentries, he, ← hidle]
      rfl

end Courier.Queue
