import Courier.Proofs.Queue.Polls

/-!
What a polled worker leaves as it is while it works (`Queue.Stirs`).  It takes no permit and gives
none back, no worker changes its place, no other entry is touched, and no call gets another answer.
It may wake tasks, and how many is counted: a worker that takes its answer wakes one task at most,
itself if its processor cancels the request, or else the reader of the mailbox.
-/

namespace Courier.Queue

variable {α : Type} {q q₁ q₂ : Queue α} {i m n : Nat} {e e' : Entry α}

/-! ### Calls and their answers -/

/-- From `q` to `q'` no call gets another answer, and the calls that are placed have the answers that
the transport has at once. -/
structure Faithful (q q' : Queue α) : Prop where
  instant : q'.instant = q.instant
  kept : ∀ (c : Nat) (k : Call), q.calls[c]? = some k → ∃ k' : Call, q'.calls[c]? = some k' ∧
    k'.request = k.request ∧ k'.sender = k.sender ∧ k'.answer = k.answer
  placed : ∀ (c : Nat) (k : Call), q.calls.length ≤ c → q'.calls[c]? = some k →
    k.answer = q.instant c k.request

theorem Faithful.of_eq {q' : Queue α} (hi : q'.instant = q.instant) (hc : q'.calls = q.calls) :
    q.Faithful q' := by
  refine ⟨hi, fun c k hk => ⟨k, hc ▸ hk, rfl, rfl, rfl⟩, fun c k hle hk => ?_⟩
  rw [hc, List.getElem?_eq_none hle] at hk
  cases hk

theorem Faithful.trans (f : q.Faithful q₁) (g : q₁.Faithful q₂) : q.Faithful q₂ := by
  refine ⟨g.instant.trans f.instant, fun c k hk => ?_, fun c k hle hk => ?_⟩
  · obtain ⟨k₁, hk₁, hr₁, hs₁, ha₁⟩ := f.kept c k hk
    obtain ⟨k₂, hk₂, hr₂, hs₂, ha₂⟩ := g.kept c k₁ hk₁
    exact ⟨k₂, hk₂, hr₂.trans hr₁, hs₂.trans hs₁, ha₂.trans ha₁⟩
  · rcases Nat.lt_or_ge c q₁.calls.length with hc | hc
    · have hk₁ := List.getElem?_eq_getElem hc
      obtain ⟨k₂, hk₂, hr, -, ha⟩ := g.kept c _ hk₁
      cases hk.symm.trans hk₂
      rw [ha, hr]
      exact f.placed c _ hle hk₁
    · rw [← f.instant]
      exact g.placed c k hc hk

/-! ### Stirring -/

/-- From `q` to `q'` the worker `i` is at work.  It stays where it is, leaves permits and other
entries alone, and wakes `n` tasks at most. -/
structure Stirs (q q' : Queue α) (i n : Nat) : Prop extends q.Faithful q' where
  limiter : q'.limiter = q.limiter
  active : q'.active = q.active
  posters : q'.hasPosters = q.hasPosters
  stages : q'.entries.map Entry.stage = q.entries.map Entry.stage
  others : ∀ j, j ≠ i → q'.entries[j]? = q.entries[j]?
  goesOn : ∀ e, q.entries[i]? = some e → ∃ e', q'.entries[i]? = some e' ∧ e.deeds <+: e'.deeds
  woken : ∃ ts, q'.ready = q.ready ++ ts ∧ ts.length ≤ n

namespace Stirs

theorem trans (x : q.Stirs q₁ i m) (y : q₁.Stirs q₂ i n) : q.Stirs q₂ i (m + n) := by
  refine ⟨x.toFaithful.trans y.toFaithful, y.limiter.trans x.limiter, y.active.trans x.active,
    y.posters.trans x.posters, y.stages.trans x.stages,
    fun j hj => (y.others j hj).trans (x.others j hj), fun e he => ?_, ?_⟩
  · obtain ⟨e₁, he₁, hd₁⟩ := x.goesOn e he
    obtain ⟨e₂, he₂, hd₂⟩ := y.goesOn e₁ he₁
    exact ⟨e₂, he₂, hd₁.trans hd₂⟩
  · obtain ⟨ts, hts, hm⟩ := x.woken
    obtain ⟨us, hus, hn⟩ := y.woken
    refine ⟨ts ++ us, by rw [hus, hts, List.append_assoc], ?_⟩
    rw [List.length_append]
    omega

theorem mono (x : q.Stirs q₁ i m) (h : m ≤ n) : q.Stirs q₁ i n := by
  obtain ⟨ts, hts, hm⟩ := x.woken
  exact { x with woken := ⟨ts, hts, hm.trans h⟩ }

lemma stage_eq (x : q.Stirs q₁ i n) (he : q.entries[i]? = some e)
    (he' : q₁.entries[i]? = some e') : e'.stage = e.stage := by
  have h := congrArg (·[i]?) x.stages
  simp only [List.getElem?_map, he, he', Option.map_some] at h
  exact Option.some.inj h

/-- What a queue tells of other things than requests, permits and calls. -/
theorem of_alike (a : q.Alike q₁) (hp : q₁.hasPosters = q.hasPosters)
    (hi : q₁.instant = q.instant) (hr : ∃ ts, q₁.ready = q.ready ++ ts ∧ ts.length ≤ n) :
    q.Stirs q₁ i n := by
  refine ⟨.of_eq hi a.calls, a.limiter, a.active, hp, by rw [a.entries],
    fun j _ => by rw [a.entries], fun e he => ⟨e, ?_, List.prefix_refl _⟩, hr⟩
  rw [a.entries, he]

/-- A queue that only tells other things has nothing more to do. -/
theorem of_told (a : q.Alike q₁) (hp : q₁.hasPosters = q.hasPosters)
    (hi : q₁.instant = q.instant) (hr : q₁.ready = q.ready) : q.Stirs q₁ i 0 :=
  of_alike a hp hi ⟨[], hr.trans (List.append_nil _).symm, Nat.le_refl 0⟩

theorem refl (q : Queue α) : q.Stirs q i 0 :=
  of_told (.refl q) rfl rfl rfl

end Stirs

/-! ### Records and tasks -/

lemma stirs_append (q : Queue α) (t : Trace (QueueEvent α)) : q.Stirs (q.append t) i 0 :=
  .of_told ⟨rfl, rfl, rfl, rfl, rfl, rfl⟩ rfl rfl rfl

lemma stirs_log (q : Queue α) (r : LogRecord) : q.Stirs (q.log r) i 0 :=
  stirs_append q [.log r]

lemma instant_wake (q : Queue α) (t : Task) : (q.wake t).instant = q.instant := by
  rw [wake_eq]

lemma stirs_wake (q : Queue α) (t : Task) : q.Stirs (q.wake t) i 1 := by
  unfold wake
  split
  · exact (Stirs.refl q).mono (Nat.zero_le 1)
  · exact .of_alike ⟨rfl, rfl, rfl, rfl, rfl, rfl⟩ rfl rfl ⟨[t], rfl, Nat.le_refl 1⟩

lemma stirs_wakeReader (q : Queue α) : q.Stirs q.wakeReader i 1 := by
  unfold wakeReader
  split
  · exact stirs_wake q .reader
  · exact (Stirs.refl q).mono (Nat.zero_le 1)

lemma stirs_wakeWaiting (q : Queue α) (j : Nat) : q.Stirs (q.wakeWaiting j) i 1 := by
  unfold wakeWaiting
  split
  · split
    · exact stirs_wake q _
    · exact (Stirs.refl q).mono (Nat.zero_le 1)
  · exact (Stirs.refl q).mono (Nat.zero_le 1)

lemma stirs_post (q : Queue α) (c : Callback (QueueEvent α)) : q.Stirs (q.post c) i 1 := by
  have same : ∀ m : Mailbox (QueueEvent α), q.Stirs { q with mailbox := m } i 0 := fun m =>
    .of_told ⟨rfl, rfl, rfl, rfl, rfl, rfl⟩ rfl rfl rfl
  unfold post
  split
  · exact (same _).trans (stirs_wakeReader _)
  · exact ((same _).trans (stirs_log _ _)).mono (Nat.zero_le 1)

/-! ### The entry of the worker -/

lemma map_stage_modify {f : Entry α → Entry α} (hs : ∀ e, (f e).stage = e.stage) :
    (q.modify i f).entries.map Entry.stage = q.entries.map Entry.stage := by
  refine List.ext_getElem? fun j => ?_
  show ((q.entries.modify i f).map _)[j]? = _
  rw [List.getElem?_map, List.getElem?_map, List.getElem?_modify]
  cases q.entries[j]? with
  | none => rfl
  | some e =>
    by_cases hj : i = j <;> simp [hj, hs]

lemma stirs_modify {f : Entry α → Entry α} (hs : ∀ e, (f e).stage = e.stage)
    (hd : ∀ e, e.deeds <+: (f e).deeds) : q.Stirs (q.modify i f) i 0 :=
  ⟨.of_eq rfl rfl, rfl, rfl, rfl, map_stage_modify hs, fun _ hj => getElem?_modify_of_ne hj,
    fun e he => ⟨f e, getElem?_modify_self he, hd e⟩, [], (List.append_nil _).symm, Nat.le_refl 0⟩

lemma stirs_note (q : Queue α) (d : Deed α) : q.Stirs (q.note i d) i 0 :=
  stirs_modify (fun _ => rfl) fun _ => List.prefix_append ..

lemma stirs_exchange (q : Queue α) (step : Phase → Bool × Phase) :
    q.Stirs (q.exchange i step).2 i 0 := by
  unfold exchange
  split
  · exact .refl q
  · split
    · rename_i p next _
      have x : q.Stirs (q.setPhase i next) i 0 :=
        stirs_modify (fun _ => rfl) fun _ => List.prefix_refl _
      exact x.trans (stirs_note _ _)
    · exact .refl q

lemma stirs_cancel (q : Queue α) : q.Stirs (q.cancel i).2 i 1 := by
  have hx := stirs_exchange (i := i) q Phase.cancel
  unfold Queue.cancel
  split
  · rename_i q₁ heq
    rw [heq] at hx
    have x : q₁.Stirs (q₁.raiseSignal i) i 0 :=
      stirs_modify (fun _ => rfl) fun _ => List.prefix_refl _
    exact (((hx.trans x).trans (stirs_note _ _)).trans (stirs_wakeWaiting _ i)).trans
      (stirs_log _ _)
  · rename_i q₁ heq
    rw [heq] at hx
    exact hx.mono (Nat.zero_le 1)

/-! ### Endings -/

lemma stirs_postIf (q : Queue α) (callback : Option CallbackEnd) (ev : QueueEvent α) :
    q.Stirs (q.postIf i callback ev) i 1 := by
  unfold postIf
  split
  · exact (Stirs.refl q).mono (Nat.zero_le 1)
  · exact (stirs_note q _).trans (stirs_post _ _)

lemma stirs_complete (q : Queue α) (e : Entry α) (v : α) : q.Stirs (q.complete i e v) i 1 := by
  have hx := stirs_exchange (i := i) q (Phase.finish .completed)
  unfold complete
  split
  · rename_i q₁ heq
    rw [heq] at hx
    exact (hx.trans (stirs_note _ _)).mono (Nat.zero_le 1)
  · rename_i q₁ heq
    rw [heq] at hx
    exact ((hx.trans (stirs_log _ _)).trans (stirs_postIf _ _ _)).trans (stirs_note _ _)

lemma stirs_handle (q : Queue α) (f : Failure) : q.Stirs (q.handle i f) i 0 := by
  have all : ∀ (calls : List (Nat × Trace HookEvent)) (q : Queue α),
      q.Stirs (calls.foldl (tell i f) q) i 0 := by
    intro calls
    induction calls with
    | nil => exact Stirs.refl
    | cons c calls ih =>
      intro q
      exact ((stirs_note q (.told c.1 f)).trans (stirs_append _ _)).trans (ih _)
  exact ((stirs_note q (.handled f)).trans (stirs_append _ _)).trans (all _ _)

lemma stirs_fail (q : Queue α) (e : Entry α) (f : Failure) : q.Stirs (q.fail i e f) i 1 := by
  have hx := stirs_exchange (i := i) q (Phase.finish .failed)
  unfold fail
  split
  · rename_i q₁ heq
    rw [heq] at hx
    exact (hx.trans (stirs_note _ _)).mono (Nat.zero_le 1)
  · rename_i q₁ heq
    rw [heq] at hx
    exact (((hx.trans (stirs_log _ _)).trans (stirs_handle _ f)).trans (stirs_postIf _ _ _)).trans
      (stirs_note _ _)

lemma stirs_conclude (q : Queue α) (e : Entry α) (v : Verdict α) :
    q.Stirs (q.conclude i e v) i 1 := by
  cases v with
  | completed value => exact stirs_complete q e value
  | failed failure => exact stirs_fail q e failure
  | abandoned => exact (stirs_note q _).mono (Nat.zero_le 1)

lemma stirs_conclude_of_ne (he : q.entries[i]? = some e) (hp : e.phase ≠ .executing)
    (v : Verdict α) : q.Stirs (q.conclude i e' v) i 0 := by
  cases v with
  | completed value =>
    show q.Stirs (q.complete i e' value) i 0
    rw [complete_of_ne he hp]
    exact stirs_note q _
  | failed failure =>
    show q.Stirs (q.fail i e' failure) i 0
    rw [fail_of_ne he hp]
    exact stirs_note q _
  | abandoned => exact stirs_note q _

/-! ### Answers -/

lemma stirs_place (r : Http.Request) {a : Option Answer} (ha : a = q.instant q.calls.length r) :
    q.Stirs (q.place i r a) i 0 := by
  have x : q.Stirs (q.addCall ⟨r, i, a.isNone, a, false⟩) i 0 := by
    refine ⟨⟨rfl, fun c k hk => ⟨k, ?_, rfl, rfl, rfl⟩, fun c k hle hk => ?_⟩, rfl, rfl, rfl, rfl,
      fun _ _ => rfl, fun e he => ⟨e, he, List.prefix_refl _⟩, [], (List.append_nil _).symm,
      Nat.le_refl 0⟩
    · exact (List.getElem?_append_left (List.getElem?_eq_some_iff.mp hk).1).trans hk
    · have hlen : c < (q.calls ++ [_]).length := (List.getElem?_eq_some_iff.mp hk).1
      rw [List.length_append, List.length_singleton] at hlen
      obtain rfl : c = q.calls.length := by omega
      cases hk.symm.trans (List.getElem?_concat_length ..)
      exact ha
  exact (x.trans (stirs_note _ _)).trans (stirs_append _ [.event (.sent q.calls.length r)])

lemma stirs_unawait (q : Queue α) (c : Nat) : q.Stirs (q.unawait c) i 0 := by
  have hcalls : ∀ c', (q.unawait c).calls[c']? = (q.calls[c']?).map fun k =>
      if c = c' then { k with awaited := false } else k := fun _ => getElem?_modifyCall
  refine ⟨⟨rfl, fun c' k hk => ?_, fun c' k hle hk => ?_⟩, rfl, rfl, rfl, rfl, fun _ _ => rfl,
    fun e he => ⟨e, he, List.prefix_refl _⟩, [], (List.append_nil _).symm, Nat.le_refl 0⟩
  · rw [hcalls, hk]
    refine ⟨_, rfl, ?_⟩
    split <;> exact ⟨rfl, rfl, rfl⟩
  · rw [hcalls, List.getElem?_eq_none hle] at hk
    cases hk

lemma stirs_abort (q : Queue α) (c : Nat) : q.Stirs (q.abort i c) i 0 :=
  ((stirs_unawait q c).trans (stirs_note _ _)).trans (stirs_append _ [.event (.aborted c)])

lemma stirs_follow_of_stays (q : Queue α) (t : Trace ProcessorCall)
    (hc : t.events.length = 0 ∨ e.request.cancelsItself = false) :
    q.Stirs (q.follow i e t) i 0 := by
  induction t generalizing q with
  | nil => exact .refl q
  | cons happening t ih =>
    cases happening with
    | log r => exact (stirs_log q r).trans (ih (q.log r) hc)
    | event ev =>
      have hc' : e.request.cancelsItself = false := hc.resolve_left (Nat.succ_ne_zero _)
      have x : q.Stirs (q.processorCalled i e) i 0 := by
        unfold processorCalled
        rw [hc']
        exact stirs_note q .processed
      exact x.trans (ih _ (.inr hc'))

lemma stirs_follow_of_once (q : Queue α) (t : Trace ProcessorCall) (ht : t.events.length ≤ 1) :
    q.Stirs (q.follow i e t) i 1 := by
  induction t generalizing q with
  | nil => exact (Stirs.refl q).mono (Nat.zero_le 1)
  | cons happening t ih =>
    cases happening with
    | log r => exact (stirs_log q r).trans (ih (q.log r) ht) |>.mono (by omega)
    | event ev =>
      have hnone : (Trace.events t).length = 0 := Nat.le_zero.mp (Nat.le_of_succ_le_succ ht)
      have x : q.Stirs (q.processorCalled i e) i 1 := by
        unfold processorCalled
        have y := stirs_note (i := i) q .processed
        dsimp only
        split
        · exact y.trans (stirs_cancel _)
        · exact y.mono (Nat.zero_le 1)
      exact x.trans (stirs_follow_of_stays _ t (.inl hnone))

/-- A worker that takes the answer to its call wakes one task at most: a request that its own
processor cancels has no callback to be posted. -/
theorem Polling.stirs_answered {q₀ : Queue α} {h : Hand} {c : Nat} {a : Answer}
    (p : q₀.Polling q i e h) (hp : e.phase = .executing) (hw : q.Witnessed i (.answered c a))
    (e' : Entry α) (url : String) :
    (q.note i (.answered c a)).Stirs (q.answered i e' c url a) i 1 := by
  cases a with
  | error error => exact (stirs_log _ _).trans (stirs_fail _ e' _)
  | ok response =>
    have p₁ := (p.note _ hw rfl).log (.info s!"응답 수신: {url} → {response.status.toNat}")
    have x := stirs_log (i := i) (q.note i (.answered c (.ok response)))
      (.info s!"응답 수신: {url} → {response.status.toNat}")
    have hnever := p₁.never_given_up hp
    unfold Queue.answered
    dsimp only
    rw [hnever]
    generalize hreport : Review.run (fun _ => false) _ = report
    have hle : report.calls ≤ 1 := hreport ▸ Review.calls_ofResponse_le response
    refine x.trans (n := 1) ?_
    by_cases hc : report.calls = 1 ∧ e'.request.cancelsItself = true
    · -- the request is cancelled by now, so it ends without a callback
      have p₂ := p₁.follow_of_cancels report.trace hc.1 hp hc.2
      exact (stirs_follow_of_once _ _ hle).trans (stirs_conclude_of_ne p₂.here nofun _)
    · have stays : report.calls = 0 ∨ e'.request.cancelsItself = false := by
        rcases Nat.le_one_iff_eq_zero_or_eq_one.mp hle with h0 | h1
        · exact .inl h0
        · exact .inr (Bool.eq_false_iff.mpr fun h => hc ⟨h1, h⟩)
      exact (stirs_follow_of_stays _ _ stays).trans (stirs_conclude _ _ _)

end Courier.Queue
