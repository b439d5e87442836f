import Courier.Proofs.Queue.Runs
import Courier.Proofs.Queue.Turns

/-!
No worker that could go on is left asleep (`Queue.Awake`).  Whatever happens to a queue, each worker
has ended, is ready, or is blocked until something comes from outside, and no permit is free while a
worker waits for one.  So a permit that is given back is never lost, and a request that is cancelled
or answered is looked at again.
-/

namespace Courier.Queue

variable {α : Type} {q q₀ q₁ q₂ : Queue α} {i j c n : Nat} {e e' : Entry α} {h : Hand}

/-! ### Beginning -/

namespace Going

/-- A request that is given to the transport: the worker waits for the answer, or the answer is
there at once and the worker ends. -/
theorem dispatch {r : Http.Request} (g : q.Going q₁ i e h) (hs : e.stage ≠ .ended)
    (x : q₁.Stirs q₂ i 0) (p : q₀.Polling q₂ i e' h) (hp : e'.phase = .executing)
    (hsig : e'.signal = false) (hc : h.call = none) (e₁ : Entry α) :
    q.Turn (q₂.dispatch i e₁ h.permit r) i := by
  unfold Queue.dispatch
  dsimp only
  cases ha : q₂.instant q₂.calls.length r with
  | some answer =>
    have y : q₂.Stirs (q₂.place i r (some answer)) i 0 := stirs_place r ha.symm
    have hw : (q₂.place i r (some answer)).Witnessed i (.answered q₂.calls.length answer) :=
      ⟨_, List.getElem?_concat_length .., rfl, rfl, rfl⟩
    have z := (p.place r (some answer) hc).stirs_answered hp hw e₁ r.url
    exact g.ends hs ((x.trans y).trans ((stirs_note _ _).trans z)) h.permit
  | none =>
    have y : q₂.Stirs (q₂.place i r none) i 0 := stirs_place r ha.symm
    exact g.sends hs (x.trans y) (p.place r none hc).here hsig (List.getElem?_concat_length ..) rfl

/-- A worker that has not begun starts. -/
theorem start (g : q.Going q₁ i e h) (live : e.Live) (hs : e.stage.isEarly = true)
    (hc : h.call = none) : q.Turn (q₁.start i e h.permit) i := by
  have hne := Stage.ne_ended_of_isEarly hs
  rcases live.of_early hs with ⟨-, is⟩ | is
  · have htook : Phase.begin e.phase = (true, .executing) := by
      rw [is.phase]
      rfl
    have x := stirs_exchange (i := i) q₁ Phase.begin
    have p := g.toPolling.move .executing
    unfold Queue.start
    rw [exchange_of_took g.here htook] at x ⊢
    cases hreq : e.request.endpoint.bind Endpoint.toRequest with
    | ok r =>
      have y := stirs_modify (q := (q₁.setPhase i .executing).note i (.moved e.phase .executing))
        (i := i) (f := fun e => { e with url := r.url }) (fun _ => rfl) fun _ => List.prefix_refl _
      have p₂ := (p.alter (f := fun e => { e with url := r.url }) rfl rfl).log
        (.info s!"요청 전송: {r.method.name} {r.url}")
      exact g.dispatch hne ((x.trans y).trans (stirs_log _ _)) p₂ rfl is.signal hc e
    | error fault =>
      have y := stirs_fail (i := i) (((q₁.setPhase i .executing).note i
        (.moved e.phase .executing)).log
          (.error s!"잘못된 URL로 요청 시도: {e.url}: {fault.message}")) e
        (.transport ⟨e.url, fault.message⟩)
      exact g.ends hne ((x.trans (stirs_log _ _)).trans y) h.permit
  · have hrefused : Phase.begin e.phase = (false, e.phase) :=
      Phase.begin_of_ne (by rw [is.phase]; nofun)
    unfold Queue.start
    rw [exchange_of_refused g.here hrefused]
    have x := (stirs_log q₁ (.debug "시작 전 취소된 요청")).trans (stirs_note (i := i) _
      (.delivered .cancelled))
    exact g.ends hne (x.mono (Nat.zero_le 1)) h.permit

end Going

/-! ### Turns of workers -/

/-- A poll that changes nothing, of a worker that is blocked or has ended. -/
lemma turn_refl (he : q.entries[i]? = some e) (hb : e.stage ≠ .ended → q.Blocked e) : q.Turn q i := by
  refine ⟨.refl q, Nat.le_refl _, fun e' he' hs => .inr ?_⟩
  cases he.symm.trans he'
  exact hb hs

/-- A worker that finds no free permit takes its place in line. -/
lemma turn_join {l : Limiter} (he : q.entries[i]? = some e) (hs : e.stage = .fresh)
    (hsig : e.signal = false) (hl : q.limiter = some l) (ht : l.take? = none) :
    q.Turn ({ q with limiter := some (l.join i) }.setStage i .inLine) i := by
  have hfree : l.free = 0 := by
    unfold Limiter.take? at ht
    split at ht
    · assumption
    · cases ht
  have x : q.Heeds { q with limiter := some (l.join i) } i :=
    heeds_withLimiter hl fun _ _ => hfree
  have hload := load_setStage (q := { q with limiter := some (l.join i) }) he .inLine
  rw [hs] at hload
  refine ⟨x.trans (heeds_setStage _ _), Nat.le_of_add_le_add_right (Nat.le_of_eq hload),
    fun e' he' _ => .inr ?_⟩
  cases he'.symm.trans (getElem?_modify_self (q := q) he)
  exact ⟨hsig, .inl rfl⟩

section Turn

variable (s : q.Sound) (he : q.entries[i]? = some e)
include s he

theorem turn_receive (hs : e.stage = .sending c) : q.Turn (q.receive i e c) i := by
  have hne : e.stage ≠ .ended := hs ▸ nofun
  have p := receiving s he hs
  have g : q.Going q i e { permit := q.limiter.isSome, call := some c } :=
    ⟨p, .refl q, Nat.le_refl _, rfl⟩
  have live := (s.stories i e he).live hne
  obtain ⟨r, sends, is⟩ := live.of_sending hs
  obtain ⟨k, hk, hi, rfl⟩ := s.recorded.witnessed i e he (.sent c r) (by
    rcases is with is | is <;> (rw [is.deeds]; simp [Deed.sending]))
  unfold Queue.receive
  rw [hk]
  dsimp only
  cases hsig : e.signal with
  | true =>
    rw [if_pos rfl]
    have x := (stirs_abort (i := i) q c).trans (stirs_note _ (.delivered .cancelled))
    exact g.ends hne (x.mono (Nat.zero_le 1)) q.limiter.isSome
  | false =>
    rw [if_neg Bool.false_ne_true]
    cases ha : k.answer with
    | none => exact turn_refl he fun _ => ⟨hsig, .inr ⟨c, k, hs, hk, ha⟩⟩
    | some a =>
      have hp : e.phase = .executing := by
        rcases is with is | is
        · exact is.phase
        · cases hsig.symm.trans is.signal
      have hw := witnessed_unawait hk hi ha
      have x := stirs_unawait (i := i) q c
      have y := (p.unawait rfl).stirs_answered hp hw e k.request.url
      exact g.ends hne (x.trans ((stirs_note _ _).trans y)) q.limiter.isSome

/-- A worker that has not begun is blocked, takes its place in line, or starts. -/
theorem turn_early (hs : e.stage.isEarly = true) : q.Turn (q.pollWorker i) i := by
  have hne := Stage.ne_ended_of_isEarly hs
  have live := (s.stories i e he).live hne
  have p := s.polling he hne
  have going : e.stage ≠ .inLine → q.Going q i e e.stage.hand := by
    intro hin
    refine ⟨p, .refl q, Nat.le_refl _, ?_⟩
    cases hstage : e.stage <;> first | rfl | exact absurd hstage hin
  unfold Queue.pollWorker
  rw [he]
  dsimp only
  cases hstage : e.stage with
  | fresh =>
    have g := going (by rw [hstage]; nofun)
    rw [hstage] at p g
    cases hl : q.limiter with
    | none => exact g.start live hs rfl
    | some l =>
      dsimp only
      cases hsig : e.signal with
      | true => exact g.start live hs rfl
      | false =>
        rw [if_neg Bool.false_ne_true]
        cases ht : l.take? with
        | none => exact turn_join he hstage hsig hl ht
        | some l' =>
          have x : q.Heeds { q with limiter := some l' } i := by
            refine heeds_withLimiter hl fun tight hline => ?_
            unfold Limiter.take? at ht
            split at ht
            · cases ht
            · rename_i m hm
              cases ht
              exact absurd ((tight hline).symm.trans hm) nofun
          have g' : q.Going { q with limiter := some l' } i e { permit := true } :=
            ⟨p.take hl ht rfl rfl, x, Nat.le_refl _, rfl⟩
          exact g'.start live hs rfl
  | inLine =>
    rw [hstage] at p
    obtain ⟨l, hl⟩ := s.exists_limiter he (by rw [hstage]; rfl)
    rw [hl]
    dsimp only
    cases hsig : e.signal with
    | true =>
      have x : q.Heeds { q with limiter := some (l.leave i) } i := by
        refine heeds_withLimiter hl fun tight hline => tight fun hnil => hline ?_
        show l.line.erase i = []
        rw [hnil]
        rfl
      have g : q.Going { q with limiter := some (l.leave i) } i e {} :=
        ⟨p.leave hl, x, Nat.le_refl _, rfl⟩
      exact g.start live hs rfl
    | false => exact turn_refl he fun _ => ⟨hsig, .inl hstage⟩
  | granted =>
    have g := going (by rw [hstage]; nofun)
    rw [hstage] at p g
    obtain ⟨l, hl⟩ := s.exists_limiter he (by rw [hstage]; rfl)
    rw [hl]
    dsimp only
    cases hsig : e.signal with
    | true =>
      obtain ⟨x, hload, -, -⟩ := (p.lined rfl).release
      have g' : q.Going q.release i e {} := ⟨p.release rfl rfl, x, hload, rfl⟩
      exact g'.start live hs rfl
    | false => exact g.start live hs rfl
  | sending c => exact absurd hstage (Stage.ne_sending_of_isEarly hs c)
  | ended => exact absurd hstage hne

end Turn

/-- **Every poll of a worker** heeds the others, and leaves the worker ended or blocked. -/
theorem Sound.turn (s : q.Sound) (i : Nat) : q.Turn (q.pollWorker i) i := by
  cases he : q.entries[i]? with
  | none =>
    rw [pollWorker_of_none he]
    exact ⟨.refl q, Nat.le_refl _, fun e he' => absurd (he.symm.trans he') nofun⟩
  | some e =>
    cases hs : e.stage with
    | fresh | inLine | granted => exact turn_early s he (by rw [hs]; rfl)
    | sending c =>
      rw [pollWorker_of_sending he hs]
      exact turn_receive s he hs
    | ended =>
      rw [pollWorker_of_ended he hs]
      exact turn_refl he fun hne => absurd hs hne

/-! ### Moves -/

/-- A move that neither submits a request nor hands an answer in adds no entry, and no call gets
another answer. -/
theorem Sound.quiet_apply (s : q.Sound) (m : Move α) (hm : ∀ r, m ≠ .submit r)
    (ha : ∀ c b, m ≠ .answer c b) :
    q.Faithful (q.apply m) ∧ (q.apply m).entries.length = q.entries.length := by
  cases m with
  | submit r => exact absurd rfl (hm r)
  | cancel i => exact ⟨(stirs_cancel q).toFaithful, (stirs_cancel q).heeds.length⟩
  | answer c b => exact absurd rfl (ha c b)
  | poll t =>
    have x := advances_erase s t
    cases t with
    | worker i =>
      have f : q.Faithful { q with ready := q.ready.erase (.worker i) } := .of_eq rfl rfl
      have turn := x.sound.turn i
      exact ⟨f.trans turn.toFaithful, turn.length⟩
    | reader =>
      show q.Faithful (Queue.pollReader _) ∧ (Queue.pollReader _).entries.length = _
      unfold Queue.pollReader
      dsimp only
      split <;> exact ⟨.of_eq rfl rfl, rfl⟩
  | runPending => exact ⟨.of_eq rfl rfl, rfl⟩
  | runNext =>
    show q.Faithful q.runNext.2 ∧ q.runNext.2.entries.length = _
    unfold Queue.runNext
    split <;> exact ⟨.of_eq rfl rfl, rfl⟩
  | spawnReader =>
    show q.Faithful (if q.mailbox.reader = .kept then q.spawnReader else q) ∧
      (if q.mailbox.reader = .kept then q.spawnReader else q).entries.length = _
    split
    · have x := alike_wake { q with mailbox := { q.mailbox with reader := .task } } .reader
      exact ⟨.of_eq (instant_wake _ _) x.calls, congrArg List.length x.entries⟩
    · exact ⟨.of_eq rfl rfl, rfl⟩
  | dropReader => exact ⟨.of_eq rfl rfl, rfl⟩
  | letGo =>
    have f : q.Faithful { q with held := false } := .of_eq rfl rfl
    have x := heeds_noticePosters (i := 0) { q with held := false }
    exact ⟨f.trans x.toFaithful, x.length⟩
  | dropContext =>
    have f : q.Faithful { q with contextHeld := false } := .of_eq rfl rfl
    have x := heeds_noticePosters (i := 0) { q with contextHeld := false }
    exact ⟨f.trans x.toFaithful, x.length⟩

/-- **Nobody is left asleep.** -/
structure Awake (q : Queue α) : Prop where
  attended : ∀ j, q.Attended j
  tight : q.Tight

/-- What is told of other things than requests, permits and calls leaves nobody asleep. -/
theorem Awake.congr (a : q.Awake) (x : q.Alike q₁) (hi : q₁.instant = q.instant)
    (hr : ∀ j, .worker j ∈ q.ready → .worker j ∈ q₁.ready) : q₁.Awake := by
  refine ⟨fun j e he hs => ?_, fun l hl => a.tight l (x.limiter ▸ hl)⟩
  rw [x.entries] at he
  exact (a.attended j e he hs).imp (hr j) (·.mono (.of_eq hi x.calls))

theorem Awake.submit (a : q.Awake) (r : Request α) : (q.submit r).2.Awake := by
  unfold Queue.submit
  split
  · have hq : (q.enqueue r).entries =
        (q.withEntry { request := r, url := r.url?.getD "" }).entries := (alike_wake _ _).entries
    have f : q.Faithful (q.enqueue r) :=
      .of_eq (instant_wake _ _) (alike_wake _ _).calls
    have hr : q.ready ⊆ (q.enqueue r).ready := subset_ready_wake
      ((q.withEntry { request := r, url := r.url?.getD "" }).log (admission r)) _
    refine ⟨fun j e he hs => ?_, fun l hl => a.tight l ?_⟩
    · rw [hq] at he
      rcases getElem?_withEntry.mp he with he | ⟨rfl, -⟩
      · exact (a.attended j e he hs).imp (fun h => hr h) (·.mono f)
      · exact .inl (mem_ready_wake _ _)
    · exact ((alike_wake _ _).limiter.symm.trans hl : _)
  · exact a.congr ⟨rfl, rfl, rfl, rfl, rfl, rfl⟩ rfl fun _ => id

lemma mem_ready_wakeWaiting (he : q.entries[i]? = some e) (hw : isWaiting e.stage = true) :
    .worker i ∈ (q.wakeWaiting i).ready := by
  unfold wakeWaiting
  rw [he]
  dsimp only
  rw [if_pos hw]
  exact mem_ready_wake q _

/-- A worker whose request is cancelled is woken where it waits, and was not asleep elsewhere. -/
lemma mem_ready_cancel (a : q.Awake) (he : q.entries[i]? = some e) (hs : e.stage ≠ .ended)
    (hp : e.phase.isTerminal = false) : .worker i ∈ (q.cancel i).2.ready := by
  cases hw : isWaiting e.stage with
  | false =>
    have hready : .worker i ∈ q.ready := (a.attended i e he hs).resolve_right fun b => by
      rcases b.2 with hline | ⟨c, k, hsend, -⟩
      · rw [hline] at hw
        cases hw
      · rw [hsend] at hw
        cases hw
    obtain ⟨ts, hts, -⟩ := (stirs_cancel (i := i) q).woken
    rw [hts]
    exact List.mem_append_left _ hready
  | true =>
    unfold Queue.cancel
    rw [exchange_of_took he (Phase.cancel_of_open hp)]
    exact mem_ready_wakeWaiting (getElem?_modify_self (getElem?_modify_self
      (getElem?_modify_self (getElem?_modify_self he)))) hw

theorem Awake.cancel (a : q.Awake) (s : q.Sound) (i : Nat) : (q.cancel i).2.Awake := by
  have x := (stirs_cancel (i := i) q).heeds
  refine ⟨fun j => ?_, x.tight a.tight⟩
  rcases eq_or_ne j i with rfl | hj
  · cases he : q.entries[j]? with
    | none =>
      have hlen := x.length
      intro e he' _
      have h₁ := List.getElem?_eq_none_iff.mp he
      have h₂ := (List.getElem?_eq_some_iff.mp he').1
      omega
    | some e =>
      cases hp : e.phase.isTerminal with
      | true =>
        rw [cancel_of_terminal he hp]
        exact a.attended j
      | false =>
        have live := live_withdrawn (s.stories j e he) hp
        exact fun _ _ _ => .inl (mem_ready_cancel a he live.stage_ne hp)
  · exact x.others j hj (a.attended j)

/-- The worker that waits for an answer is woken when it comes. -/
theorem Awake.answer (a : q.Awake) (s : q.Sound) (c : Nat) (b : Http.Request → Answer) :
    (q.answer c b).2.Awake := by
  have others : ∀ (f : Call → Call) (q' : Queue α), q'.entries = q.entries →
      q'.limiter = q.limiter → q'.calls = q.calls.modify c f → q.ready ⊆ q'.ready →
      (∀ k j, q.calls[c]? = some k → q.Awaits c j →
        .worker j ∈ q'.ready ∨ (f k).answer = k.answer) → q'.Awake := by
    intro f q' hentries hlimiter hcalls hready hcall
    refine ⟨fun j e he hs => ?_, fun l hl => a.tight l (hlimiter ▸ hl)⟩
    rw [hentries] at he
    rcases a.attended j e he hs with hr | ⟨hsig, hin | ⟨c', k, hsend, hk, ha⟩⟩
    · exact .inl (hready hr)
    · exact .inr ⟨hsig, .inl hin⟩
    · rcases eq_or_ne c' c with rfl | hc
      · have haw : q.Awaits c' j := (s.awaits c' j).mpr (by rw [hands_of_entry he, hsend]; rfl)
        refine (hcall k j hk haw).imp_right fun hf => ⟨hsig, .inr ⟨c', f k, hsend, ?_, hf.trans ha⟩⟩
        rw [hcalls, List.getElem?_modify, hk]
        simp
      · refine .inr ⟨hsig, .inr ⟨c', k, hsend, ?_, ha⟩⟩
        rw [hcalls, List.getElem?_modify, hk]
        simp [hc.symm]
  unfold Queue.answer
  split
  · exact a
  rename_i k hk
  split
  · exact a
  split
  · have x := alike_wake (q.modifyCall c fun c => { c with used := true, answer := some (b c.request) })
      (.worker k.sender)
    refine others _ _ x.entries x.limiter x.calls (subset_ready_wake (q.modifyCall c _) _) ?_
    rintro k' j hk' ⟨k'', hk'', rfl, -⟩
    cases hk.symm.trans hk'
    cases hk.symm.trans hk''
    exact .inl (mem_ready_wake _ _)
  · exact others _ _ rfl rfl rfl (List.Subset.refl _) fun _ _ _ _ => .inr rfl

/-- The polled worker was taken from the ready ones, and is blocked now or has ended. -/
theorem Awake.poll (a : q.Awake) (s : q.Sound) (t : Task) : (q.apply (.poll t)).Awake := by
  have x := advances_erase s t
  cases t with
  | worker i =>
    have turn := x.sound.turn i
    refine ⟨fun j => ?_, turn.tight a.tight⟩
    rcases eq_or_ne j i with rfl | hj
    · exact turn.rests
    · refine turn.others j hj fun e he hs => (a.attended j e he hs).imp_left fun hr => ?_
      exact (List.mem_erase_of_ne (by simpa using hj)).mpr hr
  | reader =>
    have erased : ({ q with ready := q.ready.erase .reader } : Queue α).Awake :=
      a.congr ⟨rfl, rfl, rfl, rfl, rfl, rfl⟩ rfl fun j hr =>
        (List.mem_erase_of_ne (nofun : Task.worker j ≠ .reader)).mpr hr
    show (Queue.pollReader _).Awake
    unfold Queue.pollReader
    dsimp only
    split
    · exact erased.congr ⟨rfl, rfl, rfl, rfl, rfl, rfl⟩ rfl fun _ => id
    · exact erased.congr ⟨rfl, rfl, rfl, rfl, rfl, rfl⟩ rfl fun _ => id

theorem Awake.noticePosters (a : q.Awake) : q.noticePosters.Awake := by
  rcases q.noticePosters_cases with ⟨hq, -⟩ | ⟨hq, -⟩
  · rw [hq]
    exact a
  · have x := stirs_wakeReader (i := 0) q
    obtain ⟨ts, hts, -⟩ := x.woken
    rw [hq]
    exact a.congr (alike_wakeReader q) x.instant fun j hr => hts ▸ List.mem_append_left ts hr

/-- **Every move** leaves nobody asleep. -/
theorem Awake.apply (a : q.Awake) (s : q.Sound) (m : Move α) : (q.apply m).Awake := by
  cases m with
  | submit r => exact a.submit r
  | cancel i => exact a.cancel s i
  | answer c b => exact a.answer s c b
  | poll t => exact a.poll s t
  | runPending => exact a.congr ⟨rfl, rfl, rfl, rfl, rfl, rfl⟩ rfl fun _ => id
  | runNext =>
    show q.runNext.2.Awake
    unfold Queue.runNext
    split
    · exact a.congr ⟨rfl, rfl, rfl, rfl, rfl, rfl⟩ rfl fun _ => id
    · exact a
  | spawnReader =>
    show (if q.mailbox.reader = .kept then q.spawnReader else q).Awake
    split
    · have kept : { q with mailbox := { q.mailbox with reader := .task } }.Awake :=
        a.congr ⟨rfl, rfl, rfl, rfl, rfl, rfl⟩ rfl fun _ => id
      exact kept.congr (alike_wake _ _) (instant_wake _ _) fun j hr => subset_ready_wake _ _ hr
    · exact a
  | dropReader => exact a.congr ⟨rfl, rfl, rfl, rfl, rfl, rfl⟩ rfl fun _ => id
  | letGo =>
    have free : { q with held := false }.Awake :=
      a.congr ⟨rfl, rfl, rfl, rfl, rfl, rfl⟩ rfl fun _ => id
    exact free.noticePosters
  | dropContext =>
    have free : { q with contextHeld := false }.Awake :=
      a.congr ⟨rfl, rfl, rfl, rfl, rfl, rfl⟩ rfl fun _ => id
    exact free.noticePosters

theorem awake_of_over {s : Settings} {hooks : List Hook}
    {instant : Nat → Http.Request → Option Answer} (h : over? s hooks instant = some q) :
    q.Awake := by
  obtain ⟨limiter, hl, rfl⟩ := over_eq_some h
  refine ⟨fun _ _ => nofun, fun l hlim hne => ?_⟩
  cases hlim
  obtain ⟨n, -, rfl⟩ := eq_of_limiterOf hl
  exact absurd rfl hne

/-- **In every queue that is reached nobody is left asleep.** -/
theorem Reachable.awake {s : Settings} (h : Reachable s q) : q.Awake := by
  induction h with
  | made hooks instant h => exact awake_of_over h
  | step h m ih => exact ih.apply h.sound m

end Courier.Queue
