import Courier.Proofs.Queue.Answers

/-!
Polls of workers.  A worker that is polled begins, goes on or ends, and the queue is sound again
when it waits.  A worker whose request was cancelled ends at its next poll, wherever it waits.
-/

namespace Courier.Queue

variable {α : Type} {q q₀ : Queue α} {i c : Nat} {e e' : Entry α} {h : Hand}

theorem Sound.refl (s : q.Sound) : q.Advances q := ⟨s, .refl q⟩

theorem Advances.trans {q₁ q₂ : Queue α} (x : q.Advances q₁) (y : q₁.Advances q₂) :
    q.Advances q₂ :=
  ⟨y.sound, x.grown.trans y.grown⟩

theorem Ending.retire (x : q₀.Ending q i h) (hc : h.call = none) (hn : h.inLine = false) :
    q₀.Ended (q.retire i h.permit) i := by
  obtain ⟨e, past, p⟩ := x
  exact p.retire past hc hn

namespace Polling

/-! ### Beginning -/

/-- A request that is given to the transport: the worker waits for the answer, or the answer is
there at once and the worker ends. -/
theorem dispatch {r : Http.Request} (p : q₀.Polling q i e h)
    (is : e.Is .executing [.moved .idle .executing]) (sends : e.Sends r)
    (hr : e'.request = e.request) (hc : h.call = none) (hn : h.inLine = false)
    (hp : q.limiter ≠ none → h.permit = true) : q₀.Advances (q.dispatch i e' h.permit r) := by
  have is₁ : (e.after [.sent q.calls.length r]).Is .executing (Deed.sending q.calls.length r) :=
    ⟨is.phase, is.signal, congrArg (· ++ _) is.deeds⟩
  unfold Queue.dispatch
  dsimp only
  cases ha : q.instant q.calls.length r with
  | some answer =>
    have hw : (q.place i r (some answer)).Witnessed i (.answered q.calls.length answer) :=
      ⟨_, List.getElem?_concat_length .., rfl, rfl, rfl⟩
    have x := (p.place r (some answer) hc).answered is₁ sends hr hw
    exact (x.retire rfl hn).toAdvances
  | none =>
    have p₁ := (p.place r none hc).setStage (.sending q.calls.length)
    refine p₁.sound nofun (.inl (.sending q.calls.length r rfl sends
      ⟨is₁.phase, is₁.signal, is₁.deeds⟩)) rfl (fun hl => ?_) nofun
    have hh : h.permit = true := hp hl
    show Hand.mk h.permit _ h.inLine = _
    rw [hh, hn]
    rfl

theorem send {r : Http.Request} (p : q₀.Polling q i e h)
    (is : e.Is .executing [.moved .idle .executing]) (sends : e.Sends r)
    (hr : e'.request = e.request) (hc : h.call = none) (hn : h.inLine = false)
    (hp : q.limiter ≠ none → h.permit = true) : q₀.Advances (q.send i e' h.permit r) := by
  have p₁ := (p.alter (f := fun e => { e with url := r.url }) rfl rfl).log
    (.info s!"요청 전송: {r.method.name} {r.url}")
  exact p₁.dispatch ⟨is.phase, is.signal, is.deeds⟩ sends hr hc hn hp

theorem start_of_cancelled (p : q₀.Polling q i e h)
    (is : e.Is .cancelled (Deed.withdrawal .idle)) (hc : h.call = none) (hn : h.inLine = false) :
    q₀.Ended (q.start i e' h.permit) i := by
  have hs : Phase.begin e.phase = (false, e.phase) := Phase.begin_of_ne (by rw [is.phase]; nofun)
  have p₁ := (p.log (.debug "시작 전 취소된 요청")).deliver .cancelled
  unfold Queue.start
  rw [exchange_of_refused p.here hs]
  exact p₁.retire (.calledOff ⟨is.phase, is.signal, congrArg (· ++ _) is.deeds⟩) hc hn

theorem start_of_idle (p : q₀.Polling q i e h) (is : e.Is .idle [])
    (hu : e.url = e.request.url?.getD "") (hc : h.call = none) (hn : h.inLine = false)
    (hp : q.limiter ≠ none → h.permit = true) : q₀.Advances (q.start i e h.permit) := by
  have hs : Phase.begin e.phase = (true, .executing) := by
    rw [is.phase]
    rfl
  have p₁ := p.move .executing
  have is₁ : (e.into .executing [.moved e.phase .executing]).Is .executing
      [.moved .idle .executing] := by
    refine ⟨rfl, is.signal, ?_⟩
    simp [Entry.into, Entry.after, is.deeds, is.phase]
  unfold Queue.start
  rw [exchange_of_took p.here hs]
  cases hreq : e.request.endpoint.bind Endpoint.toRequest with
  | ok request => exact p₁.send is₁ hreq rfl hc hn hp
  | error fault =>
    obtain ⟨accepted, p₂⟩ := (p₁.log (.error s!"잘못된 URL로 요청 시도: {e.url}: {fault.message}")).fail
      rfl rfl (.transport ⟨e.url, fault.message⟩)
    refine (p₂.retire (.unsent fault accepted hreq ⟨rfl, is.signal, ?_⟩) hc hn).toAdvances
    simp [Entry.into, Entry.after, is.deeds, is.phase, hu]

/-- A worker that has not begun starts, be its request cancelled or not. -/
theorem start (p : q₀.Polling q i e h) (live : e.Live) (hs : e.stage.isEarly = true)
    (hc : h.call = none) (hn : h.inLine = false) (hp : q.limiter ≠ none → h.permit = true) :
    q₀.Advances (q.start i e h.permit) := by
  rcases live.of_early hs with ⟨url, is⟩ | is
  · exact p.start_of_idle is url hc hn hp
  · exact (p.start_of_cancelled is hc hn).toAdvances

end Polling

/-! ### Going on -/

section Receive

variable (s : q.Sound) (he : q.entries[i]? = some e) (hs : e.stage = .sending c)
include s he hs

/-- A worker that waits for an answer has a permit to give back exactly if there is a limiter. -/
lemma receiving : q.Polling q i e { permit := q.limiter.isSome, call := some c } := by
  have p := s.polling he (by rw [hs]; nofun)
  rw [hs] at p
  cases hl : q.limiter with
  | none => exact p.unlimited hl rfl
  | some l => exact p

theorem receive_of_signal (hsig : e.signal = true) : q.Ended (q.receive i e c) i := by
  have p := receiving s he hs
  have live := (s.stories i e he).live (by rw [hs]; nofun)
  obtain ⟨r, sends, is | is⟩ := live.of_sending hs
  · cases hsig.symm.trans is.signal
  obtain ⟨k, hk, -, -⟩ := s.recorded.witnessed i e he (.sent c r)
    (by rw [is.deeds]; simp [Deed.sending])
  have p₁ := (p.abort rfl).deliver .cancelled
  unfold Queue.receive
  rw [hk]
  dsimp only
  rw [if_pos hsig]
  refine p₁.retire (.left c r sends ⟨is.phase, is.signal, ?_⟩) rfl rfl
  simp [Entry.after, is.deeds]

theorem receive_of_quiet (hsig : e.signal = false) : q.Advances (q.receive i e c) := by
  have p := receiving s he hs
  have live := (s.stories i e he).live (by rw [hs]; nofun)
  obtain ⟨r, sends, is | is⟩ := live.of_sending hs
  swap
  · cases hsig.symm.trans is.signal
  obtain ⟨k, hk, hi, rfl⟩ := s.recorded.witnessed i e he (.sent c r)
    (by rw [is.deeds]; simp [Deed.sending])
  unfold Queue.receive
  rw [hk]
  dsimp only
  rw [if_neg (by rw [hsig]; exact Bool.false_ne_true)]
  cases ha : k.answer with
  | none => exact s.refl
  | some a =>
    have hw := witnessed_unawait hk hi ha
    exact (((p.unawait rfl).answered is sends rfl hw).retire rfl rfl).toAdvances

end Receive

/-! ### All polls -/

lemma pollWorker_of_none (he : q.entries[i]? = none) : q.pollWorker i = q := by
  unfold Queue.pollWorker
  rw [he]

lemma pollWorker_of_ended (he : q.entries[i]? = some e) (hs : e.stage = .ended) :
    q.pollWorker i = q := by
  unfold Queue.pollWorker
  rw [he]
  dsimp only
  rw [hs]

lemma pollWorker_of_sending (he : q.entries[i]? = some e) (hs : e.stage = .sending c) :
    q.pollWorker i = q.receive i e c := by
  unfold Queue.pollWorker
  rw [he]
  dsimp only
  rw [hs]

section Poll

variable (s : q.Sound) (he : q.entries[i]? = some e)
include s he

/-- A worker whose request was cancelled before it was begun leaves the line, or gives the permit
back that it was given, and goes on without one. -/
lemma pollWorker_of_early (hs : e.stage.isEarly = true) (hsig : e.signal = true) :
    ∃ q₁, q.Polling q₁ i e {} ∧ q.pollWorker i = q₁.start i e false := by
  have p := s.polling he (Stage.ne_ended_of_isEarly hs)
  unfold Queue.pollWorker
  rw [he]
  dsimp only
  cases hstage : e.stage with
  | fresh =>
    rw [hstage] at p
    refine ⟨q, p, ?_⟩
    cases hl : q.limiter with
    | none => rfl
    | some l =>
      dsimp only
      rw [if_pos hsig]
  | inLine =>
    rw [hstage] at p
    obtain ⟨l, hl⟩ := s.exists_limiter he (by rw [hstage]; rfl)
    rw [hl]
    dsimp only
    rw [if_pos hsig]
    exact ⟨_, p.leave hl, rfl⟩
  | granted =>
    rw [hstage] at p
    obtain ⟨l, hl⟩ := s.exists_limiter he (by rw [hstage]; rfl)
    rw [hl]
    dsimp only
    rw [if_pos hsig]
    exact ⟨_, p.release rfl rfl, rfl⟩
  | sending c => exact absurd hstage (Stage.ne_sending_of_isEarly hs c)
  | ended => exact absurd hstage (Stage.ne_ended_of_isEarly hs)

theorem pollWorker_of_signal (hlive : e.stage ≠ .ended) (hsig : e.signal = true) :
    q.Ended (q.pollWorker i) i := by
  have early : e.stage.isEarly = true → q.Ended (q.pollWorker i) i := by
    intro hs
    obtain ⟨q₁, p, heq⟩ := pollWorker_of_early s he hs hsig
    rw [heq]
    have is := ((s.stories i e he).live hlive).calledOff_of_signal hs hsig
    exact p.start_of_cancelled is rfl rfl
  cases hs : e.stage with
  | fresh => exact early (by rw [hs]; rfl)
  | inLine => exact early (by rw [hs]; rfl)
  | granted => exact early (by rw [hs]; rfl)
  | sending c =>
    rw [pollWorker_of_sending he hs]
    exact receive_of_signal s he hs hsig
  | ended => exact absurd hs hlive

/-- A worker whose request goes on begins, waits, takes its answer or has ended. -/
theorem pollWorker_of_quiet (hsig : e.signal = false) : q.Advances (q.pollWorker i) := by
  have hnot : ¬ e.signal = true := by
    rw [hsig]
    exact Bool.false_ne_true
  have begins : e.stage.isEarly = true → e.Live ∧ q.Polling q i e e.stage.hand := by
    intro hs
    have hlive := Stage.ne_ended_of_isEarly hs
    exact ⟨(s.stories i e he).live hlive, s.polling he hlive⟩
  unfold Queue.pollWorker
  rw [he]
  dsimp only
  cases hs : e.stage with
  | ended => exact s.refl
  | sending c => exact receive_of_quiet s he hs hsig
  | fresh =>
    have early : e.stage.isEarly = true := by
      rw [hs]
      rfl
    obtain ⟨live, p⟩ := begins early
    rw [hs] at p
    cases hl : q.limiter with
    | none => exact p.start live early rfl rfl fun hne => absurd hl hne
    | some l =>
      dsimp only
      rw [if_neg hnot]
      cases ht : l.take? with
      | some l' => exact (p.take hl ht rfl rfl).start live early rfl rfl fun _ => rfl
      | none =>
        exact ((p.join hl rfl rfl).setStage .inLine).sound nofun
          (.inl (live_of_early live early rfl)) rfl (fun _ => rfl)
          fun _ => by rw [hl]; exact Option.some_ne_none l
  | inLine =>
    cases hl : q.limiter with
    | none => exact s.refl
    | some l =>
      dsimp only
      rw [if_neg hnot]
      exact s.refl
  | granted =>
    have early : e.stage.isEarly = true := by
      rw [hs]
      rfl
    obtain ⟨live, p⟩ := begins early
    rw [hs] at p
    cases hl : q.limiter with
    | none => exact s.refl
    | some l =>
      dsimp only
      rw [if_neg hnot]
      exact p.start live early rfl rfl fun _ => rfl

end Poll

/-- **A poll of a worker** leads from a sound queue to a sound one. -/
theorem Sound.pollWorker (s : q.Sound) (i : Nat) : q.Advances (q.pollWorker i) := by
  cases he : q.entries[i]? with
  | none =>
    rw [pollWorker_of_none he]
    exact s.refl
  | some e =>
    cases hsig : e.signal with
    | false => exact pollWorker_of_quiet s he hsig
    | true =>
      by_cases hs : e.stage = .ended
      · rw [pollWorker_of_ended he hs]
        exact s.refl
      · exact (pollWorker_of_signal s he hs hsig).toAdvances

end Courier.Queue
