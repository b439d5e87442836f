import Courier.Proofs.Queue.Endings

/-!
What becomes of a request whose worker takes the answer to its call: the processor is called as
often as the review asks for it, and the request ends as the verdict says, unless its own processor
cancelled it.
-/

namespace Courier.Queue

variable {α : Type} {q q₀ : Queue α} {i c : Nat} {e e' : Entry α} {h : Hand}

/-- The request of the polled worker has come to its end. -/
def Ending (q₀ q : Queue α) (i : Nat) (h : Hand) : Prop :=
  ∃ e : Entry α, e.Over q₀.hooks q₀.successStatus i ∧ q₀.Polling q i e h

namespace Polling

/-! ### The processor -/

theorem processorCalled (p : q₀.Polling q i e h) (hc : e'.request.cancelsItself = false) :
    q₀.Polling (q.processorCalled i e') i (e.after [.processed]) h := by
  unfold Queue.processorCalled
  rw [hc]
  exact p.note .processed trivial rfl

theorem processorCalled_of_cancels (p : q₀.Polling q i e h) (hp : e.phase = .executing)
    (hc : e'.request.cancelsItself = true) :
    q₀.Polling (q.processorCalled i e') i (e.after [.processed]).withdrawn h := by
  have p₁ : q₀.Polling (q.note i .processed) i (e.after [.processed]) h :=
    p.note .processed trivial rfl
  unfold Queue.processorCalled
  rw [hc]
  exact (p₁.cancel (by rw [Entry.after, hp]; rfl)).2

/-- A review whose processor does not cancel: each call of the processor is one deed. -/
theorem follow (p : q₀.Polling q i e h) (t : Trace ProcessorCall)
    (hc : t.events.length = 0 ∨ e'.request.cancelsItself = false) :
    q₀.Polling (q.follow i e' t) i (e.after (List.replicate t.events.length .processed)) h := by
  induction t generalizing q e with
  | nil => exact p.of_eq (by simp [Entry.after, Trace.events])
  | cons happening t ih =>
    cases happening with
    | log r => exact ih (p.log r) hc
    | event ev =>
      have hc' : e'.request.cancelsItself = false := hc.resolve_left (Nat.succ_ne_zero _)
      refine (ih (p.processorCalled hc') (.inr hc')).of_eq ?_
      simp [Entry.after, Trace.events, Happening.event?, List.replicate_succ]

/-- A review whose processor is called once and cancels the request. -/
theorem follow_of_cancels (p : q₀.Polling q i e h) (t : Trace ProcessorCall)
    (ht : t.events.length = 1) (hp : e.phase = .executing)
    (hc : e'.request.cancelsItself = true) :
    q₀.Polling (q.follow i e' t) i (e.after [.processed]).withdrawn h := by
  induction t generalizing q with
  | nil => cases ht
  | cons happening t ih =>
    cases happening with
    | log r => exact ih (p.log r) ht
    | event ev =>
      have ht' : (Trace.events t).length = 0 := Nat.succ.inj ht
      refine ((p.processorCalled_of_cancels hp hc).follow t (.inl ht')).of_eq ?_
      rw [ht']
      simp [Entry.after]

/-! ### The verdict -/

theorem conclude_of_ne (p : q₀.Polling q i e h) (hp : e.phase ≠ .executing) (v : Verdict α) :
    q₀.Polling (q.conclude i e' v) i (e.after [.delivered .cancelled]) h := by
  cases v with
  | completed value =>
    show q₀.Polling (q.complete i e' value) i _ h
    rw [complete_of_ne p.here hp]
    exact p.deliver .cancelled
  | failed failure =>
    show q₀.Polling (q.fail i e' failure) i _ h
    rw [fail_of_ne p.here hp]
    exact p.deliver .cancelled
  | abandoned => exact p.deliver .cancelled

/-- Nobody can give a review up while its worker is polled. -/
lemma never_given_up (p : q₀.Polling q i e h) (hp : e.phase = .executing) :
    (fun _ : Nat => q.phase? i == some .cancelled) = fun _ => false := by
  funext _
  unfold phase?
  rw [p.here, Option.map_some, hp]
  rfl

/-- A review that was carried through decides how the request ends. -/
theorem review {r : Http.Request} {response : Http.Response} (p : q₀.Polling q i e h)
    (is : e.Is .executing (Deed.sending c r ++ [.answered c (.ok response)])) (sends : e.Sends r)
    (hr : e'.request = e.request) {report : Review.Report α}
    (hreport : report = (Review.ofResponse r.url q₀.successStatus e.request.processor
      (some response)).runThrough) :
    q₀.Ending ((q.follow i e' report.trace).conclude i e' report.verdict) i h := by
  have hjudged : e.request.judged q₀.successStatus r.url (.ok response) =
      (report.verdict, report.calls) := by
    rw [hreport]
    rfl
  have hle : report.calls ≤ 1 := hreport ▸ Review.calls_ofResponse_le response
  have hverdict : report.verdict ≠ .abandoned := hreport ▸ Review.verdict_runThrough _
  by_cases hc : report.calls = 1 ∧ e'.request.cancelsItself = true
  · have p₁ := p.follow_of_cancels report.trace hc.1 is.phase hc.2
    refine ⟨_, ?_, p₁.conclude_of_ne nofun report.verdict⟩
    have hone : (e.request.judged q₀.successStatus r.url (.ok response)).2 = 1 := by
      rw [hjudged]
      exact hc.1
    refine .withdrawn c r (.ok response) sends hone (hr ▸ hc.2) ⟨rfl, rfl, ?_⟩
    simp [Entry.withdrawn, Entry.into, Entry.after, is.deeds, is.phase, Deed.exchanged]
  have stays : report.calls = 0 ∨ e'.request.cancelsItself = false := by
    rcases Nat.le_one_iff_eq_zero_or_eq_one.mp hle with h0 | h1
    · exact .inl h0
    · exact .inr (Bool.eq_false_iff.mpr fun h => hc ⟨h1, h⟩)
  have p₁ := p.follow report.trace stays
  rw [hr] at stays
  cases hv : report.verdict with
  | completed v =>
    rw [hv] at hjudged
    obtain ⟨accepted, p₂⟩ := p₁.complete is.phase hr v
    refine ⟨_, ?_, p₂⟩
    refine .completed c r (.ok response) v report.calls accepted sends hjudged stays
      ⟨rfl, is.signal, ?_⟩
    simp [Entry.into, Entry.after, is.deeds, Deed.exchanged, Review.Report.calls]
  | failed f =>
    rw [hv] at hjudged
    obtain ⟨accepted, p₂⟩ := p₁.fail is.phase hr f
    refine ⟨_, ?_, p₂⟩
    refine .failed c r (.ok response) f report.calls accepted sends hjudged stays
      ⟨rfl, is.signal, ?_⟩
    simp [Entry.into, Entry.after, is.deeds, Deed.exchanged, Review.Report.calls]
  | abandoned => exact absurd hv hverdict

theorem answered {r : Http.Request} {a : Answer} (p : q₀.Polling q i e h)
    (is : e.Is .executing (Deed.sending c r)) (sends : e.Sends r) (hr : e'.request = e.request)
    (hw : q.Witnessed i (.answered c a)) : q₀.Ending (q.answered i e' c r.url a) i h := by
  have p₁ : q₀.Polling (q.note i (.answered c a)) i (e.after [.answered c a]) h := p.note _ hw rfl
  have is₁ : (e.after [.answered c a]).Is .executing (Deed.sending c r ++ [.answered c a]) :=
    ⟨is.phase, is.signal, congrArg (· ++ _) is.deeds⟩
  cases a with
  | error error =>
    obtain ⟨accepted, p₂⟩ := (p₁.log (.error s!"연결 실패: {r.url}")).fail is₁.phase hr
      (.transport error)
    refine ⟨_, ?_, p₂⟩
    refine .failed c r (.error error) (.transport error) 0 accepted sends rfl (.inl rfl)
      ⟨rfl, is.signal, ?_⟩
    simp [Entry.into, Entry.after, is.deeds, Deed.exchanged]
  | ok response =>
    have p₂ := p₁.log (.info s!"응답 수신: {r.url} → {response.status.toNat}")
    refine p₂.review is₁ sends hr ?_
    rw [p₂.never_given_up is₁.phase, ← p.grown.status]
    show _ = Review.runThrough (Review.ofResponse _ _ e.request.processor _)
    rw [← hr]
    rfl

end Polling

end Courier.Queue
