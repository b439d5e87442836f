import Courier.Proofs.Queue.Resources
import Courier.Proofs.Review.Course

/-!
How a request comes to its end: it is cancelled, or what its answer comes to is told to the hooks,
to its callback and to its handle.  Each part of it keeps the invariant of a poll and adds its own
deeds to the story.
-/

namespace Courier

variable {α : Type}

/-- The entry after a cancellation that took effect. -/
def Entry.withdrawn (e : Entry α) : Entry α :=
  { e.into .cancelled (Deed.withdrawal e.phase) with signal := true }

namespace Queue

variable {q q₀ : Queue α} {i : Nat} {e e' : Entry α} {h : Hand}

namespace Polling

lemma of_eq (p : q₀.Polling q i e h) (he : e = e') : q₀.Polling q i e' h := he ▸ p

/-! ### Cancelling -/

/-- A request that is not finished is cancelled, and that is told. -/
theorem cancel (p : q₀.Polling q i e h) (hp : e.phase.isTerminal = false) :
    (q.cancel i).1 = true ∧ q₀.Polling (q.cancel i).2 i e.withdrawn h := by
  have hx := exchange_of_took p.here (Phase.cancel_of_open hp)
  have p₁ := (p.move .cancelled).alter (f := fun e => { e with signal := true }) rfl rfl
  have p₂ := (p₁.note .cancelled trivial rfl).wakeWaiting i
  unfold Queue.cancel
  rw [hx]
  refine ⟨rfl, (p₂.log _).of_eq ?_⟩
  simp [Entry.withdrawn, Entry.into, Entry.after, Deed.withdrawal]

end Polling

theorem cancel_of_terminal (he : q.entries[i]? = some e) (hp : e.phase.isTerminal = true) :
    q.cancel i = (false, q) := by
  unfold Queue.cancel
  rw [exchange_of_refused he (Phase.cancel_of_terminal hp)]

/-! ### Callbacks -/

lemma posted_note_self (he : q.entries[i]? = some e) (d : Deed α) :
    (q.note i d).posted i = q.posted i ++ [d].filterMap Deed.callback? := by
  unfold posted note
  rw [getElem?_modify_self he, he]
  exact List.filterMap_append ..

lemma posted_note_of_ne {j : Nat} (hj : j ≠ i) (d : Deed α) :
    (q.note i d).posted j = q.posted j := by
  unfold posted note
  rw [getElem?_modify_of_ne hj]

lemma post_of_gone (hr : q.mailbox.reader = .gone) (c : Callback (QueueEvent α)) :
    q.post c = q.log Mailbox.refused := by
  unfold post
  rw [Mailbox.post_of_gone hr]

lemma post_of_open (hr : q.mailbox.reader ≠ .gone) (c : Callback (QueueEvent α)) :
    q.post c =
      { q with mailbox := { q.mailbox with pending := q.mailbox.pending ++ [c] } }.wakeReader := by
  unfold post
  rw [Mailbox.post_of_open hr]

/-- A callback that is posted waits to be run or, without a reader, is lost. -/
theorem Mailed.post {c : Callback (QueueEvent α)} (m : q.Mailed) (hc : c.posts = [])
    (he : q.entries[i]? = some e) (hi : c.seen.owner? = some i) (accepted : Bool) :
    ((q.note i (.posted c.seen accepted)).post c).Mailed := by
  have hself := posted_note_self he (.posted c.seen accepted)
  have hother : ∀ j, j ≠ i → (q.note i (.posted c.seen accepted)).posted j = q.posted j :=
    fun j hj => posted_note_of_ne hj _
  by_cases hr : q.mailbox.reader = .gone
  · rw [post_of_gone (by exact hr)]
    have m₁ : (q.note i (.posted c.seen accepted)).Mailed := by
      refine ⟨m.plain, fun j => ?_, fun hne => absurd hr hne⟩
      rcases eq_or_ne j i with rfl | hj
      · rw [hself]
        exact (m.heard j).trans (List.sublist_append_left ..)
      · rw [hother j hj]
        exact m.heard j
    exact m₁.log _
  rw [post_of_open (by exact hr)]
  have heq : ∀ j, (q.trace.events ++ (q.mailbox.pending ++ [c]).map Callback.seen).filter
      (·.owner? == some j) = (q.note i (.posted c.seen accepted)).posted j := by
    intro j
    have hj : (q.trace.events ++ q.mailbox.pending.map Callback.seen).filter _ = _ := m.whole hr j
    rw [List.map_append, ← List.append_assoc, List.filter_append, hj]
    rcases eq_or_ne j i with rfl | hne
    · rw [hself]
      simp [hi, Deed.callback?]
    · rw [hother j hne]
      simp [hi, hne.symm]
  refine wakeReader ⟨fun c' hc' => ?_, fun j => ?_, fun _ => heq⟩
  · rcases List.mem_append.mp hc' with hc' | hc'
    · exact m.plain c' hc'
    · exact List.mem_singleton.mp hc' ▸ hc
  · exact (heq j).symm ▸ List.Sublist.refl _

lemma alike_post (q : Queue α) (c : Callback (QueueEvent α)) : q.Alike (q.post c) := by
  by_cases hr : q.mailbox.reader = .gone
  · rw [post_of_gone hr]
    exact ⟨rfl, rfl, rfl, rfl, rfl, rfl⟩
  · rw [post_of_open hr]
    have a := alike_wakeReader
      { q with mailbox := { q.mailbox with pending := q.mailbox.pending ++ [c] } }
    exact ⟨a.hooks, a.status, a.entries, a.limiter, a.active, a.calls⟩

namespace Polling

theorem postIf (p : q₀.Polling q i e h) (callback : Option CallbackEnd) {ev : QueueEvent α}
    (hev : ev.owner? = some i) :
    ∃ accepted, q₀.Polling (q.postIf i callback ev) i
      (e.after (Deed.posting callback ev accepted)) h := by
  unfold Queue.postIf
  cases callback with
  | none => exact ⟨true, p.of_eq (by simp [Entry.after, Deed.posting])⟩
  | some c =>
    refine ⟨!q.mailbox.isClosed, p.reshape [.posted ev !q.mailbox.isClosed] rfl rfl ?_
      (alike_post _ _) (p.mailed.post (c := .mk ev (c == .panics) []) rfl p.here hev _)⟩
    intro d hd
    rw [List.mem_singleton.mp hd]
    exact trivial

theorem complete (p : q₀.Polling q i e h) (hp : e.phase = .executing) (hr : e'.request = e.request)
    (v : α) :
    ∃ accepted, q₀.Polling (q.complete i e' v) i
      (e.into .completed (Deed.completing i e.request v accepted)) h := by
  have hs : Phase.finish .completed e.phase = (true, .completed) := by
    rw [hp]
    rfl
  unfold Queue.complete
  rw [exchange_of_took p.here hs, hr]
  obtain ⟨accepted, p₁⟩ := ((p.move .completed).log (.debug "요청 완료")).postIf
    e.request.onSuccess (rfl : (QueueEvent.succeeded i v).owner? = some i)
  refine ⟨accepted, (p₁.deliver _).of_eq ?_⟩
  simp [Entry.into, Entry.after, Deed.completing, hp]

/-! ### Hooks -/

theorem tellAll (p : q₀.Polling q i e h) (f : Failure) (calls : List (Nat × Trace HookEvent)) :
    q₀.Polling (calls.foldl (tell i f) q) i (e.after (calls.map fun c => .told c.1 f)) h := by
  induction calls generalizing q e with
  | nil => exact p.of_eq (by simp [Entry.after])
  | cons c calls ih =>
    have p₁ := (p.note (.told c.1 f) trivial rfl).append (t := c.2.mapEvents .hook) fun ev hev => by
      rw [Trace.events_mapEvents] at hev
      obtain ⟨_, -, rfl⟩ := List.mem_map.mp hev
      rfl
    exact (ih p₁).of_eq (by simp [Entry.after])

lemma map_calls (f : Failure) (hooks : List Hook) :
    ((Hook.calls f hooks).map fun c => Deed.told (α := α) c.1 f) = Deed.telling hooks f := by
  unfold Hook.calls Deed.telling
  apply List.ext_getElem <;> simp

theorem handle (p : q₀.Polling q i e h) (f : Failure) :
    q₀.Polling (q.handle i f) i (e.after (.handled f :: Deed.telling q₀.hooks f)) h := by
  have hlogs : ∀ ev ∈ Trace.events ((Hook.arrival f).map .log : Trace (QueueEvent α)),
      ev.owner? = none := fun ev hev => by
    rw [Trace.events_logs] at hev
    exact absurd hev List.not_mem_nil
  have p₁ := (p.note (.handled f) trivial rfl).append hlogs
  refine (p₁.tellAll f (Hook.calls f q.hooks)).of_eq ?_
  rw [map_calls, p.grown.hooks]
  simp [Entry.after]

theorem fail (p : q₀.Polling q i e h) (hp : e.phase = .executing) (hr : e'.request = e.request)
    (f : Failure) :
    ∃ accepted, q₀.Polling (q.fail i e' f) i
      (e.into .failed (Deed.failing q₀.hooks i e.request f accepted)) h := by
  have hs : Phase.finish .failed e.phase = (true, .failed) := by
    rw [hp]
    rfl
  unfold Queue.fail
  rw [exchange_of_took p.here hs, hr]
  have p₁ := ((p.move .failed).log (.info s!"응답 처리 중 에러: {f.message}")).handle f
  obtain ⟨accepted, p₂⟩ :=
    p₁.postIf e.request.onFailure (rfl : (QueueEvent.failed i f).owner? = some i)
  refine ⟨accepted, (p₂.deliver _).of_eq ?_⟩
  simp [Entry.into, Entry.after, Deed.failing, hp]

end Polling

/-! ### The end of a request that was cancelled meanwhile -/

lemma complete_of_ne (he : q.entries[i]? = some e) (hp : e.phase ≠ .executing) (v : α) :
    q.complete i e' v = q.deliver i .cancelled := by
  unfold complete
  rw [exchange_of_refused he (Phase.finish_of_ne hp)]

lemma fail_of_ne (he : q.entries[i]? = some e) (hp : e.phase ≠ .executing) (f : Failure) :
    q.fail i e' f = q.deliver i .cancelled := by
  unfold fail
  rw [exchange_of_refused he (Phase.finish_of_ne hp)]

end Queue

end Courier
