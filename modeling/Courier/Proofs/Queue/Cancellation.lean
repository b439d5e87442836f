import Courier.Proofs.Queue.Callbacks
import Mathlib.Data.List.Basic

/-!
Cancellation is final and silent.  A request can be cancelled until it is finished, once; from then
on nothing is sent for it, no answer is taken, and neither its processor nor a hook nor a callback
is called.  Its worker ends at its next poll, wherever it waits, and gives up the call that it waits
for.
-/

namespace Courier

variable {α : Type}

namespace Deed

variable {ds : List (Deed α)}

/-- The worker gives up and tells its handle so, at most. -/
def Quits (ds : List (Deed α)) : Prop :=
  ds = [] ∨ ds = [delivered .cancelled] ∨ ∃ c, ds = [aborted c, delivered .cancelled]

lemma Quits.notMem (h : Quits ds) {d : Deed α} (hd : ∀ c, d ≠ aborted c)
    (ho : d ≠ delivered .cancelled) : d ∉ ds := by
  rcases h with rfl | rfl | ⟨c, rfl⟩
  · exact List.not_mem_nil
  · simpa using ho
  · simp [hd c, ho]

lemma cancelled_notMem_posting {callback : Option CallbackEnd} {ev : QueueEvent α}
    {accepted : Bool} : cancelled ∉ posting callback ev accepted := by
  cases callback <;> simp [posting]

lemma cancelled_notMem_exchanged {c n : Nat} {r : Http.Request} {a : Answer} :
    cancelled ∉ exchanged (α := α) c r a n := by
  simp [exchanged, sending]

lemma cancelled_notMem_completing {i : Nat} {r : Request α} {v : α} {accepted : Bool} :
    cancelled ∉ completing i r v accepted := by
  simp [completing, cancelled_notMem_posting]

lemma cancelled_notMem_failing {hooks : List Hook} {i : Nat} {r : Request α} {f : Failure}
    {accepted : Bool} : cancelled ∉ failing hooks i r f accepted := by
  simp [failing, telling, cancelled_notMem_posting]

end Deed

namespace Entry

open Deed

variable {e : Entry α} {hooks : List Hook} {status : UInt16} {i : Nat}

/-- How often a caller was told that the request is cancelled by its call. -/
def cancellations (e : Entry α) : Nat := e.deeds.countP Deed.isCancelled

/-- A request was never cancelled, or once, and then its worker quit. -/
inductive Standing (e : Entry α) : Prop
  | never (phase : e.phase ≠ .cancelled) (deeds : Deed.cancelled ∉ e.deeds)
  | once (before after : List (Deed α)) (phase : e.phase = .cancelled)
      (deeds : e.deeds = before ++ Deed.cancelled :: after) (first : Deed.cancelled ∉ before)
      (quits : Quits after)

lemma Live.standing (live : e.Live) : e.Standing := by
  cases live with
  | waiting _ _ is => exact .never (by rw [is.phase]; decide) (by rw [is.deeds]; simp)
  | calledOff _ is =>
    exact .once [.moved .idle .cancelled] [] is.phase is.deeds (by simp) (.inl rfl)
  | sending c r _ _ is =>
    exact .never (by rw [is.phase]; decide) (by rw [is.deeds]; simp [Deed.sending])
  | leaving c r _ _ is =>
    refine .once (Deed.sending c r ++ [.moved .executing .cancelled]) [] is.phase ?_
      (by simp [Deed.sending]) (.inl rfl)
    rw [is.deeds]
    rfl

lemma Over.standing (past : e.Over hooks status i) : e.Standing := by
  cases past with
  | calledOff is =>
    exact .once [.moved .idle .cancelled] _ is.phase is.deeds (by simp) (.inr (.inl rfl))
  | unsent fault accepted _ is =>
    refine .never (by rw [is.phase]; decide) ?_
    rw [is.deeds]
    simp [cancelled_notMem_failing]
  | left c r _ is =>
    refine .once (Deed.sending c r ++ [.moved .executing .cancelled]) _ is.phase ?_
      (by simp [Deed.sending]) (.inr (.inr ⟨c, rfl⟩))
    rw [is.deeds]
    rfl
  | completed c r a v n accepted _ _ _ is =>
    refine .never (by rw [is.phase]; decide) ?_
    rw [is.deeds]
    simp [cancelled_notMem_exchanged, cancelled_notMem_completing]
  | failed c r a f n accepted _ _ _ is =>
    refine .never (by rw [is.phase]; decide) ?_
    rw [is.deeds]
    simp [cancelled_notMem_exchanged, cancelled_notMem_failing]
  | withdrawn c r a _ _ _ is =>
    refine .once (exchanged c r a 1 ++ [.moved .executing .cancelled]) _ is.phase ?_
      (by simp [cancelled_notMem_exchanged]) (.inr (.inl rfl))
    rw [is.deeds]
    rfl

lemma Story.standing (story : e.Story hooks status i) : e.Standing := by
  rcases story with live | ⟨-, past⟩
  · exact live.standing
  · exact past.standing

/-- A request is cancelled once at most, and its phase tells whether it was. -/
lemma Standing.cancellations (st : e.Standing) :
    e.cancellations ≤ 1 ∧ (e.cancellations = 1 ↔ e.phase = .cancelled) := by
  have hzero : ∀ ds : List (Deed α), Deed.cancelled ∉ ds → ds.countP isCancelled = 0 := by
    intro ds hds
    refine List.countP_eq_zero.mpr fun d hd hc => hds ?_
    cases d <;> first | exact hd | cases hc
  unfold Entry.cancellations
  cases st with
  | never phase deeds =>
    rw [hzero _ deeds]
    exact ⟨Nat.zero_le 1, iff_of_false nofun phase⟩
  | once before after phase deeds first quits =>
    have hlast : Deed.cancelled ∉ after := quits.notMem (fun _ => nofun) nofun
    rw [deeds, List.countP_append, List.countP_cons, hzero _ first, hzero _ hlast]
    exact ⟨Nat.le_refl 1, iff_of_true rfl phase⟩

/-- What follows a cancellation, wherever it stands in the story. -/
lemma Standing.quits (st : e.Standing) {before after : List (Deed α)}
    (h : e.deeds = before ++ Deed.cancelled :: after) : e.phase = .cancelled ∧ Quits after := by
  cases st with
  | never phase deeds => exact absurd (by rw [h]; simp) deeds
  | once before' after' phase deeds first quits =>
    have hlast : Deed.cancelled ∉ after' := quits.notMem (fun _ => nofun) nofun
    obtain ⟨-, -, rfl⟩ := (List.append_cons_inj_of_notMem first hlast).mp (deeds.symm.trans h)
    exact ⟨phase, quits⟩

lemma Story.silent (story : e.Story hooks status i) (hp : e.phase = .cancelled) :
    Silent e.deeds := by
  rcases story with live | ⟨-, past⟩
  · exact live.silent
  cases past.telling with
  | nothing _ silent => exact silent
  | success v accepted before phase => cases hp.symm.trans phase
  | failure f accepted before phase => cases hp.symm.trans phase

/-- A cancelled request whose worker lives quits when its worker is done, and gives up the call that
the worker waited for. -/
lemma Live.quits {e' : Entry α} (live : e.Live) (hp : e.phase = .cancelled)
    (past : e'.Over hooks status i) {ds : List (Deed α)} (hds : e.deeds ++ ds = e'.deeds) :
    ds = e.stage.hand.call.toList.map aborted ++ [delivered .cancelled] := by
  cases live with
  | waiting _ _ is => cases hp.symm.trans is.phase
  | sending c r _ _ is => cases hp.symm.trans is.phase
  | calledOff stage is =>
    rw [Stage.call_hand_of_isEarly stage]
    cases past <;> rename_i is' <;> rw [is.deeds, is'.deeds] at hds <;>
      simp [withdrawal, exchanged, Deed.sending, failing, completing] at hds
    exact hds
  | leaving c r stage _ is =>
    rw [stage]
    cases past <;> rename_i is' <;> rw [is.deeds, is'.deeds] at hds <;>
      simp [withdrawal, exchanged, Deed.sending, failing, completing] at hds
    obtain ⟨⟨rfl, rfl⟩, rfl⟩ := hds
    rfl

end Entry

namespace Queue

variable {q : Queue α} {s : Settings} {i : Nat} {e : Entry α}

/-! ### Calls to cancel -/

lemma cancel_eq_true_iff (sound : q.Sound) (he : q.entries[i]? = some e) :
    (q.cancel i).1 = true ↔ e.phase = .idle ∨ e.phase = .executing := by
  cases hp : e.phase.isTerminal with
  | true =>
    rw [cancel_of_terminal he hp]
    refine iff_of_false nofun ?_
    rintro (h | h) <;> (rw [h] at hp; cases hp)
  | false =>
    have live := live_withdrawn (sound.stories i e he) hp
    have p := (sound.polling he live.stage_ne).cancel hp
    refine iff_of_true p.1 ?_
    cases hphase : e.phase with
    | idle => exact .inl rfl
    | executing => exact .inr rfl
    | completed | failed | cancelled =>
      rw [hphase] at hp
      cases hp

/-- A call to cancel that takes effect is told in the story, and one that does not leaves the queue
as it is. -/
lemma cancel_entry (sound : q.Sound) (he : q.entries[i]? = some e) :
    ((q.cancel i).1 = true → (q.cancel i).2.entries[i]? = some e.withdrawn) ∧
      ((q.cancel i).1 = false → (q.cancel i).2 = q) := by
  cases hp : e.phase.isTerminal with
  | true =>
    rw [cancel_of_terminal he hp]
    exact ⟨nofun, fun _ => rfl⟩
  | false =>
    have live := live_withdrawn (sound.stories i e he) hp
    have p := (sound.polling he live.stage_ne).cancel hp
    exact ⟨fun _ => p.2.here, fun hc => absurd (p.1.symm.trans hc) nofun⟩

/-! ### The worker of a cancelled request -/

/-- The worker of a cancelled request ends when it is polled, and waits for no answer any more. -/
lemma poll_of_cancelled (sound : q.Sound) (he : q.entries[i]? = some e)
    (hp : e.phase = .cancelled) (hs : e.stage ≠ .ended) :
    ∃ e', (q.apply (.poll (.worker i))).entries[i]? = some e' ∧ e'.stage = .ended ∧
      e'.deeds = e.deeds ++ (e.stage.hand.call.toList.map .aborted ++ [.delivered .cancelled]) ∧
      ∀ c, ¬ (q.apply (.poll (.worker i))).Awaits c i := by
  have live := (sound.stories i e he).live hs
  have x := sound.poll_of_signal he hs (by rw [live.signal_eq, hp]; rfl)
  obtain ⟨e', he', hended⟩ := x.ended
  have past := (x.sound.stories i e' he').past hended
  obtain ⟨e₁, he₁, -, ds, hds⟩ := x.grown.entries i e he
  cases he'.symm.trans he₁
  refine ⟨e', he', hended, ?_, fun c hc => ?_⟩
  · rw [← hds, live.quits hp past hds]
  · rw [x.sound.awaits, hands_of_entry he', hended] at hc
    cases hc

/-- The calls of a cancelled request were placed before it was cancelled. -/
lemma sent_of_quits (sound : q.Sound) (he : q.entries[i]? = some e) {before after : List (Deed α)}
    (hd : e.deeds = before ++ .cancelled :: after) (quits : Deed.Quits after) {c : Nat} {k : Call}
    (hk : q.calls[c]? = some k) (hi : k.sender = i) : .sent c k.request ∈ before := by
  obtain ⟨e', he', hmem⟩ := sound.recorded.placed c k hk
  rw [hi, he] at he'
  cases he'
  have hnot : Deed.sent c k.request ∉ after := quits.notMem (fun _ => nofun) nofun
  rw [hd, List.mem_append, List.mem_cons] at hmem
  rcases hmem with hmem | hmem | hmem
  · exact hmem
  · cases hmem
  · exact absurd hmem hnot

/-- **Cancellation is final and silent.**  A call to cancel takes effect where the request is idle
or executing and nowhere else; it is in the story of the request then, and no later call takes
effect.  A request is cancelled once at most, and its phase tells whether it was.  After a
cancellation, made by a caller or by its own processor, a request is not sent, no answer is taken
and its processor is not called; its worker gives up and that is its outcome, at the next poll if
it is not done.  No hook and no callback of a cancelled request is ever called. -/
theorem cancellation (h : Reachable s q) (he : q.entries[i]? = some e) :
    ((q.cancel i).1 = true ↔ e.phase = .idle ∨ e.phase = .executing) ∧
    ((q.cancel i).1 = false → (q.cancel i).2 = q) ∧
    ((q.cancel i).1 = true → ∀ ms : List (Move α), ∃ e' after,
      ((q.cancel i).2.play ms).entries[i]? = some e' ∧
      e'.deeds = (e.deeds ++ [.moved e.phase .cancelled]) ++ .cancelled :: after ∧
      (((q.cancel i).2.play ms).cancel i).1 = false) ∧
    e.cancellations ≤ 1 ∧ (e.cancellations = 1 ↔ e.phase = .cancelled) ∧
    (∀ before after, e.deeds = before ++ .cancelled :: after →
      e.phase = .cancelled ∧ Deed.Quits after ∧
      (∀ c k, q.calls[c]? = some k → k.sender = i → .sent c k.request ∈ before) ∧
      (e.failures = [] ∧ e.tellings = [] ∧ e.posts = [] ∧ q.heard i = []) ∧
      (e.stage = .ended → e.outcomes = [.cancelled])) ∧
    (e.phase = .cancelled → e.stage ≠ .ended →
      ∃ e', (q.apply (.poll (.worker i))).entries[i]? = some e' ∧ e'.stage = .ended ∧
        e'.deeds = e.deeds ++ (e.stage.hand.call.toList.map .aborted ++ [.delivered .cancelled]) ∧
        ∀ c, ¬ (q.apply (.poll (.worker i))).Awaits c i) := by
  have story := h.sound.stories i e he
  obtain ⟨hle, hone⟩ := story.standing.cancellations
  refine ⟨cancel_eq_true_iff h.sound he, (cancel_entry h.sound he).2, fun hc ms => ?_, hle, hone,
    fun before after hd => ?_, poll_of_cancelled h.sound he⟩
  · have h' : Reachable s ((q.cancel i).2.play ms) := (h.step (.cancel i)).play ms
    obtain ⟨e', he', -, ds, hds⟩ := ((h.sound.cancel i).sound.play ms).grown.entries i e.withdrawn
      ((cancel_entry h.sound he).1 hc)
    have hd : e'.deeds = (e.deeds ++ [.moved e.phase .cancelled]) ++ .cancelled :: ds := by
      rw [← hds]
      simp [Entry.withdrawn, Entry.into, Entry.after, Deed.withdrawal]
    have hp := ((h'.sound.stories i e' he').standing.quits hd).1
    refine ⟨e', ds, he', hd, Bool.eq_false_iff.mpr fun ht => ?_⟩
    have hopen := (cancel_eq_true_iff h'.sound he').mp ht
    rw [hp] at hopen
    rcases hopen with hopen | hopen <;> cases hopen
  · obtain ⟨hp, quits⟩ := story.standing.quits hd
    have silent := story.silent hp
    have hposts : e.posts = [] := silent.posts
    have hheard := (heard_posts h.sound he).1
    rw [hposts] at hheard
    refine ⟨hp, quits, fun c k => sent_of_quits h.sound he hd quits,
      ⟨silent.failures, silent.tellings, hposts, List.sublist_nil.mp hheard⟩, fun hs => ?_⟩
    obtain ⟨-, o, ho, hop⟩ := (story.past hs).path
    rw [ho, Outcome.eq_cancelled (hop.trans hp)]

theorem cancellation_of_stray :
    ((single.play [.submit stray]).cancel 0).1 = true ∧
      (((single.play [.submit stray]).cancel 0).2.cancel 0).1 = false := by
  have hidle : ((single.play [.submit stray]).entries[0]?).map Entry.phase = some .idle := rfl
  obtain ⟨e, he, hp⟩ := Option.map_eq_some_iff.mp hidle
  obtain ⟨hiff, -, hlater, -⟩ := cancellation (reachable_single _) he
  have hc := hiff.mpr (.inl hp)
  obtain ⟨e', after, -, -, hagain⟩ := hlater hc []
  exact ⟨hc, hagain⟩

end Queue

end Courier
