import Courier.Proofs.Queue.Polls
import Courier.Queue.Operations

/-!
The operations of a caller and of the transport: requests are submitted and cancelled, answers are
handed in, callbacks are run, and the caller lets go.  Each leads from a sound queue to a sound one.
-/

namespace Courier.Queue

variable {α : Type} {q q₁ : Queue α} {i : Nat} {e : Entry α}

/-! ### Cancelling -/

lemma live_withdrawn {hooks : List Hook} {status : UInt16} (story : e.Story hooks status i)
    (hp : e.phase.isTerminal = false) : e.withdrawn.Live := by
  rcases story with (⟨stage, -, is⟩ | ⟨-, is⟩ | ⟨c, r, stage, sends, is⟩ | ⟨c, r, -, -, is⟩) |
    ⟨-, past⟩
  · refine Entry.Live.calledOff stage ⟨rfl, rfl, ?_⟩
    simp [Entry.withdrawn, Entry.into, Entry.after, is.deeds, is.phase]
  · rw [is.phase] at hp
    cases hp
  · refine Entry.Live.leaving c r stage sends ⟨rfl, rfl, ?_⟩
    simp [Entry.withdrawn, Entry.into, Entry.after, is.deeds, is.phase]
  · rw [is.phase] at hp
    cases hp
  · cases past.isTerminal.symm.trans hp

/-- A request is cancelled from outside: its worker finds out when it is polled next. -/
theorem Sound.cancel (s : q.Sound) (i : Nat) : q.Advances (q.cancel i).2 := by
  cases he : q.entries[i]? with
  | none =>
    have hp : q.phase? i = none := by
      unfold phase?
      rw [he]
      rfl
    unfold Queue.cancel exchange
    rw [hp]
    exact s.refl
  | some e =>
    cases hp : e.phase.isTerminal with
    | true =>
      rw [cancel_of_terminal he hp]
      exact s.refl
    | false =>
      have live := live_withdrawn (s.stories i e he) hp
      have p := ((s.polling he live.stage_ne).cancel hp).2
      exact p.sound live.stage_ne (.inl live) rfl (fun _ => rfl) (s.limited i e he)

/-! ### Submitting -/

/-- The queue with one more entry, which is active. -/
def withEntry (q : Queue α) (e : Entry α) : Queue α :=
  { q with entries := q.entries ++ [e], active := q.active ++ [q.entries.length] }

lemma getElem?_withEntry {e₁ : Entry α} {j : Nat} :
    (q.withEntry e).entries[j]? = some e₁ ↔
      q.entries[j]? = some e₁ ∨ j = q.entries.length ∧ e₁ = e := by
  show (q.entries ++ [e])[j]? = _ ↔ _
  rcases Nat.lt_trichotomy j q.entries.length with hj | rfl | hj
  · rw [List.getElem?_append_left hj]
    exact (or_iff_left fun h => absurd h.1 (Nat.ne_of_lt hj)).symm
  · rw [List.getElem?_concat_length, List.getElem?_eq_none (Nat.le_refl _)]
    simp [eq_comm]
  · rw [List.getElem?_eq_none (by simp; omega), List.getElem?_eq_none (by omega)]
    simp
    omega

lemma extends_withEntry (q : Queue α) (e : Entry α) : q.Extends (q.withEntry e) :=
  ⟨rfl, rfl, rfl, fun _ e' he' =>
    ⟨e', getElem?_withEntry.mpr (.inl he'), rfl, List.prefix_refl _⟩⟩

lemma posted_withEntry {j : Nat} (hd : e.deeds = []) : (q.withEntry e).posted j = q.posted j := by
  show (((q.entries ++ [e])[j]?).map _).getD _ = ((q.entries[j]?).map _).getD _
  rcases Nat.lt_trichotomy j q.entries.length with hj | rfl | hj
  · rw [List.getElem?_append_left hj]
  · rw [List.getElem?_concat_length, List.getElem?_eq_none (Nat.le_refl _), Option.map_some]
    unfold Entry.posts
    rw [hd]
    rfl
  · rw [List.getElem?_eq_none (by simp; omega), List.getElem?_eq_none (by omega)]

lemma hands_withEntry (hs : e.stage = .fresh) : (q.withEntry e).hands = q.hands := by
  funext j
  show (((q.entries ++ [e])[j]?).map _).getD _ = ((q.entries[j]?).map _).getD _
  rcases Nat.lt_trichotomy j q.entries.length with hj | rfl | hj
  · rw [List.getElem?_append_left hj]
  · rw [List.getElem?_concat_length, List.getElem?_eq_none (Nat.le_refl _), Option.map_some, hs]
    rfl
  · rw [List.getElem?_eq_none (by simp; omega), List.getElem?_eq_none (by omega)]

/-- An account over the hands of workers is one over more workers whose hands are empty. -/
lemma keeps_succ {l : Limiter} (k : l.Keeps q.entries.length q.hands) :
    l.Keeps (q.entries.length + 1) q.hands := by
  have hempty : (q.hands q.entries.length).permit = false := by
    unfold hands
    rw [List.getElem?_eq_none (Nat.le_refl _)]
    rfl
  have hh : holders (q.entries.length + 1) q.hands = holders q.entries.length q.hands := by
    ext j
    rw [mem_holders, mem_holders]
    refine ⟨fun ⟨hj, hp⟩ => ⟨?_, hp⟩, fun ⟨hj, hp⟩ => ⟨by omega, hp⟩⟩
    rcases Nat.lt_succ_iff_lt_or_eq.mp hj with hj | rfl
    · exact hj
    · cases hempty.symm.trans hp
  exact ⟨hh ▸ k.balance, k.nodup, k.line, fun j hj => Nat.lt_succ_of_lt (k.bound j hj), k.apart⟩

/-- An entry for a request that nothing was done for yet. -/
theorem Sound.withEntry (s : q.Sound) (r : Request α) :
    q.Advances (q.withEntry { request := r, url := r.url?.getD "" }) := by
  have hx := extends_withEntry q { request := r, url := r.url?.getD "" }
  have hw := hands_withEntry (q := q) (e := { request := r, url := r.url?.getD "" }) rfl
  refine ⟨⟨fun j e' he' => ?_, fun l hl => ?_, fun c j => ?_, ⟨fun c k hk => ?_,
    fun j e' he' d hd => ?_⟩, ?_, fun j => ?_, fun j e' he' hq => ?_,
    s.mailed.mono (fun j => posted_withEntry rfl) rfl rfl⟩, hx⟩
  · rcases getElem?_withEntry.mp he' with he' | ⟨-, rfl⟩
    · exact s.stories j e' he'
    · exact .inl (.waiting rfl rfl ⟨rfl, rfl, rfl⟩)
  · rw [hw]
    show l.Keeps (q.entries ++ [_]).length q.hands
    rw [List.length_append]
    exact keeps_succ (s.permits l hl)
  · rw [hw]
    exact s.awaits c j
  · obtain ⟨e', he', hd⟩ := s.recorded.placed c k hk
    exact ⟨e', getElem?_withEntry.mpr (.inl he'), hd⟩
  · rcases getElem?_withEntry.mp he' with he' | ⟨-, rfl⟩
    · exact s.recorded.witnessed j e' he' d hd
    · exact absurd hd List.not_mem_nil
  · refine List.nodup_append.mpr ⟨s.nodup, List.nodup_singleton _, fun a ha b hb hab => ?_⟩
    rw [hab, List.mem_singleton.mp hb] at ha
    obtain ⟨e', he', -⟩ := (s.active _).mp ha
    exact absurd (List.getElem?_eq_some_iff.mp he').1 (Nat.lt_irrefl _)
  · show j ∈ q.active ++ [_] ↔ _
    rw [List.mem_append, List.mem_singleton, s.active j]
    constructor
    · rintro (⟨e', he', hs⟩ | rfl)
      · exact ⟨e', getElem?_withEntry.mpr (.inl he'), hs⟩
      · exact ⟨_, getElem?_withEntry.mpr (.inr ⟨rfl, rfl⟩), nofun⟩
    · rintro ⟨e', he', hs⟩
      rcases getElem?_withEntry.mp he' with he' | ⟨rfl, -⟩
      · exact .inl ⟨e', he', hs⟩
      · exact .inr rfl
  · rcases getElem?_withEntry.mp he' with he' | ⟨-, rfl⟩
    · exact s.limited j e' he' hq
    · cases hq

/-- A step that only changes what is told of other things than requests, permits and calls. -/
theorem Advances.congr {q₂ : Queue α} (x : q.Advances q₁) (a : q₁.Alike q₂) (hm : q₂.Mailed) :
    q.Advances q₂ :=
  ⟨x.sound.congr a hm, x.grown.congr a⟩

theorem Advances.wake (x : q.Advances q₁) (t : Task) : q.Advances (q₁.wake t) :=
  x.congr (alike_wake q₁ t) (x.sound.mailed.wake t)

theorem Advances.log (x : q.Advances q₁) (r : LogRecord) : q.Advances (q₁.log r) :=
  x.congr ⟨rfl, rfl, rfl, rfl, rfl, rfl⟩ (x.sound.mailed.log r)

section Submit

variable {r : Request α}

lemma submit_eq_none_iff : (q.submit r).1 = none ↔ r.admits q.snapshot = false := by
  unfold submit
  cases r.admits q.snapshot <;> simp

lemma submit_of_refused (hr : r.admits q.snapshot = false) :
    q.submit r = (none, q.log (q.refusal r)) := by
  unfold submit
  rw [hr]
  rfl

lemma submit_of_admitted (hr : r.admits q.snapshot = true) :
    q.submit r = (some q.entries.length, q.enqueue r) := by
  unfold submit
  rw [hr]
  rfl

lemma submit_eq_some_iff : (q.submit r).1 = some q.entries.length ↔ r.admits q.snapshot = true := by
  cases hr : r.admits q.snapshot with
  | false => simp [submit_of_refused hr]
  | true => simp [submit_of_admitted hr]

end Submit

theorem Sound.submit (s : q.Sound) (r : Request α) : q.Advances (q.submit r).2 := by
  unfold Queue.submit
  split
  · exact ((s.withEntry r).log (admission r)).wake (.worker q.entries.length)
  · exact s.refl.log (q.refusal r)

/-! ### Answering -/

/-- A call may change as long as its worker waits for its answer, and in nothing else than that. -/
theorem Sound.modifyCall (s : q.Sound) (c : Nat) {f : Call → Call}
    (hf : ∀ k : Call, (f k).request = k.request ∧ (f k).sender = k.sender ∧
      (f k).awaited = k.awaited)
    (ha : ∀ k : Call, q.calls[c]? = some k → k.awaited = false → (f k).answer = k.answer) :
    q.Advances (q.modifyCall c f) := by
  have hcalls : ∀ (c' : Nat) (k : Call), (q.modifyCall c f).calls[c']? = some k ↔
      ∃ k', q.calls[c']? = some k' ∧ k = if c = c' then f k' else k' :=
    fun _ _ => getElem?_modifyCall_eq_some
  have hsame : ∀ c' k, (if c = c' then f k else k).request = k.request ∧
      (if c = c' then f k else k).sender = k.sender ∧
      (if c = c' then f k else k).awaited = k.awaited := by
    intro c' k
    split
    · exact hf k
    · exact ⟨rfl, rfl, rfl⟩
  refine ⟨⟨s.stories, s.permits, fun c' j => ?_, ⟨fun c' k hk => ?_, fun j e he d hd => ?_⟩,
    s.nodup, s.active, s.limited, ⟨s.mailed.1, s.mailed.2, s.mailed.3⟩⟩,
    ⟨rfl, rfl, rfl, (Extends.refl q).4⟩⟩
  · refine Iff.trans ?_ (s.awaits c' j)
    constructor
    · rintro ⟨k, hk, hs, hw⟩
      obtain ⟨k', hk', rfl⟩ := (hcalls c' k).mp hk
      exact ⟨k', hk', (hsame c' k').2.1 ▸ hs, (hsame c' k').2.2 ▸ hw⟩
    · rintro ⟨k, hk, hs, hw⟩
      exact ⟨_, (hcalls c' _).mpr ⟨k, hk, rfl⟩, (hsame c' k).2.1.trans hs,
        (hsame c' k).2.2.trans hw⟩
  · obtain ⟨k', hk', rfl⟩ := (hcalls c' k).mp hk
    rw [(hsame c' k').1, (hsame c' k').2.1]
    exact s.recorded.placed c' k' hk'
  · have hw := s.recorded.witnessed j e he d hd
    cases d <;> try exact trivial
    · obtain ⟨k, hk, hs, hr⟩ := hw
      exact ⟨_, (hcalls _ _).mpr ⟨k, hk, rfl⟩, (hsame _ k).2.1.trans hs, (hsame _ k).1.trans hr⟩
    · obtain ⟨k, hk, hs, hw, hans⟩ := hw
      refine ⟨_, (hcalls _ _).mpr ⟨k, hk, rfl⟩, (hsame _ k).2.1.trans hs,
        (hsame _ k).2.2.trans hw, ?_⟩
      split
      · rename_i hc
        subst hc
        exact (ha k hk hw).trans hans
      · exact hans

theorem Sound.answer (s : q.Sound) (c : Nat) (a : Http.Request → Answer) :
    q.Advances (q.answer c a).2 := by
  unfold Queue.answer
  split
  · exact s.refl
  rename_i k hk
  split
  · exact s.refl
  split
  · rename_i hw
    refine (s.modifyCall c
      (f := fun k => { k with used := true, answer := some (a k.request) })
      (fun _ => ⟨rfl, rfl, rfl⟩) fun k' hk' hw' => ?_).wake (.worker k.sender)
    cases hk.symm.trans hk'
    cases hw.symm.trans hw'
  · exact s.modifyCall c (f := fun k => { k with used := true }) (fun _ => ⟨rfl, rfl, rfl⟩)
      fun _ _ _ => rfl

/-! ### Callbacks -/

/-- Callbacks are run that wait in front. -/
theorem Mailed.run {m : Mailbox (QueueEvent α)} {cs : List (Callback (QueueEvent α))}
    (hq : q.Mailed) (hp : q.mailbox.pending = cs ++ m.pending)
    (hr : m.reader = q.mailbox.reader) :
    ({ q with mailbox := m }.append (cs.flatMap Callback.run)).Mailed := by
  have hh : ∀ j, ({ q with mailbox := m }.append (cs.flatMap Callback.run)).heard j =
      q.heard j := fun j => by
    show ((q.trace ++ cs.flatMap Callback.run).events ++ m.pending.map Callback.seen).filter _ = _
    unfold Queue.heard
    rw [Trace.events_append, Callback.events_flatMap_run, List.append_assoc, ← List.map_append, hp]
  refine ⟨fun c hc => hq.plain c (hp ▸ List.mem_append_right cs hc), fun j => ?_, fun hne j => ?_⟩
  · rw [hh]
    exact hq.heard j
  · rw [hh]
    exact hq.whole (hr ▸ hne) j

theorem Mailed.dropReader (hq : q.Mailed) :
    { q with mailbox := q.mailbox.dropReader }.Mailed := by
  refine ⟨fun c hc => absurd hc List.not_mem_nil, fun j => ?_, fun hne => absurd rfl hne⟩
  refine List.Sublist.trans ?_ (hq.heard j)
  exact ((List.Sublist.refl _).append (List.nil_sublist _)).filter _

lemma Mailed.runPending (hq : q.Mailed) : q.runPending.2.Mailed := by
  have hd : Callback.drain q.mailbox.pending = q.mailbox.pending := Callback.drain_of_plain hq.plain
  unfold Queue.runPending Mailbox.runPending
  rw [hd]
  exact hq.run (List.append_nil _).symm rfl

theorem Sound.runPending (s : q.Sound) : q.Advances q.runPending.2 :=
  s.refl.congr ⟨rfl, rfl, rfl, rfl, rfl, rfl⟩ s.mailed.runPending

theorem Sound.runNext (s : q.Sound) : q.Advances q.runNext.2 := by
  unfold Queue.runNext Mailbox.runNext?
  cases hp : q.mailbox.pending with
  | nil => exact s.refl
  | cons c cs =>
    have hc : c.posts = [] := s.mailed.plain c (by rw [hp]; exact List.mem_cons_self ..)
    have hrun : c.run = [c].flatMap Callback.run := (List.append_nil _).symm
    dsimp only
    rw [hc, List.append_nil, hrun]
    exact s.refl.congr ⟨rfl, rfl, rfl, rfl, rfl, rfl⟩ (s.mailed.run hp rfl)

theorem Sound.dropReader (s : q.Sound) : q.Advances q.dropReader :=
  s.refl.congr ⟨rfl, rfl, rfl, rfl, rfl, rfl⟩ s.mailed.dropReader

theorem Sound.pollReader (s : q.Sound) : q.Advances q.pollReader := by
  have x : q.Advances q.runPending.2 := s.runPending
  show q.Advances (if q.runPending.2.hasPosters then q.runPending.2
    else { q.runPending.2 with mailbox := q.runPending.2.mailbox.dropReader })
  split
  · exact x
  · exact x.congr ⟨rfl, rfl, rfl, rfl, rfl, rfl⟩ x.sound.mailed.dropReader

/-- The reader is put into a task of its own, if it is not gone. -/
theorem Sound.spawnReader (s : q.Sound) (hr : q.mailbox.reader ≠ .gone) :
    q.Advances q.spawnReader := by
  have x : q.Advances { q with mailbox := { q.mailbox with reader := .task } } :=
    s.refl.congr ⟨rfl, rfl, rfl, rfl, rfl, rfl⟩
      ⟨s.mailed.plain, s.mailed.heard, fun _ => s.mailed.whole hr⟩
  exact x.wake .reader

/-! ### Letting go -/

theorem Advances.noticePosters (x : q.Advances q₁) : q.Advances q₁.noticePosters :=
  x.congr (alike_noticePosters q₁) x.sound.mailed.noticePosters

theorem Sound.letGo (s : q.Sound) : q.Advances q.letGo := by
  have x : q.Advances { q with held := false } :=
    s.refl.congr ⟨rfl, rfl, rfl, rfl, rfl, rfl⟩ ⟨s.mailed.plain, s.mailed.heard, s.mailed.whole⟩
  exact x.noticePosters

theorem Sound.dropContext (s : q.Sound) : q.Advances q.dropContext := by
  have x : q.Advances { q with contextHeld := false } :=
    s.refl.congr ⟨rfl, rfl, rfl, rfl, rfl, rfl⟩ ⟨s.mailed.plain, s.mailed.heard, s.mailed.whole⟩
  exact x.noticePosters

end Courier.Queue
