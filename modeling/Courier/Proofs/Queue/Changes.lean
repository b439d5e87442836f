import Courier.Proofs.Queue.Invariant

/-!
The changes that a poll makes to its own entry, and to what is told of it: records, events, deeds
and phases.  Each keeps the invariant of a poll.
-/

namespace Courier.Queue

variable {α : Type} {q q₀ : Queue α} {i : Nat} {e : Entry α} {h : Hand}

/-! ### Records, events and tasks -/

theorem Mailed.append (m : q.Mailed) {t : Trace (QueueEvent α)}
    (ht : ∀ ev ∈ t.events, ev.owner? = none) : (q.append t).Mailed := by
  have hnone : ∀ j, t.events.filter (·.owner? == some j) = [] := fun j =>
    List.filter_eq_nil_iff.mpr fun ev hev => by simp [ht ev hev]
  have hh : ∀ j, (q.append t).heard j = q.heard j := fun j => by
    show ((q.trace ++ t).events ++ _).filter _ = _
    rw [Trace.events_append, List.filter_append, List.filter_append, hnone, List.append_nil,
      ← List.filter_append]
    rfl
  refine ⟨m.plain, fun j => ?_, fun hr j => ?_⟩
  · rw [hh]
    exact m.heard j
  · rw [hh]
    exact m.whole hr j

theorem Mailed.log (m : q.Mailed) (r : LogRecord) : (q.log r).Mailed :=
  m.append fun _ hev => absurd hev List.not_mem_nil

lemma wake_eq (q : Queue α) (t : Task) :
    q.wake t = { q with ready := if t ∈ q.ready then q.ready else q.ready ++ [t] } := by
  unfold wake
  split <;> rfl

/-- Two queues tell the same of requests, permits and calls. -/
structure Alike (q q' : Queue α) : Prop where
  hooks : q'.hooks = q.hooks
  status : q'.successStatus = q.successStatus
  entries : q'.entries = q.entries
  limiter : q'.limiter = q.limiter
  active : q'.active = q.active
  calls : q'.calls = q.calls

theorem Alike.refl (q : Queue α) : q.Alike q := ⟨rfl, rfl, rfl, rfl, rfl, rfl⟩

theorem Extends.congr {q' : Queue α} (x : q₀.Extends q) (a : q.Alike q') : q₀.Extends q' := by
  refine ⟨a.hooks.trans x.hooks, a.status.trans x.status, ?_, ?_⟩
  · unfold maxConcurrent
    rw [a.limiter]
    exact x.cap
  · rw [a.entries]
    exact x.entries

theorem Sound.congr {q' : Queue α} (s : q.Sound) (a : q.Alike q') (hm : q'.Mailed) : q'.Sound := by
  obtain ⟨⟩ := q
  obtain ⟨⟩ := q'
  obtain ⟨hh, hs, he, hl, ha, hc⟩ := a
  dsimp only at hh hs he hl ha hc
  subst hh hs he hl ha hc
  exact ⟨s.stories, s.permits, s.awaits, ⟨s.recorded.1, s.recorded.2⟩, s.nodup,
    s.active, s.limited, hm⟩

lemma alike_wake (q : Queue α) (t : Task) : q.Alike (q.wake t) := by
  rw [wake_eq]
  exact ⟨rfl, rfl, rfl, rfl, rfl, rfl⟩

lemma alike_wakeReader (q : Queue α) : q.Alike q.wakeReader := by
  unfold wakeReader
  split
  · exact alike_wake q _
  · exact .refl q

lemma alike_noticePosters (q : Queue α) : q.Alike q.noticePosters := by
  unfold noticePosters
  split
  · exact .refl q
  · exact alike_wakeReader q

theorem Mailed.wake (m : q.Mailed) (t : Task) : (q.wake t).Mailed := by
  rw [wake_eq]
  exact ⟨m.plain, m.heard, m.whole⟩

theorem Mailed.wakeReader (m : q.Mailed) : q.wakeReader.Mailed := by
  unfold Queue.wakeReader
  split
  · exact m.wake _
  · exact m

theorem Mailed.noticePosters (m : q.Mailed) : q.noticePosters.Mailed := by
  unfold Queue.noticePosters
  split
  · exact m
  · exact m.wakeReader

namespace Polling

/-- What a queue tells of other things than requests, permits and calls makes no difference, as
long as no callback comes from nowhere. -/
theorem congr {q' : Queue α} (p : q₀.Polling q i e h) (a : q.Alike q') (hm : q'.Mailed) :
    q₀.Polling q' i e h := by
  obtain ⟨⟩ := q
  obtain ⟨⟩ := q'
  obtain ⟨hh, hs, he, hl, ha, hc⟩ := a
  dsimp only at hh hs he hl ha hc
  subst hh hs he hl ha hc
  exact { p with
    recorded := ⟨p.recorded.1, p.recorded.2⟩
    mailed := hm
    grown := ⟨p.grown.1, p.grown.2, p.grown.3, p.grown.4⟩ }

theorem append (p : q₀.Polling q i e h) {t : Trace (QueueEvent α)}
    (ht : ∀ ev ∈ t.events, ev.owner? = none) : q₀.Polling (q.append t) i e h :=
  p.congr ⟨rfl, rfl, rfl, rfl, rfl, rfl⟩ (p.mailed.append ht)

theorem log (p : q₀.Polling q i e h) (r : LogRecord) : q₀.Polling (q.log r) i e h :=
  p.append fun _ hev => absurd hev List.not_mem_nil

theorem emit (p : q₀.Polling q i e h) {ev : QueueEvent α} (hev : ev.owner? = none) :
    q₀.Polling (q.emit ev) i e h :=
  p.append fun _ hmem => List.mem_singleton.mp hmem ▸ hev

theorem wake (p : q₀.Polling q i e h) (t : Task) : q₀.Polling (q.wake t) i e h :=
  p.congr (alike_wake q t) (p.mailed.wake t)

theorem wakeWaiting (p : q₀.Polling q i e h) (j : Nat) : q₀.Polling (q.wakeWaiting j) i e h := by
  unfold Queue.wakeWaiting
  split
  · split
    · exact p.wake _
    · exact p
  · exact p

end Polling

/-! ### The polled entry -/

lemma getElem?_modify_self {f : Entry α → Entry α} (he : q.entries[i]? = some e) :
    (q.modify i f).entries[i]? = some (f e) := by
  unfold modify
  rw [List.getElem?_modify, he]
  simp

lemma getElem?_modify_of_ne {f : Entry α → Entry α} {j : Nat} (hj : j ≠ i) :
    (q.modify i f).entries[j]? = q.entries[j]? := by
  unfold modify
  rw [List.getElem?_modify]
  simp [hj.symm]

lemma length_modify (f : Entry α → Entry α) : (q.modify i f).entries.length = q.entries.length :=
  List.length_modify ..

lemma handsWith_modify (f : Entry α → Entry α) :
    (q.modify i f).handsWith i h = q.handsWith i h := by
  funext j
  unfold handsWith
  rcases eq_or_ne j i with rfl | hj
  · rw [Function.update_self, Function.update_self]
  · rw [Function.update_of_ne hj, Function.update_of_ne hj]
    unfold hands
    rw [getElem?_modify_of_ne hj]

lemma handsWith_note (d : Deed α) : (q.note i d).handsWith i h = q.handsWith i h :=
  handsWith_modify _

/-- An entry that is changed goes on with its story if deeds are only added. -/
theorem Extends.modify {f : Entry α → Entry α} {ds : List (Deed α)}
    (he : q.entries[i]? = some e) (hr : (f e).request = e.request)
    (hd : (f e).deeds = e.deeds ++ ds) : q.Extends (q.modify i f) := by
  refine ⟨rfl, rfl, rfl, fun j e' he' => ?_⟩
  rcases eq_or_ne j i with rfl | hj
  · rw [he] at he'
    cases he'
    exact ⟨f e, getElem?_modify_self he, hr, hd ▸ List.prefix_append ..⟩
  · exact ⟨e', by rw [getElem?_modify_of_ne hj, he'], rfl, List.prefix_refl _⟩

lemma posted_modify {f : Entry α → Entry α} {ds : List (Deed α)} (he : q.entries[i]? = some e)
    (hd : (f e).deeds = e.deeds ++ ds) (hds : ds.filterMap Deed.callback? = []) (j : Nat) :
    (q.modify i f).posted j = q.posted j := by
  unfold posted
  rcases eq_or_ne j i with rfl | hj
  · rw [getElem?_modify_self he, he]
    show (f e).deeds.filterMap _ = e.deeds.filterMap _
    rw [hd, List.filterMap_append, hds, List.append_nil]
  · rw [getElem?_modify_of_ne hj]

/-- A deed that calls do not matter to, or that a call of the queue bears out. -/
theorem Recorded.modify {f : Entry α → Entry α} {ds : List (Deed α)} (r : q.Recorded)
    (he : q.entries[i]? = some e) (hr : (f e).request = e.request)
    (hd : (f e).deeds = e.deeds ++ ds) (hw : ∀ d ∈ ds, q.Witnessed i d) :
    (q.modify i f).Recorded := by
  refine ⟨fun c k hk => ?_, fun j e' he' d hmem => ?_⟩
  · obtain ⟨e', he', hmem⟩ := r.placed c k hk
    obtain ⟨e'', he'', -, hp⟩ := (Extends.modify he hr hd).entries _ _ he'
    exact ⟨e'', he'', hp.subset hmem⟩
  show q.Witnessed j d
  rcases eq_or_ne j i with rfl | hj
  · cases he'.symm.trans (getElem?_modify_self he)
    rw [hd, List.mem_append] at hmem
    rcases hmem with hmem | hmem
    · exact r.witnessed j e he d hmem
    · exact hw d hmem
  · rw [getElem?_modify_of_ne hj] at he'
    exact r.witnessed j e' he' d hmem

namespace Polling

/-- The polled entry may change, and deeds may be added that the calls bear out, along with what
has nothing to do with requests, permits and calls. -/
theorem reshape {f : Entry α → Entry α} {q' : Queue α} (ds : List (Deed α))
    (p : q₀.Polling q i e h) (hr : (f e).request = e.request) (hd : (f e).deeds = e.deeds ++ ds)
    (hw : ∀ d ∈ ds, q.Witnessed i d) (a : (q.modify i f).Alike q') (hm : q'.Mailed) :
    q₀.Polling q' i (f e) h := by
  obtain ⟨⟩ := q'
  obtain ⟨hh, hs, he, hl, ha, hc⟩ := a
  dsimp only at hh hs he hl ha hc
  subst hh hs he hl ha hc
  have hx : q.Extends (q.modify i f) := .modify p.here hr hd
  have hrec : (q.modify i f).Recorded := p.recorded.modify p.here hr hd hw
  refine ⟨getElem?_modify_self p.here, fun j e' hj he' => ?_, ?_, fun c j => ?_,
    ⟨hrec.1, hrec.2⟩, p.nodup, p.lives, fun j hj => ?_, fun j e' hj he' => ?_, hm,
    p.grown.trans ⟨hx.1, hx.2, hx.3, hx.4⟩⟩
  · exact p.others j e' hj ((getElem?_modify_of_ne hj).symm.trans he')
  · show ∀ l, q.limiter = some l →
      l.Keeps (q.modify i f).entries.length ((q.modify i f).handsWith i h)
    rw [handsWith_modify, length_modify]
    exact p.permits
  · show _ ↔ ((q.modify i f).handsWith i h j).call = some c
    rw [handsWith_modify]
    exact p.awaits c j
  · show _ ↔ ∃ e, (q.modify i f).entries[j]? = some e ∧ _
    rw [getElem?_modify_of_ne hj]
    exact p.active j hj
  · exact p.limited j e' hj ((getElem?_modify_of_ne hj).symm.trans he')

theorem modify {f : Entry α → Entry α} (ds : List (Deed α)) (p : q₀.Polling q i e h)
    (hr : (f e).request = e.request) (hd : (f e).deeds = e.deeds ++ ds)
    (hw : ∀ d ∈ ds, q.Witnessed i d) (hds : ds.filterMap Deed.callback? = []) :
    q₀.Polling (q.modify i f) i (f e) h :=
  p.reshape ds hr hd hw (.refl _) (p.mailed.mono (posted_modify p.here hd hds) rfl rfl)

theorem note (p : q₀.Polling q i e h) (d : Deed α) (hd : q.Witnessed i d)
    (hc : d.callback? = none) : q₀.Polling (q.note i d) i (e.after [d]) h :=
  p.modify [d] rfl rfl (fun _ hmem => List.mem_singleton.mp hmem ▸ hd)
    (List.filterMap_cons_none hc)

theorem alter {f : Entry α → Entry α} (p : q₀.Polling q i e h) (hr : (f e).request = e.request)
    (hd : (f e).deeds = e.deeds) : q₀.Polling (q.modify i f) i (f e) h :=
  p.modify [] hr (hd.trans (List.append_nil _).symm) (fun _ hd => absurd hd List.not_mem_nil) rfl

theorem deliver (p : q₀.Polling q i e h) (o : Outcome α) :
    q₀.Polling (q.deliver i o) i (e.after [.delivered o]) h :=
  p.note _ trivial rfl

theorem setStage (p : q₀.Polling q i e h) (s : Stage) :
    q₀.Polling (q.setStage i s) i { e with stage := s } h :=
  p.alter rfl rfl

theorem move (p : q₀.Polling q i e h) (p' : Phase) :
    q₀.Polling ((q.setPhase i p').note i (.moved e.phase p')) i
      (e.into p' [.moved e.phase p']) h :=
  (p.alter (f := fun e => { e with phase := p' }) rfl rfl).note _ trivial rfl

end Polling

lemma exchange_of_took {step : Phase → Bool × Phase} {p' : Phase}
    (he : q.entries[i]? = some e) (hs : step e.phase = (true, p')) :
    q.exchange i step = (true, (q.setPhase i p').note i (.moved e.phase p')) := by
  have hp : q.phase? i = some e.phase := by
    unfold phase?
    rw [he]
    rfl
  unfold exchange
  rw [hp]
  dsimp only
  rw [hs]

lemma exchange_of_refused {step : Phase → Bool × Phase} {p' : Phase}
    (he : q.entries[i]? = some e) (hs : step e.phase = (false, p')) :
    q.exchange i step = (false, q) := by
  have hp : q.phase? i = some e.phase := by
    unfold phase?
    rw [he]
    rfl
  unfold exchange
  rw [hp]
  dsimp only
  rw [hs]

/-! ### Calls -/

section Calls

variable {f : Call → Call} {c c' : Nat} {k : Call} {a : Answer}

lemma getElem?_modifyCall : (q.modifyCall c f).calls[c']? =
    (q.calls[c']?).map fun k => if c = c' then f k else k :=
  List.getElem?_modify ..

lemma getElem?_modifyCall_eq_some : (q.modifyCall c f).calls[c']? = some k ↔
    ∃ k', q.calls[c']? = some k' ∧ k = if c = c' then f k' else k' := by
  rw [getElem?_modifyCall, Option.map_eq_some_iff]
  simp [eq_comm]

lemma getElem?_modifyCall_self (hk : q.calls[c]? = some k) :
    (q.modifyCall c f).calls[c]? = some (f k) := by
  rw [getElem?_modifyCall, hk, Option.map_some, if_pos rfl]

/-- The call of a worker that takes its answer bears the answer out. -/
lemma witnessed_unawait (hk : q.calls[c]? = some k) (hi : k.sender = i)
    (ha : k.answer = some a) : (q.unawait c).Witnessed i (.answered c a) :=
  ⟨{ k with awaited := false }, getElem?_modifyCall_self hk, hi, rfl, ha⟩

end Calls

end Courier.Queue
