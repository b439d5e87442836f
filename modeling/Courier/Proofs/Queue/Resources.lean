import Courier.Proofs.Queue.Changes

/-!
What a polled worker has in hand: calls that it places and stops waiting for, a permit that it takes
and gives back, and a place in line.  Each change of hands keeps the invariant of a poll, and a
worker that ends with empty hands leaves a sound queue behind.
-/

namespace Courier.Queue

variable {α : Type} {q q₀ : Queue α} {i : Nat} {e : Entry α} {h h' : Hand}

/-! ### Calls -/

lemma awaits_append {k : Call} {c j : Nat} :
    (∃ k', (q.calls ++ [k])[c]? = some k' ∧ k'.sender = j ∧ k'.awaited = true) ↔
      q.Awaits c j ∨ c = q.calls.length ∧ k.sender = j ∧ k.awaited = true := by
  unfold Awaits
  rcases Nat.lt_trichotomy c q.calls.length with hc | rfl | hc
  · rw [List.getElem?_append_left hc]
    exact ⟨.inl, fun h => h.resolve_right fun h => by omega⟩
  · rw [List.getElem?_concat_length, List.getElem?_eq_none (Nat.le_refl _)]
    simp
  · rw [List.getElem?_eq_none (by simp; omega), List.getElem?_eq_none (by omega)]
    simp
    omega

theorem Extends.withLimiter {l l' : Limiter} (hl : q.limiter = some l)
    (hcap : l'.capacity = l.capacity) : q.Extends { q with limiter := some l' } := by
  refine ⟨rfl, rfl, ?_, (Extends.refl q).entries⟩
  unfold maxConcurrent
  rw [hl]
  exact congrArg some hcap

theorem Extends.place (he : q.entries[i]? = some e) (k : Call) (d : Deed α) :
    q.Extends ((q.addCall k).note i d) := by
  have hx : q.Extends (q.note i d) := .modify he rfl rfl
  exact ⟨hx.hooks, hx.status, hx.cap, hx.entries⟩

theorem Witnessed.addCall {d : Deed α} {j : Nat} (hw : q.Witnessed j d) (k : Call) :
    (q.addCall k).Witnessed j d := by
  have hkeep : ∀ (c : Nat) (k' : Call), q.calls[c]? = some k' →
      (q.calls ++ [k])[c]? = some k' := fun c k' hk' => by
    rw [List.getElem?_append_left (List.getElem?_eq_some_iff.mp hk').1, hk']
  cases d <;> try exact trivial
  · obtain ⟨k', hk', hs⟩ := hw
    exact ⟨k', hkeep _ k' hk', hs⟩
  · obtain ⟨k', hk', hs⟩ := hw
    exact ⟨k', hkeep _ k' hk', hs⟩

theorem Recorded.place {k : Call} (r : q.Recorded) (he : q.entries[i]? = some e)
    (hk : k.sender = i) :
    ((q.addCall k).note i (.sent q.calls.length k.request)).Recorded := by
  subst hk
  have hself := getElem?_modify_self (f := fun e : Entry α =>
    { e with deeds := e.deeds ++ [.sent q.calls.length k.request] }) he
  refine ⟨fun c k' hk' => ?_, fun j e' he' d hmem => ?_⟩
  · rcases Nat.lt_or_ge c q.calls.length with hc | hc
    · obtain ⟨e', he', hmem⟩ := r.placed c k' ((List.getElem?_append_left hc).symm.trans hk')
      obtain ⟨e'', he'', -, hp⟩ := (Extends.place he k _).entries _ _ he'
      exact ⟨e'', he'', hp.subset hmem⟩
    · have hlen : c < (q.calls ++ [k]).length := (List.getElem?_eq_some_iff.mp hk').1
      rw [List.length_append, List.length_singleton] at hlen
      obtain rfl : c = q.calls.length := by omega
      cases hk'.symm.trans (List.getElem?_concat_length ..)
      exact ⟨_, hself, List.mem_append_right _ (List.mem_singleton_self _)⟩
  show (q.addCall k).Witnessed j d
  rcases eq_or_ne j k.sender with rfl | hj
  · cases he'.symm.trans hself
    rcases List.mem_append.mp hmem with hmem | hmem
    · exact (r.witnessed _ e he d hmem).addCall k
    · rw [List.mem_singleton.mp hmem]
      exact ⟨k, List.getElem?_concat_length .., rfl, rfl⟩
  · exact (r.witnessed j e' ((getElem?_modify_of_ne hj).symm.trans he') d hmem).addCall k

namespace Polling

lemma handsWith_self : q.handsWith i h i = h := Function.update_self ..

lemma handsWith_of_ne {j : Nat} (hj : j ≠ i) : q.handsWith i h j = q.hands j :=
  Function.update_of_ne hj ..

lemma call_handsWith (hc : h'.call = h.call) (j : Nat) :
    (q.handsWith i h' j).call = (q.handsWith i h j).call := by
  rcases eq_or_ne j i with rfl | hj
  · rw [handsWith_self, handsWith_self, hc]
  · rw [handsWith_of_ne hj, handsWith_of_ne hj]

/-- A call placed: the worker waits for its answer unless the answer is there at once. -/
theorem place (p : q₀.Polling q i e h) (r : Http.Request) (a : Option Answer)
    (hc : h.call = none) :
    q₀.Polling (q.place i r a) i (e.after [.sent q.calls.length r])
      { h with call := if a.isNone then some q.calls.length else none } := by
  have hx := Extends.place p.here ⟨r, i, a.isNone, a, false⟩ (.sent q.calls.length r)
  have hrec := p.recorded.place (k := ⟨r, i, a.isNone, a, false⟩) p.here rfl
  have hother : ∀ j : Nat, j ≠ i → (q.note i (.sent q.calls.length r)).entries[j]? =
      q.entries[j]? := fun j hj => getElem?_modify_of_ne hj
  have hlen : (q.note i (.sent q.calls.length r)).entries.length = q.entries.length :=
    length_modify _
  unfold Queue.place
  refine emit ?_ rfl
  refine ⟨getElem?_modify_self p.here, fun j e' hj he' => ?_, fun l hl => ?_, fun c j => ?_, hrec,
    p.nodup, p.lives, fun j hj => ?_, fun j e' hj he' => ?_, ?_, p.grown.trans hx⟩
  · exact p.others j e' hj ((hother j hj).symm.trans he')
  · show l.Keeps (q.note i (.sent q.calls.length r)).entries.length
      ((q.note i (.sent q.calls.length r)).handsWith i _)
    rw [hlen, handsWith_note]
    exact (p.permits l hl).congr rfl rfl
  · refine awaits_append.trans ?_
    show _ ↔ ((q.note i (.sent q.calls.length r)).handsWith i _ j).call = some c
    rw [handsWith_note, p.awaits c j]
    rcases eq_or_ne j i with rfl | hj
    · rw [handsWith_self, handsWith_self, hc]
      cases a <;> simp [eq_comm]
    · rw [handsWith_of_ne hj, handsWith_of_ne hj]
      exact or_iff_left fun hn => hj hn.2.1.symm
  · show j ∈ q.active ↔ ∃ e, (q.note i (.sent q.calls.length r)).entries[j]? = some e ∧ _
    rw [hother j hj]
    exact p.active j hj
  · exact p.limited j e' hj ((hother j hj).symm.trans he')
  · exact p.mailed.mono (posted_modify (q := q) p.here rfl rfl) rfl rfl

/-- The worker takes the answer to its call, or gives the call up: nobody waits any more. -/
theorem unawait {c : Nat} (p : q₀.Polling q i e h) (hc : h.call = some c) :
    q₀.Polling (q.unawait c) i e { h with call := none } := by
  -- the calls are the same but for the flag of this one
  have hcalls : ∀ (c' : Nat) (k : Call), (q.unawait c).calls[c']? = some k ↔
      ∃ k', q.calls[c']? = some k' ∧ k = if c = c' then { k' with awaited := false } else k' :=
    fun _ _ => getElem?_modifyCall_eq_some
  refine ⟨p.here, p.others, fun l hl => (p.permits l hl).congr rfl rfl, fun c' j => ?_,
    ⟨fun c' k hk => ?_, fun j e' he' d hd => ?_⟩, p.nodup, p.lives, p.active, p.limited,
    ⟨p.mailed.1, p.mailed.2, p.mailed.3⟩, ⟨p.grown.1, p.grown.2, p.grown.3, p.grown.4⟩⟩
  · have haw : (q.unawait c).Awaits c' j ↔ c ≠ c' ∧ q.Awaits c' j := by
      unfold Awaits
      constructor
      · rintro ⟨k, hk, hs, ha⟩
        obtain ⟨k', hk', rfl⟩ := (hcalls c' k).mp hk
        split at ha
        · cases ha
        · rename_i hne
          rw [if_neg hne] at hs
          exact ⟨hne, k', hk', hs, ha⟩
      · rintro ⟨hne, k, hk, hs, ha⟩
        exact ⟨k, (hcalls c' k).mpr ⟨k, hk, (if_neg hne).symm⟩, hs, ha⟩
    rw [haw, p.awaits c' j]
    show _ ↔ (q.handsWith i _ j).call = some c'
    rcases eq_or_ne j i with rfl | hj
    · rw [handsWith_self, handsWith_self, hc]
      simp
    · rw [handsWith_of_ne hj, handsWith_of_ne hj]
      refine and_iff_right_of_imp fun hj' hcc => hj ?_
      -- two workers cannot wait for one call
      obtain ⟨k, hk, hs, -⟩ := (p.awaits c' j).mpr (by rw [handsWith_of_ne hj, hj'])
      obtain ⟨k', hk', hs', -⟩ := (p.awaits c i).mpr (by rw [handsWith_self, hc])
      rw [hcc] at hk'
      cases hk.symm.trans hk'
      exact hs.symm.trans hs'
  · obtain ⟨k', hk', rfl⟩ := (hcalls c' k).mp hk
    have hp := p.recorded.placed c' k' hk'
    split <;> exact hp
  · have hw := p.recorded.witnessed j e' he' d hd
    cases d <;> try exact trivial
    · obtain ⟨k, hk, hs, hr⟩ := hw
      refine ⟨_, (hcalls _ _).mpr ⟨k, hk, rfl⟩, ?_⟩
      split <;> exact ⟨hs, hr⟩
    · obtain ⟨k, hk, hs, ha⟩ := hw
      refine ⟨_, (hcalls _ _).mpr ⟨k, hk, rfl⟩, ?_⟩
      split
      · exact ⟨hs, rfl, ha.2⟩
      · exact ⟨hs, ha⟩

theorem abort {c : Nat} (p : q₀.Polling q i e h) (hc : h.call = some c) :
    q₀.Polling (q.abort i c) i (e.after [.aborted c]) { h with call := none } := by
  have p₁ := (p.unawait hc).note (.aborted c) trivial rfl
  unfold Queue.abort
  exact p₁.emit rfl

/-! ### Permits -/

lemma lt_length (p : q₀.Polling q i e h) : i < q.entries.length :=
  (List.getElem?_eq_some_iff.mp p.here).1

lemma update_handsWith : Function.update (q.handsWith i h) i h' = q.handsWith i h' :=
  Function.update_idem ..

/-- The limiter changes along with the hand of the polled worker. -/
theorem withLimiter {l l' : Limiter} (p : q₀.Polling q i e h) (hl : q.limiter = some l)
    (hcap : l'.capacity = l.capacity) (hc : h'.call = h.call)
    (hk : l'.Keeps q.entries.length (q.handsWith i h')) :
    q₀.Polling { q with limiter := some l' } i e h' := by
  refine ⟨p.here, p.others, fun l' hl' => ?_, fun c j => ?_,
    ⟨p.recorded.1, p.recorded.2⟩, p.nodup, p.lives, p.active, fun _ _ _ _ _ => nofun,
    ⟨p.mailed.1, p.mailed.2, p.mailed.3⟩, p.grown.trans (.withLimiter hl hcap)⟩
  · cases hl'
    exact hk
  · show q.Awaits c j ↔ (q.handsWith i h' j).call = some c
    rw [call_handsWith hc]
    exact p.awaits c j

theorem unlimited (p : q₀.Polling q i e h) (hl : q.limiter = none) (hc : h'.call = h.call) :
    q₀.Polling q i e h' := by
  refine { p with permits := fun l hl' => ?_, awaits := fun c j => ?_ }
  · rw [hl] at hl'
    cases hl'
  · rw [call_handsWith hc]
    exact p.awaits c j

theorem take {l l' : Limiter} (p : q₀.Polling q i e h) (hl : q.limiter = some l)
    (ht : l.take? = some l') (hp : h.permit = false) (hn : h.inLine = false) :
    q₀.Polling { q with limiter := some l' } i e { h with permit := true } := by
  refine p.withLimiter hl (Limiter.capacity_of_take ht) rfl ?_
  rw [← update_handsWith (h := h)]
  refine (p.permits l hl).take ht p.lt_length ?_ ?_ rfl hn
  · exact handsWith_self (q := q) ▸ hp
  · exact handsWith_self (q := q) ▸ hn

theorem join {l : Limiter} (p : q₀.Polling q i e h) (hl : q.limiter = some l)
    (hp : h.permit = false) (hn : h.inLine = false) :
    q₀.Polling { q with limiter := some (l.join i) } i e { h with inLine := true } := by
  refine p.withLimiter hl rfl rfl ?_
  rw [← update_handsWith (h := h)]
  refine (p.permits l hl).join p.lt_length ?_ ?_ hp rfl
  · exact handsWith_self (q := q) ▸ hp
  · exact handsWith_self (q := q) ▸ hn

theorem leave {l : Limiter} (p : q₀.Polling q i e h) (hl : q.limiter = some l) :
    q₀.Polling { q with limiter := some (l.leave i) } i e { h with inLine := false } := by
  refine p.withLimiter hl rfl rfl ?_
  rw [← update_handsWith (h := h)]
  refine (p.permits l hl).leave ?_ rfl
  rw [handsWith_self]

end Polling

/-- A worker that has not begun goes on with its story wherever it waits before it begins. -/
lemma live_of_early {s : Stage} (live : e.Live) (he : e.stage.isEarly = true)
    (hs : s.isEarly = true) : ({ e with stage := s } : Entry α).Live := by
  rcases live.of_early he with ⟨url, is⟩ | is
  · exact .waiting hs url ⟨is.1, is.2, is.3⟩
  · exact .calledOff hs ⟨is.1, is.2, is.3⟩

lemma story_of_granted {hooks : List Hook} {status : UInt16} {j : Nat}
    (s : e.Story hooks status j) (hs : e.stage = .inLine) :
    ({ e with stage := .granted } : Entry α).Story hooks status j := by
  rcases s with live | ⟨hended, -⟩
  · exact .inl (live_of_early live (by rw [hs]; rfl) rfl)
  · cases hs.symm.trans hended

namespace Polling

/-- A permit handed to the first in line. -/
theorem grant {l₀ l : Limiter} {j : Nat} {eⱼ : Entry α} (p : q₀.Polling q i e h)
    (hl : q.limiter = some l₀) (hcap : l.capacity = l₀.capacity) (hj : j ≠ i)
    (he : q.entries[j]? = some eⱼ) (hs : eⱼ.stage = .inLine) (hc : h'.call = h.call)
    (hk : l.Keeps q.entries.length (Function.update (q.handsWith i h') j Stage.granted.hand)) :
    q₀.Polling ({ q with limiter := some l }.setStage j .granted) i e h' := by
  have hgrown : q.Extends ({ q with limiter := some l }.setStage j .granted) :=
    (Extends.withLimiter hl hcap).trans (.modify he rfl (List.append_nil _).symm)
  have hself : ({ q with limiter := some l }.setStage j .granted).entries[j]? =
      some { eⱼ with stage := .granted } := getElem?_modify_self (q := q) he
  have hne : ∀ x, x ≠ j → ({ q with limiter := some l }.setStage j .granted).entries[x]? =
      q.entries[x]? := fun x hx => getElem?_modify_of_ne (q := q) hx
  -- only the hand of the worker that got the permit is another
  have hw : ({ q with limiter := some l }.setStage j .granted).handsWith i h' =
      Function.update (q.handsWith i h') j Stage.granted.hand := by
    funext x
    rcases eq_or_ne x i with rfl | hxi
    · rw [handsWith_self, Function.update_of_ne hj.symm, handsWith_self]
    · rw [handsWith_of_ne hxi]
      rcases eq_or_ne x j with rfl | hxj
      · rw [Function.update_self, hands_of_entry hself]
      · rw [Function.update_of_ne hxj, handsWith_of_ne hxi]
        unfold hands
        rw [hne x hxj]
  have hrec : ({ q with limiter := some l }.setStage j .granted).Recorded := by
    obtain ⟨h₁, h₂⟩ := p.recorded.modify (f := fun e : Entry α => { e with stage := .granted })
      he rfl (List.append_nil _).symm fun _ hd => absurd hd List.not_mem_nil
    exact ⟨h₁, h₂⟩
  refine ⟨(hne i hj.symm).trans p.here, fun x e' hx he' => ?_, fun l' hl' => ?_, fun c x => ?_,
    hrec, p.nodup, p.lives, fun x hx => ?_, fun _ _ _ _ _ => nofun,
    p.mailed.mono (posted_modify (q := q) he (List.append_nil _).symm rfl) rfl rfl,
    p.grown.trans hgrown⟩
  · rcases eq_or_ne x j with rfl | hxj
    · cases hself.symm.trans he'
      exact story_of_granted (p.others x eⱼ hx he) hs
    · exact p.others x e' hx ((hne x hxj).symm.trans he')
  · cases hl'
    rw [hw]
    show l.Keeps (q.modify j _).entries.length _
    rw [length_modify]
    exact hk
  · rw [hw]
    refine (p.awaits c x).trans ?_
    rw [← call_handsWith hc]
    rcases eq_or_ne x j with rfl | hxj
    · rw [Function.update_self, handsWith_of_ne hj, hands_of_entry he, hs]
      rfl
    · rw [Function.update_of_ne hxj]
  · rcases eq_or_ne x j with rfl | hxj
    · refine (p.active x hx).trans ?_
      rw [hself, he]
      simp [hs]
    · rw [hne x hxj]
      exact p.active x hx

end Polling

/-! ### The permit given back -/

/-- Who waits in line is another worker than `i`, and it waits there. -/
def Lined (q : Queue α) (i : Nat) : Prop :=
  ∀ l, q.limiter = some l → ∀ j ∈ l.line, j ≠ i ∧
    ∃ e : Entry α, q.entries[j]? = some e ∧ e.stage = .inLine

theorem Polling.lined (p : q₀.Polling q i e h) (hn : h.inLine = false) : q.Lined i := by
  intro l hl j hj
  have hin : (q.handsWith i h j).inLine = true := ((p.permits l hl).line j).mp hj
  have hne : j ≠ i := by
    rintro rfl
    rw [handsWith_self, hn] at hin
    cases hin
  rw [handsWith_of_ne hne] at hin
  exact ⟨hne, entry_of_inLine hin⟩

lemma release_of_none (hl : q.limiter = none) : q.release = q := by
  unfold release
  rw [hl]

lemma release_of_nil {l : Limiter} (hl : q.limiter = some l) (hline : l.line = []) :
    q.release = { q with limiter := some { l with free := l.free + 1 } } := by
  unfold release Limiter.release
  rw [hl]
  dsimp only
  rw [hline]

lemma release_of_cons {l : Limiter} {j : Nat} {rest : List Nat} (hl : q.limiter = some l)
    (hline : l.line = j :: rest) : q.release =
      ({ q with limiter := some { l with line := rest } }.setStage j .granted).wake (.worker j) := by
  unfold release Limiter.release
  rw [hl]
  dsimp only
  rw [hline]

/-- The permit given back; who is first in line gets it. -/
theorem Polling.release (p : q₀.Polling q i e h) (hp : h.permit = true)
    (hn : h.inLine = false) : q₀.Polling q.release i e { h with permit := false } := by
  have hself : (q.handsWith i h i).permit = true := by
    rw [handsWith_self, hp]
  cases hl : q.limiter with
  | none =>
    rw [release_of_none hl]
    exact p.unlimited hl rfl
  | some l =>
    have hk := p.permits l hl
    cases hline : l.line with
    | nil =>
      rw [release_of_nil hl hline]
      refine p.withLimiter hl rfl rfl ?_
      rw [← update_handsWith (h := h)]
      exact hk.giveBack p.lt_length hself rfl hn
    | cons j rest =>
      obtain ⟨hj, eⱼ, heⱼ, hs⟩ := p.lined hn l hl j (by rw [hline]; exact List.mem_cons_self ..)
      rw [release_of_cons hl hline]
      have hc : ({ h with permit := false } : Hand).call = h.call := rfl
      refine (p.grant (l := { l with line := rest }) hl rfl hj heⱼ hs hc ?_).wake _
      rw [← update_handsWith (h := h)]
      exact hk.release_of_cons p.lt_length hself rfl hn hline rfl rfl

/-! ### The end of a worker -/

/-- A step led from `q₀` to `q`, and the worker `i` is done. -/
structure Ended (q₀ q : Queue α) (i : Nat) : Prop extends q₀.Advances q where
  ended : ∃ e : Entry α, q.entries[i]? = some e ∧ e.stage = .ended

lemma over_of_stage {hooks : List Hook} {status : UInt16} (o : e.Over hooks status i) (s : Stage) :
    ({ e with stage := s } : Entry α).Over hooks status i := by
  cases o with
  | calledOff is => exact .calledOff ⟨is.1, is.2, is.3⟩
  | unsent fault acc fails is => exact .unsent fault acc fails ⟨is.1, is.2, is.3⟩
  | left c r sends is => exact .left c r sends ⟨is.1, is.2, is.3⟩
  | completed c r a v n acc sends judged stays is =>
    exact .completed c r a v n acc sends judged stays ⟨is.1, is.2, is.3⟩
  | failed c r a f n acc sends judged stays is =>
    exact .failed c r a f n acc sends judged stays ⟨is.1, is.2, is.3⟩
  | withdrawn c r a sends judged cancels is =>
    exact .withdrawn c r a sends judged cancels ⟨is.1, is.2, is.3⟩

namespace Polling

/-- A worker that ended with empty hands is no longer active, and the queue is at rest. -/
theorem unlist (p : q₀.Polling q i e {}) (hs : e.stage = .ended)
    (past : e.Over q₀.hooks q₀.successStatus i) :
    q₀.Ended (q.unlist i) i := by
  have hw : q.handsWith i {} = q.hands := by
    have hi : q.hands i = {} := by
      rw [hands_of_entry p.here, hs]
      rfl
    unfold handsWith
    rw [← hi, Function.update_eq_self]
  rw [← p.grown.hooks, ← p.grown.status] at past
  refine ⟨⟨⟨fun j e' he' => ?_, ?_, ?_, ⟨p.recorded.1, p.recorded.2⟩, p.nodup.erase i,
    fun j => ?_, fun j e' he' hq => ?_, ⟨p.mailed.1, p.mailed.2, p.mailed.3⟩⟩,
    ⟨p.grown.1, p.grown.2, p.grown.3, p.grown.4⟩⟩, e, p.here, hs⟩
  · rcases eq_or_ne j i with rfl | hj
    · cases p.here.symm.trans he'
      exact .inr ⟨hs, past⟩
    · exact p.others j e' hj he'
  · have hk := p.permits
    rw [hw] at hk
    exact hk
  · have ha := p.awaits
    rw [hw] at ha
    exact ha
  · show j ∈ q.active.erase i ↔ _
    rw [p.nodup.mem_erase_iff]
    rcases eq_or_ne j i with rfl | hj
    · refine iff_of_false (fun hm => hm.1 rfl) fun ⟨e', he', hne⟩ => hne ?_
      cases p.here.symm.trans he'
      exact hs
    · exact (and_iff_right hj).trans (p.active j hj)
  · rcases eq_or_ne j i with rfl | hj
    · cases p.here.symm.trans he'
      rw [hs] at hq
      cases hq
    · exact p.limited j e' hj he' hq

theorem releaseIf (p : q₀.Polling q i e h) (hn : h.inLine = false) :
    q₀.Polling (q.releaseIf h.permit) i e { h with permit := false } := by
  cases hp : h.permit with
  | true => exact p.release hp hn
  | false =>
    have hh : ({ h with permit := false } : Hand) = h := by
      rw [← hp]
    rw [hh]
    exact p

/-- The worker ends: its request has come to its end and it waits for nothing. -/
theorem retire (p : q₀.Polling q i e h) (past : e.Over q₀.hooks q₀.successStatus i)
    (hc : h.call = none) (hn : h.inLine = false) : q₀.Ended (q.retire i h.permit) i := by
  have p₁ := (p.setStage .ended).releaseIf hn
  have hh : ({ h with permit := false } : Hand) = {} := by
    rw [hc, hn]
  rw [hh] at p₁
  have settled := p₁.unlist rfl (over_of_stage past .ended)
  have a := alike_noticePosters (((q.setStage i .ended).releaseIf h.permit).unlist i)
  exact ⟨⟨settled.sound.congr a settled.sound.mailed.noticePosters, settled.grown.congr a⟩,
    a.entries ▸ settled.ended⟩

end Polling

end Courier.Queue
