import Courier.Proofs.Queue.Accounting
import Courier.Proofs.Queue.Isolation
import Courier.Proofs.Queue.Placing
import Courier.Proofs.Review.Ends

/-!
One request, one call, one URL.  A request is given to the transport once at most, after it was
begun and with a permit in hand.  The URL that the snapshot shows, the URL of the call and the URL
in the report of a breach are computed apart, and agree: they are the one to which the endpoint
resolves.  A request whose endpoint does not resolve is never given to the transport and fails with
the URL as it was written.
-/

namespace Courier

variable {α : Type}

/-! ### Endpoints -/

namespace Endpoint

variable {x : Endpoint} {u : Url} {fault : Fault}

lemma toRequest_of_resolved (h : x.resolve = .ok u) :
    x.toRequest = .ok ⟨x.method, u.text, x.headers, x.body⟩ := by
  unfold toRequest
  rw [h]
  rfl

lemma toRequest_of_fault (h : x.resolve = .error fault) : x.toRequest = .error fault := by
  unfold toRequest
  rw [h]
  rfl

lemma finalUrl_of_resolved (h : x.resolve = .ok u) : x.finalUrl = u.text := by
  unfold finalUrl
  rw [h]

lemma finalUrl_of_fault (h : x.resolve = .error fault) : x.finalUrl = x.url := by
  unfold finalUrl
  rw [h]

end Endpoint

namespace Request

variable {r : Request α} {x : Endpoint} {u : Url} {fault : Fault}

/-- The URL of a request as it was written, if it has an endpoint. -/
def rawUrl (r : Request α) : String := (r.endpoint.toOption.map Endpoint.url).getD ""

/-- A request whose endpoint does not resolve goes by the URL as it was written, and has nothing
that could go over the wire. -/
lemma of_unresolved (h : r.endpoint.bind Endpoint.resolve = .error fault) :
    r.url?.getD "" = r.rawUrl ∧ r.endpoint.bind Endpoint.toRequest = .error fault := by
  unfold url? rawUrl
  cases hx : r.endpoint with
  | error f =>
    rw [hx] at h
    cases h
    exact ⟨rfl, rfl⟩
  | ok x =>
    rw [hx] at h
    exact ⟨Endpoint.finalUrl_of_fault h, Endpoint.toRequest_of_fault h⟩

/-- A breach of the contract by the answer to a call is reported with the URL of the call. -/
lemma url_of_judged {status : UInt16} {url : String} {a : Answer} {f : ServiceError}
    (h : (r.judged status url a).1 = .failed (.service f)) : f.url = url := by
  cases a with
  | error e => cases h
  | ok response =>
    rcases (Review.names_ofResponse (some response)).verdict (fun _ => false) 0 with
      hv | ⟨x, hx, hv⟩
    · cases h.symm.trans hv
    · refine hx f ?_
      have heq : Review.verdictOf x = .failed (.service f) := hv.symm.trans h
      cases x <;> cases heq
      rfl

end Request

namespace Entry

open Deed

variable {e : Entry α} {hooks : List Hook} {status : UInt16} {i c : Nat} {r : Http.Request}

/-- The story of a request that is given to the transport starts with its beginning. -/
lemma Story.sending (story : e.Story hooks status i) (hd : sent c r ∈ e.deeds) :
    Deed.sending c r <+: e.deeds := by
  have hfirst : (∀ c r, sent c r ∉ e.deeds) ∨ ∃ c r, Deed.sending c r <+: e.deeds := by
    rcases story with live | ⟨-, past⟩
    · cases live with
      | waiting _ _ is => exact .inl (by simp [is.deeds])
      | calledOff _ is => exact .inl (by simp [is.deeds, withdrawal])
      | sending c r _ _ is => exact .inr ⟨c, r, is.deeds ▸ List.prefix_refl _⟩
      | leaving c r _ _ is => exact .inr ⟨c, r, is.deeds ▸ List.prefix_append ..⟩
    · have hlonger : ∀ {c r a n} {ds : List (Deed α)}, e.deeds = exchanged c r a n ++ ds →
          Deed.sending c r <+: e.deeds := by
        intro c r a n ds hds
        rw [hds, exchanged, List.append_assoc]
        exact List.prefix_append ..
      cases past with
      | calledOff is => exact .inl (by simp [is.deeds, withdrawal])
      | unsent fault accepted _ is =>
        exact .inl (by simp [is.deeds, failing, telling, sent_notMem_posting])
      | left c r _ is =>
        refine .inr ⟨c, r, ?_⟩
        rw [is.deeds, List.append_assoc]
        exact List.prefix_append ..
      | completed c r a v n accepted _ _ _ is => exact .inr ⟨c, r, hlonger is.deeds⟩
      | failed c r a f n accepted _ _ _ is => exact .inr ⟨c, r, hlonger is.deeds⟩
      | withdrawn c r a _ _ _ is =>
        exact .inr ⟨c, r, hlonger (is.deeds.trans (List.append_assoc ..))⟩
  rcases hfirst with hnone | ⟨c', r', hpre⟩
  · exact absurd hd (hnone c r)
  · have hd' : sent c' r' ∈ e.deeds := hpre.subset (by simp [Deed.sending])
    obtain rfl : c = c' := story.call_unique hd' hd
    have hr : Except.ok r = .ok r' := (story.sends hd).symm.trans (story.sends hd')
    cases hr
    exact hpre

/-- A request that failed by a breach of the contract reports the URL that it was sent to. -/
lemma Story.url_of_breach {f : ServiceError} (story : e.Story hooks status i)
    (ho : .failed (.service f) ∈ e.outcomes) : ∃ r, e.Sends r ∧ f.url = r.url := by
  have hs : e.stage = .ended := by
    by_contra hs
    rw [(story.live hs).path.2] at ho
    exact absurd ho List.not_mem_nil
  have past := story.past hs
  obtain ⟨-, o, hout, hp⟩ := past.path
  rw [hout, List.mem_singleton] at ho
  subst ho
  have hne : e.phase ≠ .cancelled := by
    rw [← hp]
    nofun
  rcases past.fated hne with ⟨fault, hfault, hfate⟩ | ⟨c, r, a, n, sends, -, -, -, hfate⟩
  · have h := (hout.symm.trans (hfate (.error ⟨"", ""⟩)))
    rw [Request.fate_of_fault hfault] at h
    cases h
  · refine ⟨r, sends, ?_⟩
    have h := hout.symm.trans hfate
    rw [Request.fate_of_sent sends] at h
    have hverdict : (e.request.judged status r.url a).1 = .failed (.service f) := by
      cases hv : (e.request.judged status r.url a).1 <;> rw [hv] at h <;> cases h
      rfl
    exact Request.url_of_judged hverdict

end Entry

namespace Queue

variable {q : Queue α} {s : Settings} {i c : Nat} {e : Entry α} {k : Call}

/-! ### Calls of a request -/

/-- The calls of a request are told in its story. -/
lemma Sound.sent_of_call (sound : q.Sound) (he : q.entries[i]? = some e)
    (hk : q.calls[c]? = some k) (hi : k.sender = i) : .sent c k.request ∈ e.deeds := by
  obtain ⟨e', he', hmem⟩ := sound.recorded.placed c k hk
  rw [hi, he] at he'
  cases he'
  exact hmem

/-- A worker that waits for an answer has a permit. -/
lemma Sound.permitted_of_awaits (sound : q.Sound) (he : q.entries[i]? = some e)
    (h : q.Awaits c i) : i ∈ q.permitted := by
  have hcall := (sound.awaits c i).mp h
  rw [hands_of_entry he] at hcall
  rw [mem_permitted he, Stage.call_hand.mp hcall]
  rfl

/-! ### Endpoints that resolve -/

/-- The snapshot shows a request by the method and the URL that go over the wire. -/
lemma Sound.shown_of_resolved {x : Endpoint} {u : Url} (sound : q.Sound)
    (he : q.entries[i]? = some e) (hx : e.request.endpoint = .ok x) (hu : x.resolve = .ok u) :
    (∀ a ∈ q.snapshot.active, a.id = i → a.method = some x.method ∧ a.url = some u.text) ∧
    (e.stage ≠ .ended → ∃ a ∈ q.snapshot.active, a.id = i) := by
  constructor
  · intro a ha hid
    obtain ⟨j, e', he', -, rfl⟩ := sound.mem_snapshot.mp ha
    obtain rfl : j = i := hid
    cases he.symm.trans he'
    unfold Entry.listing Request.method? Request.url?
    rw [hx]
    exact ⟨rfl, congrArg some (Endpoint.finalUrl_of_resolved hu)⟩
  · intro hs
    exact ⟨e.listing i, sound.mem_snapshot.mpr ⟨i, e, he, hs, rfl⟩, rfl⟩

/-! ### Endpoints that do not resolve -/

section Unresolved

variable {fault : Fault} (sound : q.Sound) (he : q.entries[i]? = some e)
  (hf : e.request.endpoint.bind Endpoint.resolve = .error fault)
include sound he hf

lemma no_call_of_unresolved (hk : q.calls[c]? = some k) : k.sender ≠ i := by
  intro hi
  have sends := (sound.stories i e he).sends (sound.sent_of_call he hk hi)
  cases sends.symm.trans (Request.of_unresolved hf).2

/-- A request that cannot be sent fails, unless it is cancelled. -/
lemma failed_of_unresolved (hs : e.stage = .ended) (hp : e.phase ≠ .cancelled) :
    e.phase = .failed ∧
      e.outcomes = [.failed (.transport ⟨e.request.rawUrl, fault.message⟩)] := by
  have past := (sound.stories i e he).past hs
  obtain ⟨hraw, hnone⟩ := Request.of_unresolved hf
  obtain ⟨-, o, ho, hphase⟩ := past.path
  rcases past.fated hp with ⟨fault', hfault, hfate⟩ | ⟨c, r, a, n, sends, -⟩
  · have hout := hfate (.error ⟨"", ""⟩)
    rw [Request.fate_of_fault hnone, hraw] at hout
    rw [hout] at ho
    cases ho
    exact ⟨hphase.symm, hout⟩
  · cases sends.symm.trans hnone

/-- In a queue at rest a request that cannot be sent has ended, or all permits are in use. -/
lemma ended_of_unresolved (awake : q.Awake) (quiet : q.ready = []) :
    e.stage = .ended ∨ e.stage = .inLine ∧
      ∀ l, q.limiter = some l → q.outstanding.card = l.capacity := by
  by_cases hs : e.stage = .ended
  · exact .inl hs
  rcases (blocked_at_rest awake quiet he hs).2 with hline | ⟨c, k, hsend, -⟩
  · exact .inr ⟨hline, fun l hl => (card_outstanding_of_inLine sound awake quiet hl he hline).2⟩
  · obtain ⟨r, sends, -⟩ := ((sound.stories i e he).live hs).of_sending hsend
    cases sends.symm.trans (Request.of_unresolved hf).2

end Unresolved

/-- **One request, one call, one URL.**  At most one call is placed for a request: after it was
begun, by its own worker, which has a permit in hand if there are permits and keeps it as long as it
waits for the answer.  If the endpoint resolves, the call carries its method, headers and body and
the URL to which it resolves; the snapshot shows that URL as long as the request is listed, and a
breach of the contract is reported with it.  If there is no endpoint, or it does not resolve, no
call is placed; the request fails with the URL as it was written unless it is cancelled, and does so
before the queue comes to rest, unless all permits are in use. -/
theorem one_call (h : Reachable s q) (he : q.entries[i]? = some e) :
    (∀ (c c' : Nat) (k k' : Call), q.calls[c]? = some k → k.sender = i →
      q.calls[c']? = some k' → k'.sender = i → c' = c) ∧
    (∀ (c : Nat) (k : Call), q.calls[c]? = some k → k.sender = i →
      Deed.sending c k.request <+: e.deeds ∧ (k.awaited = true → i ∈ q.permitted)) ∧
    (∀ (m : Move α) (c : Nat) (k : Call), q.calls.length ≤ c →
      (q.apply m).calls[c]? = some k → k.sender = i →
      c = q.calls.length ∧ m = .poll (.worker i) ∧ e.phase = .idle ∧
      ∃ (q₁ : Queue α) (e₁ : Entry α),
        q.apply m = q₁.dispatch i e₁ q.limiter.isSome k.request ∧
        q₁.phase? i = some .executing ∧ q₁.Holding i) ∧
    (∀ x u, e.request.endpoint = .ok x → x.resolve = .ok u →
      (∀ (c : Nat) (k : Call), q.calls[c]? = some k → k.sender = i →
        k.request = ⟨x.method, u.text, x.headers, x.body⟩) ∧
      (∀ a ∈ q.snapshot.active, a.id = i → a.method = some x.method ∧ a.url = some u.text) ∧
      (e.stage ≠ .ended → ∃ a ∈ q.snapshot.active, a.id = i) ∧
      ∀ f, .failed (.service f) ∈ e.outcomes → f.url = u.text) ∧
    (∀ fault, e.request.endpoint.bind Endpoint.resolve = .error fault →
      (∀ (c : Nat) (k : Call), q.calls[c]? = some k → k.sender ≠ i) ∧
      (e.stage = .ended → e.phase ≠ .cancelled → e.phase = .failed ∧
        e.outcomes = [.failed (.transport ⟨e.request.rawUrl, fault.message⟩)]) ∧
      (q.ready = [] → e.stage = .ended ∨ e.stage = .inLine ∧
        ∀ l, q.limiter = some l → q.outstanding.card = l.capacity)) := by
  have story := h.sound.stories i e he
  have sent : ∀ {c k}, q.calls[c]? = some k → k.sender = i → Deed.sent c k.request ∈ e.deeds :=
    fun hk hi => h.sound.sent_of_call he hk hi
  refine ⟨fun c c' k k' hk hi hk' hi' => story.call_unique (sent hk hi) (sent hk' hi'),
    fun c k hk hi => ⟨story.sending (sent hk hi), fun hw => ?_⟩, fun m c k hc hk hi => ?_,
    fun x u hx hu => ?_, fun fault hf => ⟨fun c k => no_call_of_unresolved h.sound he hf,
      failed_of_unresolved h.sound he hf, ended_of_unresolved h.sound he hf h.awake⟩⟩
  · exact h.sound.permitted_of_awaits he ⟨k, hk, hi, hw⟩
  · subst hi
    obtain ⟨hlast, hm, hidle, hplaced⟩ := h.sound.places_of_call hc hk
    refine ⟨hlast, hm, ?_, hplaced⟩
    unfold phase? at hidle
    rw [he] at hidle
    exact Option.some.inj hidle
  · have hwire : ∀ {r}, e.Sends r → r = ⟨x.method, u.text, x.headers, x.body⟩ := by
      intro r sends
      unfold Entry.Sends at sends
      rw [hx] at sends
      exact Except.ok.inj (sends.symm.trans (Endpoint.toRequest_of_resolved hu))
    obtain ⟨hshown, hlisted⟩ := h.sound.shown_of_resolved he hx hu
    refine ⟨fun c k hk hi => hwire (story.sends (sent hk hi)), hshown, hlisted, fun f hf => ?_⟩
    obtain ⟨r, sends, hurl⟩ := story.url_of_breach hf
    rw [hurl, hwire sends]

/-- A request to `http://a/` that is sent goes there, as it was begun. -/
theorem one_call_of_parcel :
    ∃ e k, (single.play [.submit parcel, .poll (.worker 0)]).entries[0]? = some e ∧
      (single.play [.submit parcel, .poll (.worker 0)]).calls[0]? = some k ∧
      k.request = ⟨.get, "http://a/", [], none⟩ ∧ Deed.sending 0 k.request <+: e.deeds := by
  have hsent : ((single.play [.submit parcel, .poll (.worker 0)]).calls[0]?).map
      (fun k => k.sender) = some 0 := rfl
  have hparcel : ((single.play [.submit parcel, .poll (.worker 0)]).entries[0]?).map
      (fun e => e.request.endpoint) = some (.ok { method := .get, url := "http://a/" }) := rfl
  obtain ⟨k, hk, hi⟩ := Option.map_eq_some_iff.mp hsent
  obtain ⟨e, he, hx⟩ := Option.map_eq_some_iff.mp hparcel
  obtain ⟨-, hbegun, -, hresolved, -⟩ := one_call (reachable_single _) he
  obtain ⟨hwire, -⟩ := hresolved _ ⟨.http, ⟨"", "", .domain "a", none⟩, [""], none, none⟩ hx rfl
  exact ⟨e, k, he, hk, hwire 0 k hk hi, (hbegun 0 k hk hi).1⟩

end Queue

end Courier
