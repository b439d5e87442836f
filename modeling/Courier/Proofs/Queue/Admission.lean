import Courier.Proofs.Queue.Accounting
import Courier.Proofs.Queue.Records
import Mathlib.Data.Set.Subsingleton

/-!
Admission.  A request decides by the snapshot whether it is admitted, and what it saw there stays
true as long as it is listed beside others.  So requests that want to be the only ones of their kind,
or to their endpoint, are listed one at a time, and one call of them is under way at most.  When the
one has ended the next is admitted.  A request that is refused leaves no more than a record.
-/

namespace Courier

variable {α : Type}

/-! ### Requests that want to be alone -/

namespace Request

/-- The request is admitted if no active one is as `p` tells. -/
def Avoids (r : Request α) (p : ActiveRequest → Bool) : Prop :=
  r.admits = fun s => !s.active.any p

/-- The request is of a kind and wants to be the only one. -/
def SoleOfKind (kind : String) (r : Request α) : Prop :=
  r.kind = kind ∧ r.admits = aloneOfKind kind

/-- The request is of a method and to a URL, and wants to be the only one to its endpoint. -/
def SoleTo (method : Http.Method) (url : String) (r : Request α) : Prop :=
  r.method? = some method ∧ r.url? = some url ∧ r.admits = aloneAtEndpoint r.endpoint

def isOfKind (kind : String) (a : ActiveRequest) : Bool := a.kind == kind

def isTo (method : Http.Method) (url : String) (a : ActiveRequest) : Bool :=
  a.method == some method && a.url == some url

variable {r : Request α} {s : Snapshot}

lemma Avoids.admits_iff {p : ActiveRequest → Bool} (hr : r.Avoids p) :
    r.admits s = true ↔ ∀ a ∈ s.active, ¬ p a = true := by
  rw [hr]
  simp

lemma SoleOfKind.avoids {kind : String} (hr : r.SoleOfKind kind) : r.Avoids (isOfKind kind) := hr.2

lemma SoleTo.avoids {method : Http.Method} {url : String} (hr : r.SoleTo method url) :
    r.Avoids (isTo method url) := by
  obtain ⟨hm, hu, hadmits⟩ := hr
  unfold method? at hm
  unfold url? at hu
  cases hx : r.endpoint with
  | error fault =>
    rw [hx] at hm
    cases hm
  | ok x =>
    rw [hx] at hm hu hadmits
    cases hm
    cases hu
    exact hadmits

end Request

namespace Entry

variable {e : Entry α} {r : Http.Request}

/-- What goes over the wire has the method and the URL that the snapshot shows. -/
lemma Sends.method_url (sends : e.Sends r) :
    e.request.method? = some r.method ∧ e.request.url? = some r.url := by
  unfold Sends at sends
  unfold Request.method? Request.url?
  cases hx : e.request.endpoint with
  | error fault =>
    rw [hx] at sends
    cases sends
  | ok x =>
    rw [hx] at sends
    change x.toRequest = .ok r at sends
    unfold Endpoint.toRequest at sends
    show some x.method = _ ∧ some x.finalUrl = _
    unfold Endpoint.finalUrl
    cases hu : x.resolve with
    | error fault =>
      rw [hu] at sends
      cases sends
    | ok u =>
      rw [hu] at sends
      cases sends
      exact ⟨rfl, rfl⟩

end Entry

namespace Queue

variable {q q₁ : Queue α} {s : Settings} {i j c : Nat} {e e' : Entry α}
  {p : ActiveRequest → Bool} {r : Request α} {m : Move α}

/-! ### Moves -/

/-- Only by being submitted a request gets an entry. -/
lemma length_apply (sound : q.Sound) (m : Move α) (hm : ∀ r, m ≠ .submit r) :
    (q.apply m).entries.length = q.entries.length := by
  by_cases ha : ∃ c b, m = .answer c b
  · obtain ⟨c, b, rfl⟩ := ha
    show (q.answer c b).2.entries.length = _
    unfold answer
    split
    · rfl
    split
    · rfl
    split
    · exact congrArg List.length (alike_wake _ _).entries
    · rfl
  · exact (sound.quiet_apply m hm fun c b hb => ha ⟨c, b, hb⟩).2

/-- Who is there after a move that submits nothing was there before, with the same request; and who
has not ended had not ended. -/
lemma entry_before (sound : q.Sound) (hm : ∀ r, m ≠ .submit r)
    (he' : (q.apply m).entries[i]? = some e') :
    ∃ e, q.entries[i]? = some e ∧ e'.request = e.request ∧
      (e'.stage ≠ .ended → e.stage ≠ .ended) := by
  have x := sound.apply m
  have hi : i < q.entries.length := by
    rw [← length_apply sound m hm]
    exact (List.getElem?_eq_some_iff.mp he').1
  have he := List.getElem?_eq_getElem hi
  obtain ⟨e₁, he₁, hr, -⟩ := x.grown.entries i _ he
  cases he'.symm.trans he₁
  exact ⟨_, he, hr, x.live sound he he'⟩

lemma listing_congr (hr : e'.request = e.request) (i : Nat) : e'.listing i = e.listing i := by
  unfold Entry.listing
  rw [hr]

/-! ### What was seen on admission -/

/-- Of two requests the later one saw the earlier one, if that has not ended, when it was
admitted. -/
def Considerate (q : Queue α) : Prop :=
  ∀ (i j : Nat) (e e' : Entry α), i < j → q.entries[i]? = some e → e.stage ≠ .ended →
    q.entries[j]? = some e' → ∃ t : Snapshot, e'.request.admits t = true ∧ e.listing i ∈ t.active

lemma Considerate.submit (hq : q.Considerate) (sound : q.Sound) (r : Request α) :
    (q.submit r).2.Considerate := by
  cases hr : r.admits q.snapshot with
  | false =>
    rw [submit_of_refused hr]
    exact hq
  | true =>
    rw [submit_of_admitted hr]
    have hentries : (q.enqueue r).entries =
        (q.withEntry { request := r, url := r.url?.getD "" }).entries := (alike_wake _ _).entries
    intro i j e e' hij he hs he'
    rw [hentries] at he he'
    rcases getElem?_withEntry.mp he' with he' | ⟨rfl, rfl⟩
    · rcases getElem?_withEntry.mp he with he | ⟨rfl, -⟩
      · exact hq i j e e' hij he hs he'
      · have hj := (List.getElem?_eq_some_iff.mp he').1
        omega
    · rcases getElem?_withEntry.mp he with he | ⟨rfl, -⟩
      · exact ⟨q.snapshot, hr, sound.mem_snapshot.mpr ⟨i, e, he, hs, rfl⟩⟩
      · exact absurd hij (Nat.lt_irrefl _)

/-- **Every move** keeps what was seen on admission true. -/
theorem Considerate.apply (hq : q.Considerate) (sound : q.Sound) (m : Move α) :
    (q.apply m).Considerate := by
  by_cases hm : ∃ r, m = .submit r
  · obtain ⟨r, rfl⟩ := hm
    exact hq.submit sound r
  · have hm : ∀ r, m ≠ .submit r := fun r hr => hm ⟨r, hr⟩
    intro i j e e' hij he hs he'
    obtain ⟨e₀, he₀, hr, hs₀⟩ := entry_before sound hm he
    obtain ⟨e₀', he₀', hr', -⟩ := entry_before sound hm he'
    obtain ⟨t, ht, hmem⟩ := hq i j e₀ e₀' hij he₀ (hs₀ hs) he₀'
    refine ⟨t, hr' ▸ ht, ?_⟩
    rw [listing_congr hr]
    exact hmem

theorem Reachable.considerate (h : Reachable s q) : q.Considerate := by
  induction h with
  | made hooks instant h =>
    obtain ⟨limiter, -, rfl⟩ := over_eq_some h
    exact fun _ _ _ _ _ => nofun
  | step h m ih => exact ih.apply h.sound m

/-! ### One at a time -/

/-- The listed requests of which something holds. -/
def listed (q : Queue α) (P : Request α → Prop) : Set Nat :=
  {i | i ∈ q.active ∧ ∃ e, q.entries[i]? = some e ∧ P e.request}

/-- The calls to wait for of requests of which something holds. -/
def underWay (q : Queue α) (P : Request α → Prop) : Set Nat :=
  {c | ∃ i e, q.Awaits c i ∧ q.entries[i]? = some e ∧ P e.request}

/-- The calls of a method to a URL to wait for, of requests that want to be the only ones to their
endpoint. -/
def callsTo (q : Queue α) (method : Http.Method) (url : String) : Set Nat :=
  {c | ∃ (k : Call) (e : Entry α), q.calls[c]? = some k ∧ k.awaited = true ∧
    k.request.method = method ∧ k.request.url = url ∧ q.entries[k.sender]? = some e ∧
    e.request.admits = Request.aloneAtEndpoint e.request.endpoint}

/-- Of requests that avoid each other one is listed at a time. -/
theorem Reachable.sole (h : Reachable s q) {P : Request α → Prop} (hP : ∀ r, P r → r.Avoids p)
    (hp : ∀ (e : Entry α) (i : Nat), P e.request → p (e.listing i) = true) :
    (q.listed P).Subsingleton := by
  have apart : ∀ i ∈ q.listed P, ∀ j ∈ q.listed P, ¬ i < j := by
    rintro i ⟨hi, e, he, hPe⟩ j ⟨-, e', he', hPe'⟩ hij
    obtain ⟨e₁, he₁, hs⟩ := (h.sound.active i).mp hi
    cases he.symm.trans he₁
    obtain ⟨t, ht, hmem⟩ := h.considerate i j e e' hij he hs he'
    exact (hP _ hPe').admits_iff.mp ht _ hmem (hp e i hPe)
  intro i hi j hj
  have h₁ := apart i hi j hj
  have h₂ := apart j hj i hi
  omega

lemma Awaits.mem_active (sound : q.Sound) (ha : q.Awaits c i) : i ∈ q.active := by
  obtain ⟨e, he, hs⟩ := entry_of_call ((sound.awaits c i).mp ha)
  exact (sound.active i).mpr ⟨e, he, hs ▸ nofun⟩

/-- Where one request is listed at a time one call is under way. -/
lemma underWay_subsingleton (sound : q.Sound) {P : Request α → Prop}
    (hP : (q.listed P).Subsingleton) : (q.underWay P).Subsingleton := by
  rintro c ⟨i, e, ha, he, hPe⟩ c' ⟨i', e', ha', he', hPe'⟩
  obtain rfl : i = i' := hP ⟨ha.mem_active sound, e, he, hPe⟩ ⟨ha'.mem_active sound, e', he', hPe'⟩
  have hcall := (sound.awaits c i).mp ha
  rw [(sound.awaits c' i).mp ha'] at hcall
  exact (Option.some.inj hcall).symm

/-! ### The next one -/

/-- Who avoids others is admitted exactly if none of them is listed. -/
lemma admitted_iff (sound : q.Sound) (hr : r.Avoids p) :
    (q.submit r).1 = some q.entries.length ↔
      ∀ (i : Nat) (e : Entry α), i ∈ q.active → q.entries[i]? = some e →
        ¬ p (e.listing i) = true := by
  rw [submit_eq_some_iff, hr.admits_iff]
  constructor
  · intro hall i e hi he
    obtain ⟨e', he', hs⟩ := (sound.active i).mp hi
    cases he.symm.trans he'
    exact hall _ (sound.mem_snapshot.mpr ⟨i, e, he, hs, rfl⟩)
  · intro hall a ha
    obtain ⟨i, e, he, hs, rfl⟩ := sound.mem_snapshot.mp ha
    exact hall i e ((sound.active i).mpr ⟨e, he, hs⟩) he

lemma mem_active_of_submit (hi : i ∈ q.active) (r : Request α) : i ∈ (q.apply (.submit r)).active := by
  show i ∈ (q.submit r).2.active
  cases hr : r.admits q.snapshot with
  | false =>
    rw [submit_of_refused hr]
    exact hi
  | true =>
    rw [submit_of_admitted hr, active_enqueue]
    exact List.mem_append_left _ hi

/-- When the one has ended, the next is admitted. -/
theorem Reachable.next (h : Reachable s q) {P : Request α → Prop}
    (hP : (q.listed P).Subsingleton) (hr : r.Avoids p)
    (hall : ∀ (j : Nat) (e : Entry α), j ∈ q.active → q.entries[j]? = some e →
      p (e.listing j) = true → P e.request)
    (hi : i ∈ q.listed P) (hend : i ∉ (q.apply m).active) :
    ((q.apply m).submit r).1 = some (q.apply m).entries.length := by
  have sound := h.sound
  have hm : ∀ r, m ≠ .submit r := by
    rintro r rfl
    exact hend (mem_active_of_submit hi.1 r)
  refine (admitted_iff (h.step m).sound hr).mpr fun j e' hj he' hp => hend ?_
  obtain ⟨e₁, he₁, hs'⟩ := ((h.step m).sound.active j).mp hj
  cases he'.symm.trans he₁
  obtain ⟨e, he, hreq, hs⟩ := entry_before sound hm he'
  rw [listing_congr hreq] at hp
  have hactive := (sound.active j).mpr ⟨e, he, hs hs'⟩
  obtain rfl : i = j := hP hi ⟨hactive, e, he, hall j e hactive he hp⟩
  exact hj

/-! ### Refusal -/

/-- After a refusal everything goes on as if nothing had been submitted, but for a record. -/
theorem play_of_refused (hr : (q.submit r).1 = none) (ms : List (Move α)) :
    ∃ told, (q.play ms).trace = q.trace ++ told ∧
      (q.submit r).2.play ms =
        { q.play ms with trace := q.trace ++ .log (q.refusal r) :: told } := by
  have hq : q = Queue.preface { q with trace := [] } q.trace := by
    unfold preface
    rw [List.append_nil]
  have hlog : q.log (q.refusal r) =
      Queue.preface { q with trace := [] } (q.trace ++ [.log (q.refusal r)]) := by
    unfold preface log
    rw [List.append_nil]
  have hplay : q.play ms = ({ q with trace := [] }.play ms).preface q.trace := by
    conv_lhs => rw [hq]
    exact preface_play _ _ ms
  refine ⟨({ q with trace := [] }.play ms).trace, by rw [hplay]; rfl, ?_⟩
  rw [submit_of_refused (submit_eq_none_iff.mp hr), hlog, preface_play, hplay]
  unfold preface
  rw [List.append_assoc]
  rfl

/-! ### Admission -/

/-- **Admission limits the queue.**  Of the requests that want to be the only ones of their kind one
is listed at a time, and one call of them is under way; and so it is with requests that want to be
the only ones to their endpoint, for each method and final URL, and with the calls of that method to
that URL.  Such a request is admitted exactly if none of its kind, or to its endpoint, is listed; so
when the one has ended the next is admitted.  After a refusal everything is and goes on as if nothing
had been submitted, but for a record. -/
theorem exclusion (h : Reachable s q) :
    (∀ kind, (q.listed (Request.SoleOfKind kind)).Subsingleton ∧
      (q.underWay (Request.SoleOfKind kind)).Subsingleton) ∧
    (∀ method url, (q.listed (Request.SoleTo method url)).Subsingleton ∧
      (q.callsTo method url).Subsingleton) ∧
    (∀ kind r, Request.SoleOfKind kind r → ((q.submit r).1 = some q.entries.length ↔
      ∀ j e, j ∈ q.active → q.entries[j]? = some e → e.request.kind ≠ kind)) ∧
    (∀ method url r, Request.SoleTo method url r → ((q.submit r).1 = some q.entries.length ↔
      ∀ j e, j ∈ q.active → q.entries[j]? = some e →
        ¬ (e.request.method? = some method ∧ e.request.url? = some url))) ∧
    (∀ kind r i m, Request.SoleOfKind kind r →
      (∀ j ∈ q.active, ∀ e, q.entries[j]? = some e → e.request.kind = kind →
        e.request.SoleOfKind kind) →
      i ∈ q.listed (Request.SoleOfKind kind) → i ∉ (q.apply m).active →
      ((q.apply m).submit r).1 = some (q.apply m).entries.length) ∧
    (∀ method url r i m, Request.SoleTo method url r →
      (∀ j ∈ q.active, ∀ e, q.entries[j]? = some e → e.request.method? = some method →
        e.request.url? = some url → e.request.SoleTo method url) →
      i ∈ q.listed (Request.SoleTo method url) → i ∉ (q.apply m).active →
      ((q.apply m).submit r).1 = some (q.apply m).entries.length) ∧
    (∀ r, (q.submit r).1 = none → (q.submit r).2 = q.log (q.refusal r) ∧
      ∀ ms, ∃ told, (q.play ms).trace = q.trace ++ told ∧
        (q.submit r).2.play ms =
          { q.play ms with trace := q.trace ++ .log (q.refusal r) :: told }) := by
  have sound := h.sound
  have kinds : ∀ kind, (q.listed (Request.SoleOfKind kind)).Subsingleton := by
    intro kind
    refine h.sole (fun r hr => hr.avoids) fun e i he => ?_
    show (e.request.kind == kind) = true
    simpa using he.1
  have endpoints : ∀ method url, (q.listed (Request.SoleTo method url)).Subsingleton := by
    intro method url
    refine h.sole (fun r hr => hr.avoids) fun e i he => ?_
    show (e.request.method? == some method && e.request.url? == some url) = true
    simpa using ⟨he.1, he.2.1⟩
  refine ⟨fun kind => ⟨kinds kind, underWay_subsingleton sound (kinds kind)⟩,
    fun method url => ⟨endpoints method url, ?_⟩, fun kind r hr => ?_, fun method url r hr => ?_,
    ?_, ?_, fun r hr => ⟨?_, play_of_refused hr⟩⟩
  · refine (underWay_subsingleton sound (endpoints method url)).anti ?_
    rintro c ⟨k, e, hk, haw, rfl, rfl, he, hadmits⟩
    obtain ⟨e', he', hd⟩ := sound.recorded.placed c k hk
    cases he.symm.trans he'
    obtain ⟨hm, hu⟩ := ((sound.stories _ e he).sends hd).method_url
    exact ⟨k.sender, e, ⟨k, hk, rfl, haw⟩, he, hm, hu, hadmits⟩
  · rw [admitted_iff sound hr.avoids]
    simp only [Request.isOfKind, Entry.listing, beq_iff_eq, ne_eq]
  · rw [admitted_iff sound hr.avoids]
    simp only [Request.isTo, Entry.listing, Bool.and_eq_true, beq_iff_eq]
  · intro kind r i m hr hall hi hend
    refine h.next (kinds kind) hr.avoids (fun j e hj he hp => hall j hj e he ?_) hi hend
    simpa [Request.isOfKind, Entry.listing] using hp
  · intro method url r i m hr hall hi hend
    refine h.next (endpoints method url) hr.avoids (fun j e hj he hp => ?_) hi hend
    have hp : e.request.method? = some method ∧ e.request.url? = some url := by
      simpa [Request.isTo, Entry.listing] using hp
    exact hall j hj e he hp.1 hp.2
  · rw [submit_of_refused (submit_eq_none_iff.mp hr)]

/-- A request that wants to be the only one of its kind. -/
def loner : Request Nat := { stray with admits := Request.aloneOfKind "stray" }

/-- While the one is there another is refused, and when it has ended the next is admitted. -/
theorem exclusion_of_loners :
    (single.play [.submit loner, .submit loner]).entries.length = 1 ∧
      (((single.play [.submit loner]).apply (.poll (.worker 0))).submit loner).1 = some 1 := by
  have h := reachable_single [.submit loner]
  obtain ⟨-, -, -, -, hnext, -⟩ := exclusion h
  refine ⟨rfl, hnext "stray" loner 0 (.poll (.worker 0)) ⟨rfl, rfl⟩ ?_ ?_ ?_⟩
  · intro j hj e he _
    obtain rfl : j = 0 := List.mem_singleton.mp hj
    cases he
    exact ⟨rfl, rfl⟩
  · exact ⟨List.mem_singleton_self 0, _, rfl, rfl, rfl⟩
  · exact List.not_mem_nil

end Queue

end Courier
