import Courier.Proofs.Queue.Permits
import Courier.Proofs.Queue.Story
import Mathlib.Data.List.Infix

/-!
What holds of a queue between two steps of its history (`Queue.Sound`): every entry has a story,
the limiter and the calls agree with what the workers have in hand, the active entries are those
whose worker lives, and every callback on its way was posted by its request.

While a worker is polled its own entry is in motion and the rest of the queue holds still.  That is
`Queue.Polling`, which says of all other entries what `Queue.Sound` says, and of the polled one
only what its worker has in hand.  Each change that a poll is made of keeps it.
-/

namespace Courier

variable {α : Type}

/-- The request whose callback an event is. -/
def QueueEvent.owner? : QueueEvent α → Option Nat
  | succeeded i _ | failed i _ => some i
  | hook _ | sent .. | aborted _ => none

lemma Stage.call_hand_of_isEarly {s : Stage} (hs : s.isEarly = true) : s.hand.call = none := by
  cases s with
  | fresh | inLine | granted => rfl
  | sending c | ended => cases hs

namespace Queue

variable {q q₀ q₁ q₂ : Queue α} {i j : Nat} {e e' : Entry α} {h : Hand}

/-! ### The parts of the invariant -/

/-- What the worker of an entry has in hand. -/
def hands (q : Queue α) (j : Nat) : Hand := ((q.entries[j]?).map (·.stage.hand)).getD {}

/-- The hands of the workers, that of the worker `i` being `h`. -/
def handsWith (q : Queue α) (i : Nat) (h : Hand) : Nat → Hand := Function.update q.hands i h

/-- The worker of an entry waits for the answer to a call. -/
def Awaits (q : Queue α) (c j : Nat) : Prop :=
  ∃ k : Call, q.calls[c]? = some k ∧ k.sender = j ∧ k.awaited = true

/-- A call was placed for the entry and has the answer that was taken, if the deed tells so. -/
def Witnessed (q : Queue α) (j : Nat) : Deed α → Prop
  | .sent c r => ∃ k : Call, q.calls[c]? = some k ∧ k.sender = j ∧ k.request = r
  | .answered c a => ∃ k : Call, q.calls[c]? = some k ∧ k.sender = j ∧ k.awaited = false ∧
      k.answer = some a
  | _ => True

/-- The calls are those of which the deeds of the entries tell. -/
structure Recorded (q : Queue α) : Prop where
  placed : ∀ (c : Nat) (k : Call), q.calls[c]? = some k →
    ∃ e : Entry α, q.entries[k.sender]? = some e ∧ Deed.sent c k.request ∈ e.deeds
  witnessed : ∀ (j : Nat) (e : Entry α), q.entries[j]? = some e → ∀ d ∈ e.deeds, q.Witnessed j d

/-- The callbacks of the entry that were run or wait to be run, in order. -/
def heard (q : Queue α) (j : Nat) : List (QueueEvent α) :=
  (q.trace.events ++ q.mailbox.pending.map Callback.seen).filter (·.owner? == some j)

/-- The callbacks that the entry posted, in order. -/
def posted (q : Queue α) (j : Nat) : List (QueueEvent α) :=
  ((q.entries[j]?).map Entry.posts).getD []

/-- Whatever callback waits in the mailbox or was run, its request posted it, and as often; and as
long as there is a reader no callback is lost. -/
structure Mailed (q : Queue α) : Prop where
  /-- no callback posts another -/
  plain : ∀ c ∈ q.mailbox.pending, c.posts = []
  heard : ∀ j, (q.heard j).Sublist (q.posted j)
  whole : q.mailbox.reader ≠ .gone → ∀ j, q.heard j = q.posted j

/-- The second queue is a later state of the first: its entries have gone on with their stories. -/
structure Extends (q q' : Queue α) : Prop where
  hooks : q'.hooks = q.hooks
  status : q'.successStatus = q.successStatus
  cap : q'.maxConcurrent = q.maxConcurrent
  entries : ∀ (j : Nat) (e : Entry α), q.entries[j]? = some e →
    ∃ e', q'.entries[j]? = some e' ∧ e'.request = e.request ∧ e.deeds <+: e'.deeds

/-- **The invariant** of a queue between two steps of its history. -/
structure Sound (q : Queue α) : Prop where
  stories : ∀ (j : Nat) (e : Entry α), q.entries[j]? = some e → e.Story q.hooks q.successStatus j
  permits : ∀ l, q.limiter = some l → l.Keeps q.entries.length q.hands
  awaits : ∀ c j, q.Awaits c j ↔ (q.hands j).call = some c
  recorded : q.Recorded
  nodup : q.active.Nodup
  active : ∀ j, j ∈ q.active ↔ ∃ e : Entry α, q.entries[j]? = some e ∧ e.stage ≠ .ended
  limited : ∀ (j : Nat) (e : Entry α), q.entries[j]? = some e → e.stage.isQueued = true →
    q.limiter ≠ none
  mailed : q.Mailed

/-- A step of its history leads from the queue `q₀` to the queue `q`. -/
structure Advances (q₀ q : Queue α) : Prop where
  sound : q.Sound
  grown : q₀.Extends q

/-- **The invariant of a poll**: a queue on its way from `q₀`, where the worker `i` is polled and
has `h` in hand, and its entry is `e` by now. -/
structure Polling (q₀ q : Queue α) (i : Nat) (e : Entry α) (h : Hand) : Prop where
  here : q.entries[i]? = some e
  others : ∀ (j : Nat) (e : Entry α), j ≠ i → q.entries[j]? = some e →
    e.Story q.hooks q.successStatus j
  permits : ∀ l, q.limiter = some l → l.Keeps q.entries.length (q.handsWith i h)
  awaits : ∀ c j, q.Awaits c j ↔ (q.handsWith i h j).call = some c
  recorded : q.Recorded
  nodup : q.active.Nodup
  lives : i ∈ q.active
  active : ∀ j, j ≠ i → (j ∈ q.active ↔ ∃ e : Entry α, q.entries[j]? = some e ∧ e.stage ≠ .ended)
  limited : ∀ (j : Nat) (e : Entry α), j ≠ i → q.entries[j]? = some e → e.stage.isQueued = true →
    q.limiter ≠ none
  mailed : q.Mailed
  grown : q₀.Extends q

/-! ### Later states -/

theorem Extends.refl (q : Queue α) : q.Extends q :=
  ⟨rfl, rfl, rfl, fun _ e he => ⟨e, he, rfl, List.prefix_refl _⟩⟩

theorem Extends.trans (h₁ : q₀.Extends q₁) (h₂ : q₁.Extends q₂) : q₀.Extends q₂ := by
  refine ⟨h₂.hooks.trans h₁.hooks, h₂.status.trans h₁.status, h₂.cap.trans h₁.cap,
    fun j e he => ?_⟩
  obtain ⟨e₁, he₁, hr₁, hd₁⟩ := h₁.entries j e he
  obtain ⟨e₂, he₂, hr₂, hd₂⟩ := h₂.entries j e₁ he₁
  exact ⟨e₂, he₂, hr₂.trans hr₁, hd₁.trans hd₂⟩

theorem Extends.limiter_ne_none (hx : q.Extends q₁) (hl : q.limiter ≠ none) :
    q₁.limiter ≠ none := by
  intro hn
  have hcap := hx.cap
  unfold maxConcurrent at hcap
  rw [hn] at hcap
  exact hl (Option.map_eq_none_iff.mp hcap.symm)

theorem Mailed.mono (hm : q.Mailed) (hp : ∀ j, q₁.posted j = q.posted j)
    (hb : q₁.mailbox = q.mailbox) (ht : q₁.trace = q.trace) : q₁.Mailed := by
  have hh : ∀ j, q₁.heard j = q.heard j := fun j => by
    unfold Queue.heard
    rw [hb, ht]
  refine ⟨fun c hc => hm.plain c (hb ▸ hc), fun j => ?_, fun hr j => ?_⟩
  · rw [hh, hp]
    exact hm.heard j
  · rw [hh, hp]
    exact hm.whole (hb ▸ hr) j

/-! ### From one invariant to the other -/

lemma hands_of_entry (he : q.entries[i]? = some e) : q.hands i = e.stage.hand := by
  unfold hands
  rw [he]
  rfl

/-- Where a worker waits for a permit, or was handed one, there is a limiter. -/
lemma Sound.exists_limiter (s : q.Sound) (he : q.entries[i]? = some e)
    (hs : e.stage.isQueued = true) : ∃ l, q.limiter = some l :=
  Option.ne_none_iff_exists'.mp (s.limited i e he hs)

/-- Only who was admitted has anything in hand. -/
lemma hands_cases (q : Queue α) (i : Nat) :
    (∃ e, q.entries[i]? = some e ∧ q.hands i = e.stage.hand) ∨ q.hands i = {} := by
  unfold hands
  cases q.entries[i]? with
  | none => exact .inr rfl
  | some e => exact .inl ⟨e, rfl, rfl⟩

lemma entry_of_inLine (hi : (q.hands i).inLine = true) :
    ∃ e, q.entries[i]? = some e ∧ e.stage = .inLine := by
  rcases q.hands_cases i with ⟨e, he, h⟩ | h <;> rw [h] at hi
  · exact ⟨e, he, Stage.inLine_hand.mp hi⟩
  · cases hi

lemma entry_of_call {c : Nat} (hi : (q.hands i).call = some c) :
    ∃ e, q.entries[i]? = some e ∧ e.stage = .sending c := by
  rcases q.hands_cases i with ⟨e, he, h⟩ | h <;> rw [h] at hi
  · exact ⟨e, he, Stage.call_hand.mp hi⟩
  · cases hi

/-- The entry of a worker that lives may start to move. -/
theorem Sound.polling (s : q.Sound) (he : q.entries[i]? = some e) (hs : e.stage ≠ .ended) :
    q.Polling q i e e.stage.hand := by
  have hw : q.handsWith i e.stage.hand = q.hands := by
    unfold handsWith
    rw [← hands_of_entry he, Function.update_eq_self]
  refine ⟨he, fun j e _ => s.stories j e, ?_, ?_, s.recorded, s.nodup, (s.active i).mpr ⟨e, he, hs⟩,
    fun j _ => s.active j, fun j e _ => s.limited j e, s.mailed, .refl q⟩
  · rw [hw]
    exact s.permits
  · rw [hw]
    exact s.awaits

/-- A moving entry comes to rest where its worker waits for what it has in hand. -/
theorem Polling.sound (p : q₀.Polling q i e h) (hs : e.stage ≠ .ended)
    (story : e.Story q₀.hooks q₀.successStatus i) (hc : h.call = e.stage.hand.call)
    (hh : q.limiter ≠ none → h = e.stage.hand)
    (hl : e.stage.isQueued = true → q₀.limiter ≠ none) : q₀.Advances q := by
  have hw : ∀ j, (q.handsWith i h j).call = (q.hands j).call := fun j => by
    unfold handsWith
    rcases eq_or_ne j i with rfl | hj
    · rw [Function.update_self, hands_of_entry p.here, hc]
    · rw [Function.update_of_ne hj]
  rw [← p.grown.hooks, ← p.grown.status] at story
  refine ⟨⟨fun j e' he' => ?_, fun l hl => ?_, fun c j => ?_, p.recorded, p.nodup, fun j => ?_,
    fun j e' he' => ?_, p.mailed⟩, p.grown⟩
  · rcases eq_or_ne j i with rfl | hj
    · rw [p.here] at he'
      exact Option.some.inj he' ▸ story
    · exact p.others j e' hj he'
  · have hk := p.permits l hl
    rw [hh (by rw [hl]; exact Option.some_ne_none l)] at hk
    unfold handsWith at hk
    rwa [← hands_of_entry p.here, Function.update_eq_self] at hk
  · rw [← hw]
    exact p.awaits c j
  · rcases eq_or_ne j i with rfl | hj
    · exact iff_of_true p.lives ⟨e, p.here, hs⟩
    · exact p.active j hj
  · rcases eq_or_ne j i with rfl | hj
    · rw [p.here] at he'
      exact Option.some.inj he' ▸ fun hq => p.grown.limiter_ne_none (hl hq)
    · exact p.limited j e' hj he'

end Queue

end Courier
