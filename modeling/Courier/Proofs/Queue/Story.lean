import Courier.Queue.Worker
import Mathlib.Tactic.Lemma

/-!
The story of an admitted request: all that was done for it, from its admission on.  There are few
stories.  While its worker lives a request waits, or was called off, or waits for an answer, or was
cancelled while it waited for one (`Entry.Live`); when the worker is done there are six ways in
which it can have come to its end (`Entry.Over`).
-/

namespace Courier

variable {α : Type}

/-! ### Views of deeds -/

namespace Deed

/-- The change of phase, if it is one. -/
def move? : Deed α → Option (Phase × Phase)
  | moved p p' => some (p, p')
  | _ => none

/-- The callback, if one was posted. -/
def callback? : Deed α → Option (QueueEvent α)
  | posted ev _ => some ev
  | _ => none

/-- The failure, if one was handed to the hooks. -/
def handled? : Deed α → Option Failure
  | handled f => some f
  | _ => none

/-- The hook and the failure that it was called with, if one was called. -/
def told? : Deed α → Option (Nat × Failure)
  | told k f => some (k, f)
  | _ => none

/-- A caller was told that the request is cancelled by this call. -/
def isCancelled : Deed α → Bool
  | cancelled => true
  | _ => false

end Deed

namespace Entry

/-- The changes of phase, in order. -/
def moves (e : Entry α) : List (Phase × Phase) := e.deeds.filterMap Deed.move?

/-- The outcomes that were sent to the handle. -/
def outcomes (e : Entry α) : List (Outcome α) := e.deeds.filterMap Deed.outcome?

/-- The callbacks that were posted. -/
def posts (e : Entry α) : List (QueueEvent α) := e.deeds.filterMap Deed.callback?

/-- The failures that were handed to the hooks. -/
def failures (e : Entry α) : List Failure := e.deeds.filterMap Deed.handled?

/-- The calls of hooks, in order. -/
def tellings (e : Entry α) : List (Nat × Failure) := e.deeds.filterMap Deed.told?

/-- The entry after more deeds. -/
def after (e : Entry α) (ds : List (Deed α)) : Entry α := { e with deeds := e.deeds ++ ds }

/-- The entry in another phase, after more deeds. -/
def into (e : Entry α) (p : Phase) (ds : List (Deed α)) : Entry α := { e.after ds with phase := p }

lemma outcome_eq_head? (e : Entry α) : e.outcome = e.outcomes.head? := by
  unfold outcome outcomes
  rw [List.head?_filterMap]

end Entry

/-! ### Parts of a story -/

namespace Deed

/-- A cancellation that takes effect in the phase `p`. -/
def withdrawal (p : Phase) : List (Deed α) := [moved p .cancelled, cancelled]

/-- A request that was begun and given to the transport. -/
def sending (c : Nat) (r : Http.Request) : List (Deed α) := [moved .idle .executing, sent c r]

/-- A request whose answer was taken, and whose processor was called `n` times for it. -/
def exchanged (c : Nat) (r : Http.Request) (a : Answer) (n : Nat) : List (Deed α) :=
  sending c r ++ answered c a :: List.replicate n processed

/-- A callback posted, if there is one. -/
def posting (callback : Option CallbackEnd) (ev : QueueEvent α) (accepted : Bool) : List (Deed α) :=
  match callback with
  | none => []
  | some _ => [posted ev accepted]

/-- All hooks called with a failure. -/
def telling (hooks : List Hook) (f : Failure) : List (Deed α) :=
  (List.range hooks.length).map (told · f)

/-- The end of a request that brought a value. -/
def completing (i : Nat) (r : Request α) (v : α) (accepted : Bool) : List (Deed α) :=
  moved .executing .completed ::
    (posting r.onSuccess (.succeeded i v) accepted ++ [delivered (.completed v)])

/-- The end of a request that failed. -/
def failing (hooks : List Hook) (i : Nat) (r : Request α) (f : Failure) (accepted : Bool) :
    List (Deed α) :=
  moved .executing .failed :: handled f ::
    (telling hooks f ++ (posting r.onFailure (.failed i f) accepted ++ [delivered (.failed f)]))

/-! ### Views of parts -/

variable {β : Type} {g : Deed α → Option β}

lemma filterMap_posting {callback : Option CallbackEnd} {ev : QueueEvent α} {accepted : Bool}
    (hg : g (posted ev accepted) = none) : (posting callback ev accepted).filterMap g = [] := by
  cases callback with
  | none => rfl
  | some c => simp [posting, hg]

lemma filterMap_telling {hooks : List Hook} {f : Failure} (hg : ∀ k, g (told k f) = none) :
    (telling hooks f).filterMap g = [] := by
  unfold telling
  rw [List.filterMap_map]
  exact List.filterMap_eq_nil_iff.mpr fun k _ => hg k

lemma filterMap_exchanged {c n : Nat} {r : Http.Request} {a : Answer} (hs : g (sent c r) = none)
    (ha : g (answered c a) = none) (hp : g processed = none) :
    (exchanged c r a n).filterMap g = [moved .idle .executing].filterMap g := by
  unfold exchanged sending
  simp [List.filterMap_cons, hs, ha, hp]

lemma filterMap_completing {i : Nat} {r : Request α} {v : α} {accepted : Bool}
    (hp : g (posted (.succeeded i v) accepted) = none) :
    (completing i r v accepted).filterMap g =
      [moved .executing .completed, delivered (.completed v)].filterMap g := by
  unfold completing
  rw [List.filterMap_cons, List.filterMap_append, filterMap_posting hp, List.nil_append]
  exact List.filterMap_cons.symm

lemma filterMap_failing {hooks : List Hook} {i : Nat} {r : Request α} {f : Failure}
    {accepted : Bool} (ht : ∀ k, g (told k f) = none)
    (hp : g (posted (.failed i f) accepted) = none) :
    (failing hooks i r f accepted).filterMap g =
      [moved .executing .failed, handled f, delivered (.failed f)].filterMap g := by
  unfold failing
  rw [List.filterMap_cons, List.filterMap_cons, List.filterMap_append, List.filterMap_append,
    filterMap_telling ht, filterMap_posting hp, List.nil_append, List.nil_append,
    ← List.filterMap_cons, ← List.filterMap_cons]

end Deed

/-- What a request makes of an answer: the verdict, and how often its processor is called. -/
def Request.judged (r : Request α) (status : UInt16) (url : String) : Answer → Verdict α × Nat
  | .error e => (.failed (.transport e), 0)
  | .ok response =>
    let report := (Review.ofResponse url status r.processor (some response)).runThrough
    (report.verdict, report.calls)

/-- The worker has not begun, or waits for a permit. -/
def Stage.isEarly : Stage → Bool
  | fresh | inLine | granted => true
  | sending _ | ended => false

/-- The worker waits for a permit, or was given one. -/
def Stage.isQueued : Stage → Bool
  | inLine | granted => true
  | fresh | sending _ | ended => false

lemma Stage.ne_ended_of_isEarly {s : Stage} (hs : s.isEarly = true) : s ≠ .ended := by
  rintro rfl
  cases hs

lemma Stage.ne_sending_of_isEarly {s : Stage} (hs : s.isEarly = true) (c : Nat) :
    s ≠ .sending c := by
  rintro rfl
  cases hs

namespace Entry

open Deed

/-! ### Stories -/

/-- The entry is in a phase after these deeds, and its signal is raised if it is cancelled. -/
structure Is (e : Entry α) (p : Phase) (ds : List (Deed α)) : Prop where
  phase : e.phase = p
  signal : e.signal = (p == .cancelled)
  deeds : e.deeds = ds

/-- The request that goes over the wire for an entry. -/
def Sends (e : Entry α) (r : Http.Request) : Prop :=
  e.request.endpoint.bind Endpoint.toRequest = .ok r

/-- **The stories of a request whose worker lives.** -/
inductive Live (e : Entry α) : Prop
  | waiting (stage : e.stage.isEarly) (url : e.url = e.request.url?.getD "") (is : e.Is .idle [])
  | calledOff (stage : e.stage.isEarly) (is : e.Is .cancelled (withdrawal .idle))
  | sending (c : Nat) (r : Http.Request) (stage : e.stage = .sending c) (sends : e.Sends r)
      (is : e.Is .executing (Deed.sending c r))
  | leaving (c : Nat) (r : Http.Request) (stage : e.stage = .sending c) (sends : e.Sends r)
      (is : e.Is .cancelled (Deed.sending c r ++ withdrawal .executing))

/-- **The stories of a request whose worker is done.** -/
inductive Over (hooks : List Hook) (status : UInt16) (i : Nat) (e : Entry α) : Prop
  /-- cancelled before it was begun -/
  | calledOff (is : e.Is .cancelled (withdrawal .idle ++ [delivered .cancelled]))
  /-- failed since it has no URL that can be asked for -/
  | unsent (fault : Fault) (accepted : Bool)
      (fails : e.request.endpoint.bind Endpoint.toRequest = .error fault)
      (is : e.Is .failed ([moved .idle .executing] ++
        failing hooks i e.request (.transport ⟨e.request.url?.getD "", fault.message⟩) accepted))
  /-- cancelled while it waited for an answer -/
  | left (c : Nat) (r : Http.Request) (sends : e.Sends r)
      (is : e.Is .cancelled (Deed.sending c r ++ withdrawal .executing ++
        [aborted c, delivered .cancelled]))
  /-- completed by its answer -/
  | completed (c : Nat) (r : Http.Request) (a : Answer) (v : α) (n : Nat) (accepted : Bool)
      (sends : e.Sends r) (judged : e.request.judged status r.url a = (.completed v, n))
      (stays : n = 0 ∨ e.request.cancelsItself = false)
      (is : e.Is .completed (exchanged c r a n ++ completing i e.request v accepted))
  /-- failed by its answer -/
  | failed (c : Nat) (r : Http.Request) (a : Answer) (f : Failure) (n : Nat) (accepted : Bool)
      (sends : e.Sends r) (judged : e.request.judged status r.url a = (.failed f, n))
      (stays : n = 0 ∨ e.request.cancelsItself = false)
      (is : e.Is .failed (exchanged c r a n ++ failing hooks i e.request f accepted))
  /-- cancelled by its own processor -/
  | withdrawn (c : Nat) (r : Http.Request) (a : Answer) (sends : e.Sends r)
      (judged : (e.request.judged status r.url a).2 = 1) (cancels : e.request.cancelsItself)
      (is : e.Is .cancelled (exchanged c r a 1 ++ withdrawal .executing ++
        [delivered .cancelled]))

/-- The story of an admitted request. -/
def Story (hooks : List Hook) (status : UInt16) (i : Nat) (e : Entry α) : Prop :=
  e.Live ∨ e.stage = .ended ∧ e.Over hooks status i

section Story

variable {e : Entry α} {hooks : List Hook} {status : UInt16} {i : Nat}

lemma Live.stage_ne (live : e.Live) : e.stage ≠ .ended := by
  cases live with
  | waiting stage _ _ => exact Stage.ne_ended_of_isEarly stage
  | calledOff stage _ => exact Stage.ne_ended_of_isEarly stage
  | sending c r stage _ _ => exact stage ▸ nofun
  | leaving c r stage _ _ => exact stage ▸ nofun

lemma Live.signal_eq (live : e.Live) : e.signal = (e.phase == .cancelled) := by
  rcases live with ⟨-, -, is⟩ | ⟨-, is⟩ | ⟨c, r, -, -, is⟩ | ⟨c, r, -, -, is⟩
  all_goals rw [is.phase, is.signal]

/-- Before it is begun a request waits, or was called off. -/
lemma Live.of_early (live : e.Live) (hs : e.stage.isEarly = true) :
    e.url = e.request.url?.getD "" ∧ e.Is .idle [] ∨ e.Is .cancelled (withdrawal .idle) := by
  cases live with
  | waiting _ url is => exact .inl ⟨url, is⟩
  | calledOff _ is => exact .inr is
  | sending c r stage _ _ => exact absurd stage (Stage.ne_sending_of_isEarly hs c)
  | leaving c r stage _ _ => exact absurd stage (Stage.ne_sending_of_isEarly hs c)

lemma Live.calledOff_of_signal (live : e.Live) (hs : e.stage.isEarly = true)
    (hsig : e.signal = true) : e.Is .cancelled (withdrawal .idle) := by
  rcases live.of_early hs with ⟨-, is⟩ | is
  · cases hsig.symm.trans is.signal
  · exact is

/-- While its worker waits for the answer to a call the request was given to the transport, and
perhaps cancelled since. -/
lemma Live.of_sending {c : Nat} (live : e.Live) (hs : e.stage = .sending c) :
    ∃ r, e.Sends r ∧ (e.Is .executing (Deed.sending c r) ∨
      e.Is .cancelled (Deed.sending c r ++ withdrawal .executing)) := by
  cases live with
  | waiting stage _ _ => exact absurd hs (Stage.ne_sending_of_isEarly stage c)
  | calledOff stage _ => exact absurd hs (Stage.ne_sending_of_isEarly stage c)
  | sending c' r stage sends is =>
    cases hs.symm.trans stage
    exact ⟨r, sends, .inl is⟩
  | leaving c' r stage sends is =>
    cases hs.symm.trans stage
    exact ⟨r, sends, .inr is⟩

lemma Story.live (story : e.Story hooks status i) (hs : e.stage ≠ .ended) : e.Live :=
  story.resolve_right fun past => hs past.1

lemma Story.past (story : e.Story hooks status i) (hs : e.stage = .ended) : e.Over hooks status i :=
  (story.resolve_left fun live => live.stage_ne hs).2

lemma Live.eq_cancelled (live : e.Live) (hp : e.phase.isTerminal = true) :
    e.phase = .cancelled := by
  rcases live with ⟨-, -, is⟩ | ⟨-, is⟩ | ⟨c, r, -, -, is⟩ | ⟨c, r, -, -, is⟩
  · rw [is.phase] at hp
    cases hp
  · exact is.phase
  · rw [is.phase] at hp
    cases hp
  · exact is.phase

lemma Live.phase_ne (live : e.Live) : e.phase ≠ .completed ∧ e.phase ≠ .failed := by
  refine ⟨fun hp => ?_, fun hp => ?_⟩
  all_goals
    have hc := live.eq_cancelled (by rw [hp]; rfl)
    cases hp.symm.trans hc

lemma Over.isTerminal (past : e.Over hooks status i) : e.phase.isTerminal = true := by
  cases past <;> (rename_i is; rw [is.phase]; rfl)

/-! ### What is sent -/

lemma sent_notMem_posting {callback : Option CallbackEnd} {ev : QueueEvent α} {accepted : Bool}
    {c : Nat} {r : Http.Request} : sent c r ∉ posting callback ev accepted := by
  cases callback <;> simp [posting]

/-- A request is given to the transport once at most, and then as it goes over the wire. -/
lemma Story.sent_cases (story : e.Story hooks status i) :
    (∀ c r, sent c r ∉ e.deeds) ∨
      ∃ c r, e.Sends r ∧ ∀ c' r', sent c' r' ∈ e.deeds → c' = c ∧ r' = r := by
  rcases story with live | ⟨-, past⟩
  · cases live with
    | waiting _ _ is => exact .inl (by simp [is.deeds])
    | calledOff _ is => exact .inl (by simp [is.deeds, withdrawal])
    | sending c r _ sends is => exact .inr ⟨c, r, sends, by simp [is.deeds, Deed.sending]⟩
    | leaving c r _ sends is =>
      exact .inr ⟨c, r, sends, by simp [is.deeds, Deed.sending, withdrawal]⟩
  · cases past with
    | calledOff is => exact .inl (by simp [is.deeds, withdrawal])
    | unsent fault accepted _ is =>
      exact .inl (by simp [is.deeds, failing, telling, sent_notMem_posting])
    | left c r sends is => exact .inr ⟨c, r, sends, by simp [is.deeds, Deed.sending, withdrawal]⟩
    | completed c r a v n accepted sends _ _ is =>
      refine .inr ⟨c, r, sends, ?_⟩
      simp [is.deeds, exchanged, Deed.sending, completing, sent_notMem_posting]
    | failed c r a f n accepted sends _ _ is =>
      refine .inr ⟨c, r, sends, ?_⟩
      simp [is.deeds, exchanged, Deed.sending, failing, telling, sent_notMem_posting]
    | withdrawn c r a sends _ _ is =>
      refine .inr ⟨c, r, sends, ?_⟩
      simp [is.deeds, exchanged, Deed.sending, withdrawal]

lemma Story.sends (story : e.Story hooks status i) {c : Nat} {r : Http.Request}
    (hd : sent c r ∈ e.deeds) : e.Sends r := by
  rcases story.sent_cases with hnone | ⟨c', r', sends, hall⟩
  · exact absurd hd (hnone c r)
  · obtain ⟨-, rfl⟩ := hall c r hd
    exact sends

lemma Story.call_unique (story : e.Story hooks status i) {c c' : Nat} {r r' : Http.Request}
    (hd : sent c r ∈ e.deeds) (hd' : sent c' r' ∈ e.deeds) : c' = c := by
  rcases story.sent_cases with hnone | ⟨c₀, r₀, -, hall⟩
  · exact absurd hd (hnone c r)
  · exact (hall c' r' hd').1.trans (hall c r hd).1.symm

end Story

end Entry

end Courier
