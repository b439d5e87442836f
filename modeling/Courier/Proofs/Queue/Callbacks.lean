import Courier.Proofs.Queue.Lifecycle

/-!
What hooks and callbacks get to know.  A request that ends completed or failed posts the one
callback that this calls for, with what its handle gets, and a request that is cancelled posts
none.  A failure is handed to the hooks once, and each of them has got it before the callback is
posted.
-/

namespace Courier

variable {α : Type}

/-! ### Deeds that tell -/

namespace Deed

def tells : Deed α → Bool
  | handled _ | told .. | posted .. => true
  | moved .. | cancelled | sent .. | answered .. | aborted _ | processed | delivered _ => false

/-- No deed of the list tells how the request went. -/
def Silent (ds : List (Deed α)) : Prop := ∀ d ∈ ds, d.tells = false

variable {ds : List (Deed α)}

lemma Silent.posts (h : Silent ds) : ds.filterMap callback? = [] :=
  List.filterMap_eq_nil_iff.mpr fun d hd => by cases d <;> first | rfl | cases h _ hd

lemma Silent.failures (h : Silent ds) : ds.filterMap handled? = [] :=
  List.filterMap_eq_nil_iff.mpr fun d hd => by cases d <;> first | rfl | cases h _ hd

lemma Silent.tellings (h : Silent ds) : ds.filterMap told? = [] :=
  List.filterMap_eq_nil_iff.mpr fun d hd => by cases d <;> first | rfl | cases h _ hd

lemma silent_exchanged {c n : Nat} {r : Http.Request} {a : Answer} :
    Silent (exchanged (α := α) c r a n) := by
  intro d hd
  simp only [exchanged, sending, List.mem_append, List.mem_cons, List.mem_replicate,
    List.not_mem_nil, or_false] at hd
  rcases hd with (rfl | rfl) | rfl | ⟨-, rfl⟩ <;> rfl

lemma tellings_telling (hooks : List Hook) (f : Failure) :
    (telling (α := α) hooks f).filterMap told? = (List.range hooks.length).map (·, f) := by
  unfold telling
  rw [List.filterMap_map]
  exact congrFun List.filterMap_eq_map' _

end Deed

namespace Entry

open Deed

variable {e : Entry α} {hooks : List Hook} {status : UInt16} {i : Nat}

lemma Live.silent (live : e.Live) : Silent e.deeds := by
  rcases live with ⟨-, -, is⟩ | ⟨-, is⟩ | ⟨c, r, -, -, is⟩ | ⟨c, r, -, -, is⟩
  all_goals
    rw [is.deeds]
    simp [Silent, withdrawal, Deed.sending, tells]

/-- A request that is over ends in one of three ways, and nothing was told before. -/
inductive Telling (hooks : List Hook) (i : Nat) (e : Entry α) : Prop
  | nothing (phase : e.phase = .cancelled) (silent : Silent e.deeds)
  | success (v : α) (accepted : Bool) (before : List (Deed α)) (phase : e.phase = .completed)
      (silent : Silent before) (deeds : e.deeds = before ++ completing i e.request v accepted)
  | failure (f : Failure) (accepted : Bool) (before : List (Deed α)) (phase : e.phase = .failed)
      (silent : Silent before) (deeds : e.deeds = before ++ failing hooks i e.request f accepted)

lemma Over.telling (past : e.Over hooks status i) : e.Telling hooks i := by
  cases past with
  | calledOff is =>
    refine .nothing is.phase ?_
    rw [is.deeds]
    simp [Silent, withdrawal, tells]
  | unsent fault accepted _ is =>
    exact .failure _ accepted _ is.phase (by simp [Silent, tells]) is.deeds
  | left c r _ is =>
    refine .nothing is.phase ?_
    rw [is.deeds]
    simp [Silent, withdrawal, Deed.sending, tells]
  | completed c r a v n accepted _ _ _ is =>
    exact .success v accepted _ is.phase silent_exchanged is.deeds
  | failed c r a f n accepted _ _ _ is =>
    exact .failure f accepted _ is.phase silent_exchanged is.deeds
  | withdrawn c r a _ _ _ is =>
    refine .nothing is.phase ?_
    rw [is.deeds]
    simp [Silent, exchanged, withdrawal, Deed.sending, tells]

lemma Over.outcomes_of_mem (past : e.Over hooks status i) {o : Outcome α}
    (hd : delivered o ∈ e.deeds) : e.outcomes = [o] := by
  obtain ⟨-, o', ho', -⟩ := past.path
  have hmem : o ∈ e.outcomes := List.mem_filterMap.mpr ⟨_, hd, rfl⟩
  rw [ho', List.mem_singleton] at hmem
  rw [ho', hmem]

/-- What the handle, the callbacks and the hooks have got for an entry, all told. -/
structure Got (e : Entry α) (outcomes : List (Outcome α)) (posts : List (QueueEvent α))
    (failures : List Failure) (tellings : List (Nat × Failure)) : Prop where
  outcomes : e.outcomes = outcomes
  posts : e.posts = posts
  failures : e.failures = failures
  tellings : e.tellings = tellings

lemma got_of_silent {os : List (Outcome α)} (h : Silent e.deeds) (ho : e.outcomes = os) :
    e.Got os [] [] [] :=
  ⟨ho, h.posts, h.failures, h.tellings⟩

lemma got_of_success {v : α} {accepted : Bool} {before : List (Deed α)} {c : CallbackEnd}
    (past : e.Over hooks status i) (hc : e.request.onSuccess = some c) (silent : Silent before)
    (deeds : e.deeds = before ++ completing i e.request v accepted) :
    e.Got [.completed v] [.succeeded i v] [] [] := by
  refine ⟨past.outcomes_of_mem (by rw [deeds]; simp [completing]), ?_, ?_, ?_⟩
  · unfold posts
    rw [deeds, List.filterMap_append, silent.posts, completing, hc]
    rfl
  · unfold failures
    rw [deeds, List.filterMap_append, silent.failures, filterMap_completing rfl]
    rfl
  · unfold tellings
    rw [deeds, List.filterMap_append, silent.tellings, filterMap_completing rfl]
    rfl

lemma got_of_failure {f : Failure} {accepted : Bool} {before : List (Deed α)} {c : CallbackEnd}
    (past : e.Over hooks status i) (hc : e.request.onFailure = some c) (silent : Silent before)
    (deeds : e.deeds = before ++ failing hooks i e.request f accepted) :
    e.Got [.failed f] [.failed i f] [f] ((List.range hooks.length).map (·, f)) := by
  refine ⟨past.outcomes_of_mem (by rw [deeds]; simp [failing]), ?_, ?_, ?_⟩
  · unfold posts
    rw [deeds, List.filterMap_append, silent.posts, failing, hc, List.filterMap_cons,
      List.filterMap_cons, List.filterMap_append, filterMap_telling fun _ => rfl]
    rfl
  · unfold failures
    rw [deeds, List.filterMap_append, silent.failures, failing, hc, List.filterMap_cons,
      List.filterMap_cons, List.filterMap_append, filterMap_telling fun _ => rfl]
    rfl
  · unfold tellings
    rw [deeds, List.filterMap_append, silent.tellings, failing, hc, List.filterMap_cons,
      List.filterMap_cons, List.filterMap_append, tellings_telling]
    exact List.append_nil _

end Entry

namespace Queue

variable {q : Queue α} {s : Settings} {i : Nat} {e : Entry α}

/-- The callbacks of a request that wait to be run or were run are those that it posted, unless
they were lost with the reader. -/
lemma heard_posts (sound : q.Sound) (he : q.entries[i]? = some e) :
    (q.heard i).Sublist e.posts ∧ (q.mailbox.reader ≠ .gone → q.heard i = e.posts) := by
  have hp : q.posted i = e.posts := by
    unfold posted
    rw [he]
    rfl
  rw [← hp]
  exact ⟨sound.mailed.heard i, fun hr => sound.mailed.whole hr i⟩

/-- **What callbacks and hooks get to know** of a request that has both callbacks.  At most one
callback is posted, and it is run at most once, and not lost as long as there is a reader; the one
for a value gets the value that the handle gets, the one for a failure the failure, and there is
none exactly if the request ends cancelled.  The hooks get the failure of a failed request once and
in their order, when the request is already failed and before its callback is posted, and no other
request gives them any. -/
theorem callbacks {c c' : CallbackEnd} (h : Reachable s q) (he : q.entries[i]? = some e)
    (hs : e.request.onSuccess = some c) (hf : e.request.onFailure = some c') :
    e.posts.length ≤ 1 ∧
    ((q.heard i).Sublist e.posts ∧ (q.mailbox.reader ≠ .gone → q.heard i = e.posts)) ∧
    (∀ v, .succeeded i v ∈ e.posts ↔ e.outcomes = [.completed v]) ∧
    ((∃ v, .succeeded i v ∈ e.posts) ↔ e.phase = .completed) ∧
    (∀ f, .failed i f ∈ e.posts ↔ e.outcomes = [.failed f]) ∧
    ((∃ f, .failed i f ∈ e.posts) ↔ e.phase = .failed) ∧
    (e.stage = .ended → (e.posts = [] ↔ e.phase = .cancelled)) ∧
    (e.phase ≠ .failed → e.failures = [] ∧ e.tellings = []) ∧
    (e.phase = .failed → ∃ f accepted before, e.outcomes = [.failed f] ∧ e.failures = [f] ∧
      e.tellings = (List.range q.hooks.length).map (·, f) ∧ Deed.Silent before ∧
      e.deeds = before ++ (.moved .executing .failed :: .handled f ::
        (Deed.telling q.hooks f ++ [.posted (.failed i f) accepted, .delivered (.failed f)]))) := by
  have heard := heard_posts h.sound he
  rcases h.sound.stories i e he with live | ⟨hended, past⟩
  · have got := Entry.got_of_silent live.silent live.path.2
    have hphase := live.phase_ne
    have hstage := live.stage_ne
    refine ⟨?_, heard, ?_⟩
    all_goals simp [got.outcomes, got.posts, got.failures, got.tellings, hphase, hstage]
  cases past.telling with
  | nothing phase silent =>
    obtain ⟨-, o, ho, hp⟩ := past.path
    have hcancelled := Outcome.eq_cancelled (hp.trans phase)
    have got := Entry.got_of_silent silent ho
    refine ⟨?_, heard, ?_⟩
    all_goals simp [got.outcomes, got.posts, got.failures, got.tellings, phase, hcancelled]
  | success v accepted before phase silent deeds =>
    have got := Entry.got_of_success past hs silent deeds
    refine ⟨?_, heard, fun v' => ?_, ?_, ?_, ?_, ?_, fun _ => ⟨got.failures, got.tellings⟩,
      fun hp => absurd (phase.symm.trans hp) nofun⟩
    · simp [got.posts]
    · rw [got.posts, got.outcomes, List.mem_singleton]
      constructor <;> (rintro ⟨⟩; rfl)
    · simp [got.posts, phase]
    · simp [got.posts, got.outcomes]
    · simp [got.posts, phase]
    · simp [got.posts, phase]
  | failure f accepted before phase silent deeds =>
    have got := Entry.got_of_failure past hf silent deeds
    have hdeeds : e.deeds = before ++ (.moved .executing .failed :: .handled f ::
        (Deed.telling q.hooks f ++ [.posted (.failed i f) accepted, .delivered (.failed f)])) := by
      rw [deeds, Deed.failing, hf]
      rfl
    refine ⟨?_, heard, ?_, ?_, fun f' => ?_, ?_, ?_, fun hne => absurd phase hne, fun _ =>
      ⟨f, accepted, before, got.outcomes, got.failures, got.tellings, silent, hdeeds⟩⟩
    · simp [got.posts]
    · simp [got.posts, got.outcomes]
    · simp [got.posts, phase]
    · rw [got.posts, got.outcomes, List.mem_singleton]
      constructor <;> (rintro ⟨⟩; rfl)
    · simp [got.posts, phase]
    · simp [got.posts, phase]

/-- A request that has no URL to be sent to posts the callback for its failure. -/
theorem callbacks_of_stray :
    ∃ e, (single.play [.submit stray, .poll (.worker 0)]).entries[0]? = some e ∧
      e.posts.length ≤ 1 ∧ ∃ f, .failed 0 f ∈ e.posts := by
  have hfails : ((single.play [.submit stray, .poll (.worker 0)]).entries[0]?).map
      (fun e => (e.request.onSuccess, e.request.onFailure, e.phase)) =
      some (some .returns, some .panics, .failed) := rfl
  obtain ⟨e, he, hx⟩ := Option.map_eq_some_iff.mp hfails
  obtain ⟨hs, hx⟩ := Prod.mk.inj hx
  obtain ⟨hf, hp⟩ := Prod.mk.inj hx
  obtain ⟨hle, -, -, -, -, hfailed, -⟩ := callbacks (reachable_single _) he hs hf
  exact ⟨e, he, hle, hfailed.mpr hp⟩

/-- What happens when a failure is handed to the hooks of a queue is what hooks do with it. -/
theorem trace_handle (q : Queue α) (i : Nat) (f : Failure) :
    (q.handle i f).trace = q.trace ++ (Hook.handle q.hooks f).mapEvents .hook := by
  have hfold : ∀ (calls : List (Nat × Trace HookEvent)) (q : Queue α),
      (calls.foldl (tell i f) q).trace =
        q.trace ++ (calls.flatMap (·.2)).map (Happening.map .hook) := by
    intro calls
    induction calls with
    | nil => exact fun q => (List.append_nil _).symm
    | cons c calls ih =>
      intro q
      rw [List.foldl_cons, ih, List.flatMap_cons, List.map_append, ← List.append_assoc]
      rfl
  show (((Hook.calls f q.hooks).foldl (tell i f) _)).trace = _
  rw [hfold]
  unfold Hook.handle Trace.mapEvents
  rw [List.map_append, List.map_map, ← List.append_assoc]
  rfl

end Queue

end Courier
