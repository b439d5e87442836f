import Courier.Proofs.Queue.Runs

/-!
What happened is only told, and nothing is done on account of it.  A queue with another past
(`Queue.preface`) goes on in the same way, move for move, and tells the same from there on.
-/

namespace Courier.Queue

variable {α : Type} (q : Queue α) (t : Trace (QueueEvent α)) (i : Nat)

/-- The queue as if more had happened before. -/
def preface (q : Queue α) (t : Trace (QueueEvent α)) : Queue α := { q with trace := t ++ q.trace }

/-! ### What is seen of a queue -/

@[simp] lemma entries_preface : (q.preface t).entries = q.entries := rfl
@[simp] lemma limiter_preface : (q.preface t).limiter = q.limiter := rfl
@[simp] lemma calls_preface : (q.preface t).calls = q.calls := rfl
@[simp] lemma mailbox_preface : (q.preface t).mailbox = q.mailbox := rfl
@[simp] lemma instant_preface : (q.preface t).instant = q.instant := rfl
@[simp] lemma hooks_preface : (q.preface t).hooks = q.hooks := rfl
@[simp] lemma successStatus_preface : (q.preface t).successStatus = q.successStatus := rfl
@[simp] lemma hasPosters_preface : (q.preface t).hasPosters = q.hasPosters := rfl
@[simp] lemma phase_preface : (q.preface t).phase? i = q.phase? i := rfl
@[simp] lemma snapshot_preface : (q.preface t).snapshot = q.snapshot := rfl

/-! ### Records and tasks -/

@[simp] lemma preface_append (u : Trace (QueueEvent α)) :
    (q.preface t).append u = (q.append u).preface t := by
  unfold preface append
  rw [List.append_assoc]

@[simp] lemma preface_log (r : LogRecord) : (q.preface t).log r = (q.log r).preface t :=
  preface_append q t [.log r]

@[simp] lemma preface_emit (ev : QueueEvent α) : (q.preface t).emit ev = (q.emit ev).preface t :=
  preface_append q t [.event ev]

@[simp] lemma preface_wake (task : Task) : (q.preface t).wake task = (q.wake task).preface t := by
  rw [wake_eq, wake_eq]
  rfl

@[simp] lemma preface_wakeReader : (q.preface t).wakeReader = q.wakeReader.preface t := by
  unfold wakeReader
  rw [mailbox_preface, preface_wake]
  split <;> rfl

@[simp] lemma preface_wakeWaiting : (q.preface t).wakeWaiting i = (q.wakeWaiting i).preface t := by
  unfold wakeWaiting
  rw [entries_preface, preface_wake]
  split
  · split <;> rfl
  · rfl

@[simp] lemma preface_noticePosters : (q.preface t).noticePosters = q.noticePosters.preface t := by
  unfold noticePosters
  rw [hasPosters_preface, preface_wakeReader]
  split <;> rfl

@[simp] lemma preface_post (c : Callback (QueueEvent α)) :
    (q.preface t).post c = (q.post c).preface t := by
  by_cases hr : q.mailbox.reader = .gone
  · rw [post_of_gone hr, post_of_gone (by exact hr), preface_log]
  · rw [post_of_open hr, post_of_open (by exact hr), ← preface_wakeReader]
    rfl

/-! ### Entries and calls -/

@[simp] lemma preface_modify (f : Entry α → Entry α) :
    (q.preface t).modify i f = (q.modify i f).preface t := rfl

@[simp] lemma preface_setStage (s : Stage) :
    (q.preface t).setStage i s = (q.setStage i s).preface t := rfl

@[simp] lemma preface_note (d : Deed α) : (q.preface t).note i d = (q.note i d).preface t := rfl

@[simp] lemma preface_deliver (o : Outcome α) :
    (q.preface t).deliver i o = (q.deliver i o).preface t := rfl

@[simp] lemma preface_unlist : (q.preface t).unlist i = (q.unlist i).preface t := rfl

@[simp] lemma preface_addCall (k : Call) : (q.preface t).addCall k = (q.addCall k).preface t := rfl

@[simp] lemma preface_modifyCall (c : Nat) (f : Call → Call) :
    (q.preface t).modifyCall c f = (q.modifyCall c f).preface t := rfl

@[simp] lemma preface_unawait (c : Nat) : (q.preface t).unawait c = (q.unawait c).preface t := rfl

@[simp] lemma preface_exchange (step : Phase → Bool × Phase) :
    (q.preface t).exchange i step =
      ((q.exchange i step).1, (q.exchange i step).2.preface t) := by
  unfold exchange
  rw [phase_preface]
  cases q.phase? i with
  | none => rfl
  | some p =>
    dsimp only
    split <;> rfl

@[simp] lemma preface_cancel :
    (q.preface t).cancel i = ((q.cancel i).1, (q.cancel i).2.preface t) := by
  unfold cancel
  rw [preface_exchange]
  obtain ⟨took, q₁⟩ := q.exchange i Phase.cancel
  cases took with
  | false => rfl
  | true =>
    have hraise : (q₁.preface t).raiseSignal i = (q₁.raiseSignal i).preface t := rfl
    have hrecord : (q₁.preface t).cancelRecord i = q₁.cancelRecord i := rfl
    simp [hraise, hrecord]

/-! ### Endings -/

@[simp] lemma preface_release : (q.preface t).release = q.release.preface t := by
  unfold release
  rw [limiter_preface]
  cases q.limiter with
  | none => rfl
  | some l =>
    dsimp only
    obtain ⟨next, l'⟩ := l.release
    cases next with
    | none => rfl
    | some j => exact preface_wake ({ q with limiter := some l' }.setStage j .granted) t (.worker j)

@[simp] lemma preface_retire (permit : Bool) :
    (q.preface t).retire i permit = (q.retire i permit).preface t := by
  unfold retire releaseIf
  cases permit <;> simp

@[simp] lemma preface_postIf (callback : Option CallbackEnd) (ev : QueueEvent α) :
    (q.preface t).postIf i callback ev = (q.postIf i callback ev).preface t := by
  unfold postIf
  cases callback <;> simp

@[simp] lemma preface_complete (e : Entry α) (v : α) :
    (q.preface t).complete i e v = (q.complete i e v).preface t := by
  unfold complete
  rw [preface_exchange]
  obtain ⟨took, q₁⟩ := q.exchange i (Phase.finish .completed)
  cases took <;> simp

@[simp] lemma preface_handle (f : Failure) :
    (q.preface t).handle i f = (q.handle i f).preface t := by
  have all : ∀ (calls : List (Nat × Trace HookEvent)) (q : Queue α),
      calls.foldl (tell i f) (q.preface t) = (calls.foldl (tell i f) q).preface t := by
    intro calls
    induction calls with
    | nil => exact fun _ => rfl
    | cons c calls ih =>
      intro q
      have htell : tell i f (q.preface t) c = (tell i f q c).preface t := by simp [tell]
      rw [List.foldl_cons, List.foldl_cons, htell, ih]
  unfold handle
  dsimp only
  rw [preface_note, preface_append, hooks_preface, all]

@[simp] lemma preface_fail (e : Entry α) (f : Failure) :
    (q.preface t).fail i e f = (q.fail i e f).preface t := by
  unfold fail
  rw [preface_exchange]
  obtain ⟨took, q₁⟩ := q.exchange i (Phase.finish .failed)
  cases took <;> simp

/-! ### Work -/

@[simp] lemma preface_processorCalled (e : Entry α) :
    (q.preface t).processorCalled i e = (q.processorCalled i e).preface t := by
  unfold processorCalled
  cases e.request.cancelsItself <;> simp

@[simp] lemma preface_follow (e : Entry α) (u : Trace ProcessorCall) :
    (q.preface t).follow i e u = (q.follow i e u).preface t := by
  induction u generalizing q with
  | nil => rfl
  | cons happening u ih =>
    cases happening with
    | log r => exact (congrArg (follow · i e u) (preface_log q t r)).trans (ih _)
    | event ev => exact (congrArg (follow · i e u) (preface_processorCalled q t i e)).trans (ih _)

@[simp] lemma preface_conclude (e : Entry α) (v : Verdict α) :
    (q.preface t).conclude i e v = (q.conclude i e v).preface t := by
  cases v with
  | completed value => exact preface_complete q t i e value
  | failed failure => exact preface_fail q t i e failure
  | abandoned => rfl

@[simp] lemma preface_answered (e : Entry α) (c : Nat) (url : String) (a : Answer) :
    (q.preface t).answered i e c url a = (q.answered i e c url a).preface t := by
  unfold answered
  cases a <;> simp

@[simp] lemma preface_place (r : Http.Request) (a : Option Answer) :
    (q.preface t).place i r a = (q.place i r a).preface t := by
  unfold place
  simp

@[simp] lemma preface_send (e : Entry α) (permit : Bool) (r : Http.Request) :
    (q.preface t).send i e permit r = (q.send i e permit r).preface t := by
  have hdispatch : ∀ q : Queue α,
      (q.preface t).dispatch i e permit r = (q.dispatch i e permit r).preface t := by
    intro q
    unfold dispatch
    dsimp only
    rw [instant_preface, calls_preface]
    cases q.instant q.calls.length r <;> simp
  unfold send
  simp [hdispatch]

@[simp] lemma preface_start (e : Entry α) (permit : Bool) :
    (q.preface t).start i e permit = (q.start i e permit).preface t := by
  unfold start
  rw [preface_exchange]
  obtain ⟨took, q₁⟩ := q.exchange i Phase.begin
  cases took with
  | false => simp
  | true =>
    dsimp only
    cases e.request.endpoint.bind Endpoint.toRequest <;> simp

@[simp] lemma preface_receive (e : Entry α) (c : Nat) :
    (q.preface t).receive i e c = (q.receive i e c).preface t := by
  have habort : (q.preface t).abort i c = (q.abort i c).preface t := by simp [abort]
  unfold receive
  rw [calls_preface, limiter_preface]
  cases q.calls[c]? with
  | none => rfl
  | some k =>
    dsimp only
    split
    · simp [habort]
    · cases k.answer <;> simp

@[simp] lemma preface_pollWorker : (q.preface t).pollWorker i = (q.pollWorker i).preface t := by
  unfold pollWorker
  rw [entries_preface, limiter_preface]
  cases q.entries[i]? with
  | none => rfl
  | some e =>
    dsimp only
    cases e.stage with
    | ended => rfl
    | sending c => exact preface_receive q t i e c
    | fresh =>
      cases q.limiter with
      | none => exact preface_start q t i e false
      | some l =>
        dsimp only
        split
        · exact preface_start q t i e false
        · cases l.take? with
          | some l' => exact preface_start { q with limiter := some l' } t i e true
          | none => rfl
    | inLine =>
      cases q.limiter with
      | none => rfl
      | some l =>
        dsimp only
        split
        · exact preface_start { q with limiter := some (l.leave i) } t i e false
        · rfl
    | granted =>
      cases q.limiter with
      | none => rfl
      | some l =>
        dsimp only
        split
        · rw [preface_release, preface_start]
        · exact preface_start q t i e true

/-! ### Moves -/

lemma preface_runPending : (q.preface t).runPending.2 = q.runPending.2.preface t :=
  preface_append { q with mailbox := q.mailbox.runPending.2.2 } t q.mailbox.runPending.2.1

lemma preface_pollReader : (q.preface t).pollReader = q.pollReader.preface t := by
  show (if q.hasPosters then (q.preface t).runPending.2 else
      { (q.preface t).runPending.2 with mailbox := q.mailbox.runPending.2.2.dropReader }) =
    (if q.hasPosters then q.runPending.2 else
      { q.runPending.2 with mailbox := q.mailbox.runPending.2.2.dropReader }).preface t
  rw [preface_runPending]
  split <;> rfl

/-- **Every move** does the same, whatever happened before. -/
theorem preface_apply (m : Move α) : (q.preface t).apply m = (q.apply m).preface t := by
  cases m with
  | submit r =>
    show ((q.preface t).submit r).2 = (q.submit r).2.preface t
    unfold submit
    rw [snapshot_preface]
    split
    · unfold enqueue
      dsimp only
      rw [entries_preface, ← preface_wake, ← preface_log]
      rfl
    · rw [← preface_log]
      rfl
  | cancel i => exact congrArg Prod.snd (preface_cancel q t i)
  | answer c a =>
    show ((q.preface t).answer c a).2 = (q.answer c a).2.preface t
    unfold answer
    rw [calls_preface]
    cases q.calls[c]? with
    | none => rfl
    | some k =>
      dsimp only
      split
      · rfl
      · split <;> simp
  | poll task =>
    cases task with
    | worker i => exact preface_pollWorker { q with ready := q.ready.erase (.worker i) } t i
    | reader =>
      exact preface_pollReader { q with ready := q.ready.erase .reader } t
  | runPending => exact preface_runPending q t
  | runNext =>
    show ((q.preface t).runNext).2 = q.runNext.2.preface t
    unfold runNext
    rw [mailbox_preface]
    cases q.mailbox.runNext? with
    | none => rfl
    | some next => exact preface_append { q with mailbox := next.2 } t next.1
  | spawnReader =>
    show (if q.mailbox.reader = .kept then (q.preface t).spawnReader else q.preface t) =
      (if q.mailbox.reader = .kept then q.spawnReader else q).preface t
    split
    · exact preface_wake { q with mailbox := { q.mailbox with reader := .task } } t .reader
    · rfl
  | dropReader => rfl
  | letGo => exact preface_noticePosters { q with held := false } t
  | dropContext => exact preface_noticePosters { q with contextHeld := false } t

/-- **Every run** does the same, whatever happened before. -/
theorem preface_play (ms : List (Move α)) : (q.preface t).play ms = (q.play ms).preface t := by
  induction ms generalizing q with
  | nil => rfl
  | cons m ms ih =>
    show ((q.preface t).apply m).play ms = ((q.apply m).play ms).preface t
    rw [preface_apply, ih]

end Courier.Queue
