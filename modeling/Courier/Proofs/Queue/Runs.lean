import Courier.Proofs.Queue.Operations

/-!
Runs of a queue.  A move is whatever its caller, its transport or its tasks do with it, and a run
is any sequence of moves: tasks are polled in any order, whether they were woken or not.  Every
move leads from a sound queue to a sound one, so every queue that is reached is sound, and the
story of a request only ever goes on.
-/

namespace Courier

variable {α : Type}

/-! ### Moves -/

/-- One step of a queue's history. -/
inductive Move (α : Type)
  | submit (r : Request α)
  /-- through a handle or through a canceller -/
  | cancel (i : Nat)
  | answer (call : Nat) (a : Http.Request → Answer)
  | poll (t : Task)
  | runPending
  | runNext
  /-- by a caller that has the reader -/
  | spawnReader
  | dropReader
  | letGo
  | dropContext

namespace Queue

variable {q q₀ q₁ : Queue α} {i : Nat} {e : Entry α} {s : Settings}

/-- The queue after a move. -/
def apply (q : Queue α) : Move α → Queue α
  | .submit r => (q.submit r).2
  | .cancel i => (q.cancel i).2
  | .answer call a => (q.answer call a).2
  | .poll t => { q with ready := q.ready.erase t }.poll t
  | .runPending => q.runPending.2
  | .runNext => q.runNext.2
  | .spawnReader => if q.mailbox.reader = .kept then q.spawnReader else q
  | .dropReader => q.dropReader
  | .letGo => q.letGo
  | .dropContext => q.dropContext

/-- The queue after moves, one after another. -/
def play (q : Queue α) (ms : List (Move α)) : Queue α := ms.foldl apply q

/-- The queues that are reached from those made by settings. -/
inductive Reachable (s : Settings) : Queue α → Prop
  | made {q : Queue α} (hooks : List Hook) (instant : Nat → Http.Request → Option Answer)
      (h : over? s hooks instant = some q) : Reachable s q
  | step {q : Queue α} (h : Reachable s q) (m : Move α) : Reachable s (q.apply m)

theorem Reachable.play (h : Reachable s q) (ms : List (Move α)) : Reachable s (q.play ms) := by
  induction ms generalizing q with
  | nil => exact h
  | cons m ms ih => exact ih (h.step m)

/-! ### Soundness -/

lemma eq_of_limiterOf {cap : Option Nat} {l : Limiter} (h : limiterOf? cap = some (some l)) :
    ∃ n, cap = some n ∧ l = ⟨n, n, []⟩ := by
  unfold limiterOf? Limiter.ofCapacity? at h
  cases cap with
  | none => cases h
  | some n =>
    dsimp only at h
    split at h
    · cases h
      exact ⟨n, rfl, rfl⟩
    · cases h

/-- What a queue is that was just made. -/
lemma over_eq_some {hooks : List Hook} {instant : Nat → Http.Request → Option Answer}
    (h : over? s hooks instant = some q) : ∃ limiter, limiterOf? (capOf s) = some limiter ∧
      q = { hooks, successStatus := s.successStatus, instant, limiter } := by
  unfold over? at h
  cases hl : limiterOf? (capOf s) with
  | none =>
    rw [hl] at h
    cases h
  | some limiter =>
    rw [hl] at h
    cases h
    exact ⟨limiter, rfl, rfl⟩

theorem sound_of_over {hooks : List Hook} {instant : Nat → Http.Request → Option Answer}
    (h : over? s hooks instant = some q) : q.Sound := by
  obtain ⟨limiter, hl, rfl⟩ := over_eq_some h
  refine ⟨fun _ _ => nofun, fun l hlim => ?_, fun c j => ?_, ⟨fun _ _ => nofun, fun _ _ => nofun⟩,
    List.nodup_nil, fun j => ?_, fun _ _ => nofun,
    ⟨fun _ => nofun, fun j => List.nil_sublist _, fun _ _ => rfl⟩⟩
  · cases hlim
    obtain ⟨n, -, rfl⟩ := eq_of_limiterOf hl
    exact ⟨rfl, List.nodup_nil, fun j => iff_of_false List.not_mem_nil nofun, fun _ => nofun,
      fun _ => nofun⟩
  · exact iff_of_false (fun ⟨_, hk, _⟩ => nomatch hk) nofun
  · exact iff_of_false List.not_mem_nil fun ⟨_, he, _⟩ => nomatch he

lemma advances_erase (sound : q.Sound) (t : Task) :
    q.Advances { q with ready := q.ready.erase t } :=
  sound.refl.congr ⟨rfl, rfl, rfl, rfl, rfl, rfl⟩
    ⟨sound.mailed.plain, sound.mailed.heard, sound.mailed.whole⟩

/-- **Every move** leads from a sound queue to a sound one. -/
theorem Sound.apply (sound : q.Sound) (m : Move α) : q.Advances (q.apply m) := by
  cases m with
  | submit r => exact sound.submit r
  | cancel i => exact sound.cancel i
  | answer call a => exact sound.answer call a
  | poll t =>
    have x := advances_erase sound t
    cases t with
    | worker i => exact x.trans (x.sound.pollWorker i)
    | reader => exact x.trans x.sound.pollReader
  | runPending => exact sound.runPending
  | runNext => exact sound.runNext
  | spawnReader =>
    show q.Advances (if q.mailbox.reader = .kept then q.spawnReader else q)
    split
    · rename_i hr
      exact sound.spawnReader (by rw [hr]; nofun)
    · exact sound.refl
  | dropReader => exact sound.dropReader
  | letGo => exact sound.letGo
  | dropContext => exact sound.dropContext

/-- A worker whose request was cancelled ends when its task is polled. -/
theorem Sound.poll_of_signal (sound : q.Sound) (he : q.entries[i]? = some e)
    (hs : e.stage ≠ .ended) (hsig : e.signal = true) : q.Ended (q.apply (.poll (.worker i))) i := by
  have x := advances_erase sound (.worker i)
  have y := pollWorker_of_signal x.sound he hs hsig
  exact ⟨x.trans y.toAdvances, y.ended⟩

/-- **Every run** leads from a sound queue to a sound one. -/
theorem Sound.play (sound : q.Sound) (ms : List (Move α)) : q.Advances (q.play ms) := by
  induction ms generalizing q with
  | nil => exact sound.refl
  | cons m ms ih =>
    have x := sound.apply m
    exact x.trans (ih x.sound)

/-- **Every queue that is reached is sound.** -/
theorem Reachable.sound (h : Reachable s q) : q.Sound := by
  induction h with
  | made hooks instant h => exact sound_of_over h
  | step _ m ih => exact (ih.apply m).sound

/-! ### A small queue -/

/-- A queue with one hook and one permit. -/
def single : Queue Nat :=
  { hooks := [.always true], successStatus := 200, instant := fun _ _ => none,
    limiter := some ⟨1, 1, []⟩ }

/-- A request with both callbacks that has no URL to be sent to. -/
def stray : Request Nat :=
  { kind := "stray", endpoint := .error (.invalidEndpoint "none"),
    processor := fun _ => .panicked none, onSuccess := some .returns, onFailure := some .panics }

/-- A request that is sent to a resolvable URL. -/
def parcel : Request Nat :=
  { kind := "parcel", endpoint := .ok { method := .get, url := "http://a/" },
    processor := fun _ => .accepted 0 }

theorem reachable_single (ms : List (Move Nat)) :
    Reachable { maxConcurrent := some 1 } (single.play ms) :=
  Reachable.play (.made [.always true] (fun _ _ => none) rfl) ms

end Queue

end Courier
