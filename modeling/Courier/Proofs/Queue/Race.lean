import Courier.Queue.Phase
import Mathlib.Logic.Function.Basic
import Mathlib.Tactic.Lemma

/-!
Cancellations that are interrupted.  Whoever cancels a request makes two exchanges, first one for a
request that is executing and then one for a request that is idle, and its worker and other callers
may make theirs in between.  The phase only ever moves forward, so a caller whose first exchange
finds the request idle and whose second finds it executing has missed it both times: it is told
that there was nothing to cancel, and the request runs on.  That is the only way to miss it.
-/

namespace Courier

/-! ### Turns -/

/-- How far a caller is with its cancellation. -/
inductive Attempt
  /-- it has not begun -/
  | due
  /-- its first exchange had no effect, and the second is to be made -/
  | between
  /-- it was told whether the request is cancelled by it -/
  | told (flag : Bool)
  deriving DecidableEq, Repr

/-- How far the worker of the request is. -/
inductive Toil
  | before
  | atWork
  | done
  deriving DecidableEq, Repr

/-- A request in the hands of its worker and of any number of callers that cancel it. -/
structure Race where
  phase : Phase := .idle
  worker : Toil := .before
  callers : Nat → Attempt := fun _ => .due

/-- An exchange that is made next. -/
inductive Turn
  /-- by a caller -/
  | call (k : Nat)
  /-- by the worker that takes the request up -/
  | begin
  /-- by the worker that has a value -/
  | complete
  /-- by the worker that has a failure -/
  | fail
  deriving DecidableEq, Repr

namespace Race

variable {r r' : Race} {t : Turn} {us : List Turn} {k : Nat}

/-- The race after an exchange for a caller, which is told if it took effect, and else goes on. -/
def settle (r : Race) (k : Nat) (next : Attempt) : Bool × Phase → Race
  | (true, p) => { r with phase := p, callers := Function.update r.callers k (.told true) }
  | (false, p) => { r with phase := p, callers := Function.update r.callers k next }

/-- The race after the worker's first exchange. -/
def begin (r : Race) : Race :=
  match r.worker with
  | .before =>
    { r with phase := r.phase.begin.2, worker := if r.phase.begin.1 then .atWork else .done }
  | _ => r

/-- The race after the worker's last exchange, which it makes only if the first had an effect. -/
def finish (r : Race) (last : Phase) : Race :=
  match r.worker with
  | .atWork => { r with phase := (Phase.finish last r.phase).2, worker := .done }
  | _ => r

/-- The race after a turn; a turn of one who has nothing to do changes nothing. -/
def step (r : Race) : Turn → Race
  | .call k =>
    match r.callers k with
    | .due => r.settle k .between r.phase.cancelExecuting
    | .between => r.settle k (.told false) r.phase.cancelIdle
    | .told _ => r
  | .begin => r.begin
  | .complete => r.finish .completed
  | .fail => r.finish .failed

/-- The race after turns, one after another. -/
def play (r : Race) (ts : List Turn) : Race := ts.foldl step r

/-- The race has come about from its start by some turns. -/
def Reached (r : Race) : Prop := ∃ ts, ({} : Race).play ts = r

/-! ### One turn -/

lemma step_call_of_due (h : r.callers k = .due) :
    r.step (.call k) = r.settle k .between r.phase.cancelExecuting := by
  simp only [step, h]

lemma step_call_of_between (h : r.callers k = .between) :
    r.step (.call k) = r.settle k (.told false) r.phase.cancelIdle := by
  simp only [step, h]

lemma step_call_of_told {b : Bool} (h : r.callers k = .told b) : r.step (.call k) = r := by
  simp only [step, h]

lemma settle_eq (r : Race) (k : Nat) (next : Attempt) (x : Bool × Phase) :
    (r.settle k next x).phase = x.2 ∧ (r.settle k next x).worker = r.worker ∧
    (r.settle k next x).callers =
      Function.update r.callers k (if x.1 then .told true else next) := by
  obtain ⟨b, p⟩ := x
  cases b <;> exact ⟨rfl, rfl, rfl⟩

/-- Nobody but the caller itself brings a caller forward. -/
lemma callers_step (ht : t ≠ .call k) : (r.step t).callers k = r.callers k := by
  cases t with
  | call j =>
    have hjk : k ≠ j := fun h => ht (h ▸ rfl)
    cases hj : r.callers j with
    | due => rw [step_call_of_due hj, (settle_eq ..).2.2, Function.update_of_ne hjk]
    | between => rw [step_call_of_between hj, (settle_eq ..).2.2, Function.update_of_ne hjk]
    | told b => rw [step_call_of_told hj]
  | begin =>
    show r.begin.callers k = _
    unfold begin
    split <;> rfl
  | complete =>
    show (r.finish _).callers k = _
    unfold finish
    split <;> rfl
  | fail =>
    show (r.finish _).callers k = _
    unfold finish
    split <;> rfl

/-- What a turn can do: nothing to the phase, and then a worker at work on it stays so, or the
worker begins, or the request ends. -/
lemma step_cases (r : Race) (t : Turn) :
    ((r.step t).phase = r.phase ∧
      (r.phase = .executing → r.worker = .atWork → (r.step t).worker = .atWork)) ∨
    (t = .begin ∧ r.phase = .idle ∧ (r.step t).phase = .executing ∧ (r.step t).worker = .atWork) ∨
    (r.phase.isTerminal = false ∧ (r.step t).phase.isTerminal = true) := by
  have hfinish : ∀ last : Phase, last.isTerminal = true →
      ((r.finish last).phase = r.phase ∧
        (r.phase = .executing → r.worker = .atWork → (r.finish last).worker = .atWork)) ∨
      (r.phase.isTerminal = false ∧ (r.finish last).phase.isTerminal = true) := by
    intro last hlast
    unfold finish
    split
    · by_cases hx : r.phase = .executing
      · exact .inr ⟨by rw [hx]; rfl, by rw [hx]; exact hlast⟩
      · exact .inl ⟨by simp only [Phase.finish_of_ne hx], fun h => absurd h hx⟩
    · exact .inl ⟨rfl, fun _ h => h⟩
  cases t with
  | call k =>
    cases hk : r.callers k with
    | due =>
      obtain ⟨hp, hw, -⟩ := settle_eq r k .between r.phase.cancelExecuting
      rw [step_call_of_due hk, hp, hw]
      cases r.phase <;> simp [Phase.cancelExecuting, Phase.exchange, Phase.isTerminal]
    | between =>
      obtain ⟨hp, hw, -⟩ := settle_eq r k (.told false) r.phase.cancelIdle
      rw [step_call_of_between hk, hp, hw]
      cases r.phase <;> simp [Phase.cancelIdle, Phase.exchange, Phase.isTerminal]
    | told b =>
      rw [step_call_of_told hk]
      exact .inl ⟨rfl, fun _ h => h⟩
  | begin =>
    show (r.begin.phase = _ ∧ _) ∨ (_ ∧ _ ∧ r.begin.phase = _ ∧ r.begin.worker = _) ∨ _
    cases hw : r.worker with
    | before =>
      by_cases hidle : r.phase = .idle
      · exact .inr (.inl (by simp [begin, hw, hidle, Phase.begin, Phase.exchange]))
      · exact .inl ⟨by simp [begin, hw, Phase.begin_of_ne hidle], fun _ h => by cases h⟩
    | atWork => exact .inl ⟨by simp [begin, hw], fun _ _ => by simp [step, begin, hw]⟩
    | done => exact .inl ⟨by simp [begin, hw], fun _ h => by cases h⟩
  | complete => exact (hfinish .completed rfl).imp_right .inr
  | fail => exact (hfinish .failed rfl).imp_right .inr

/-! ### Any number of turns -/

lemma callers_play (hus : .call k ∉ us) : (r.play us).callers k = r.callers k := by
  induction us generalizing r with
  | nil => rfl
  | cons t us ih =>
    have ht : t ≠ .call k := fun h => hus (h ▸ List.mem_cons_self)
    exact (ih fun h => hus (List.mem_cons_of_mem _ h)).trans (callers_step ht)

/-- A request that is executing after some turns was so before them, or it was idle and its worker
has begun in between. -/
lemma executing_of_play (hp : (r.play us).phase = .executing) :
    r.phase = .executing ∨ r.phase = .idle ∧ .begin ∈ us := by
  induction us generalizing r with
  | nil => exact .inl hp
  | cons t us ih =>
    rcases r.step_cases t with ⟨heq, -⟩ | ⟨rfl, hidle, -⟩ | ⟨-, hend⟩
    · have hback := ih hp
      rw [heq] at hback
      exact hback.imp_right fun ⟨hidle, hmem⟩ => ⟨hidle, List.mem_cons_of_mem _ hmem⟩
    · exact .inr ⟨hidle, List.mem_cons_self⟩
    · rcases ih hp with hx | ⟨hidle, -⟩
      · cases (congrArg Phase.isTerminal hx).symm.trans hend
      · cases (congrArg Phase.isTerminal hidle).symm.trans hend

/-- A request that is finished stays as it is. -/
lemma phase_play (hend : r.phase.isTerminal = true) : (r.play us).phase = r.phase := by
  induction us generalizing r with
  | nil => rfl
  | cons t us ih =>
    rcases r.step_cases t with ⟨heq, -⟩ | ⟨-, hidle, -⟩ | ⟨hopen, -⟩
    · rw [← heq] at hend
      exact (ih hend).trans heq
    · cases (congrArg Phase.isTerminal hidle).symm.trans hend
    · cases hopen.symm.trans hend

/-- Where a worker is at work on whatever is executing, it is so after any turns. -/
lemma worker_play (h : r.phase = .executing → r.worker = .atWork)
    (hp : (r.play us).phase = .executing) : (r.play us).worker = .atWork := by
  induction us generalizing r with
  | nil => exact h hp
  | cons t us ih =>
    refine ih (fun hx => ?_) hp
    rcases r.step_cases t with ⟨heq, hw⟩ | ⟨-, -, -, hw⟩ | ⟨-, hend⟩
    · have hx' := heq.symm.trans hx
      exact hw hx' (h hx')
    · exact hw
    · cases (congrArg Phase.isTerminal hx).symm.trans hend

/-! ### What a caller is told -/

/-- The first exchange of a caller either cancels the request or changes nothing. -/
lemma step_of_due (h : r.callers k = .due) :
    (r.phase = .executing ∧ (r.step (.call k)).callers k = .told true ∧
      (r.step (.call k)).phase = .cancelled) ∨
    (r.phase ≠ .executing ∧ (r.step (.call k)).callers k = .between ∧
      (r.step (.call k)).phase = r.phase) := by
  obtain ⟨hp, -, hc⟩ := settle_eq r k .between r.phase.cancelExecuting
  rw [step_call_of_due h, hp, hc, Function.update_self]
  cases r.phase <;> simp [Phase.cancelExecuting, Phase.exchange]

/-- The second exchange of a caller cancels what is idle. -/
lemma step_of_between (h : r.callers k = .between) :
    (r.phase = .idle ∧ (r.step (.call k)).callers k = .told true ∧
      (r.step (.call k)).phase = .cancelled) ∨
    (r.phase ≠ .idle ∧ (r.step (.call k)).callers k = .told false ∧
      (r.step (.call k)).phase = r.phase) := by
  obtain ⟨hp, -, hc⟩ := settle_eq r k (.told false) r.phase.cancelIdle
  rw [step_call_of_between h, hp, hc, Function.update_self]
  cases r.phase <;> simp [Phase.cancelIdle, Phase.exchange]

/-- A caller that is not interrupted cancels the request as if in one step. -/
theorem play_call_call (h : r.callers k = .due) :
    (r.play [.call k, .call k]).callers k = .told r.phase.cancel.1 ∧
    (r.play [.call k, .call k]).phase = r.phase.cancel.2 := by
  show ((r.step (.call k)).step (.call k)).callers k = _ ∧
    ((r.step (.call k)).step (.call k)).phase = _
  rcases step_of_due h with ⟨hx, htold, hp⟩ | ⟨hx, hmiss, hp⟩
  · rw [step_call_of_told htold, htold, hp, hx]
    exact ⟨rfl, rfl⟩
  · rcases step_of_between hmiss with ⟨hidle, htold, hp'⟩ | ⟨hidle, htold, hp'⟩
    · rw [htold, hp', ← hp, hidle]
      exact ⟨rfl, rfl⟩
    · rw [hp] at hidle hp'
      have hend : r.phase.isTerminal = true := by cases hr : r.phase <;> simp_all [Phase.isTerminal]
      rw [htold, hp', Phase.cancel_of_terminal hend]
      exact ⟨rfl, rfl⟩

/-- A worker that has taken up what is executing brings it to its end. -/
lemma finish_of_executing (hp : r.phase = .executing) (hw : r.worker = .atWork) (last : Phase) :
    (r.finish last).phase = last := by
  simp [finish, hw, hp, Phase.finish, Phase.exchange]

/-- **A cancellation that is lost.**  A caller that is told that there was nothing to cancel finds
the request unfinished exactly where its first exchange has found it idle and its second finds it
executing.  The worker has then begun between the two, and the request can still be completed or
fail.  A caller that was not told so has cancelled it. -/
theorem cancel_lost (h : Reached r) (hk : r.callers k = .due) (hus : .call k ∉ us)
    (heq : (r.step (.call k)).play us = r') :
    ((r'.step (.call k)).callers k = .told false ∧ (r'.step (.call k)).phase.isTerminal = false ↔
      r.phase = .idle ∧ r'.phase = .executing) ∧
    (r.phase = .idle → r'.phase = .executing → .begin ∈ us ∧
      (r'.play [.call k, .complete]).phase = .completed ∧
      (r'.play [.call k, .fail]).phase = .failed) ∧
    ((r'.step (.call k)).callers k ≠ .told false →
      (r'.step (.call k)).callers k = .told true ∧ (r'.step (.call k)).phase = .cancelled) := by
  have hcaller : r'.callers k = (r.step (.call k)).callers k := by rw [← heq, callers_play hus]
  have hstart : (r.step (.call k)).phase = .executing → (r.step (.call k)).worker = .atWork := by
    obtain ⟨ts, rfl⟩ := h
    have hplay : (({} : Race).play ts).step (.call k) = ({} : Race).play (ts ++ [.call k]) := by
      simp [play]
    rw [hplay]
    exact worker_play fun hx => by cases hx
  rcases step_of_due hk with ⟨hx, htold, hp⟩ | ⟨hx, hmiss, hp⟩
  · rw [htold] at hcaller
    have hgone : r'.phase = .cancelled := by rw [← heq, phase_play (by rw [hp]; rfl), hp]
    rw [step_call_of_told hcaller, hcaller, hx]
    refine ⟨⟨fun ⟨hf, _⟩ => ?_, fun ⟨hidle, _⟩ => ?_⟩, fun hidle => ?_, fun _ => ⟨rfl, hgone⟩⟩
    · cases hf
    · cases hidle
    · cases hidle
  · rw [hmiss] at hcaller
    have hback : r'.phase = .executing → r.phase = .idle ∧ .begin ∈ us := by
      intro hx'
      rw [← heq] at hx'
      rcases executing_of_play hx' with hon | ⟨hidle, hmem⟩
      · exact absurd (hp.symm.trans hon) hx
      · exact ⟨hp.symm.trans hidle, hmem⟩
    rcases step_of_between hcaller with ⟨hidle, htold, hp'⟩ | ⟨hidle, htold, hp'⟩
    · refine ⟨⟨fun ⟨hf, _⟩ => ?_, fun ⟨_, hx'⟩ => ?_⟩, fun _ hx' => ?_, fun _ => ⟨htold, hp'⟩⟩
      · cases htold.symm.trans hf
      · cases hidle.symm.trans hx'
      · cases hidle.symm.trans hx'
    · refine ⟨⟨fun ⟨_, hopen⟩ => ?_, fun ⟨_, hx'⟩ => ?_⟩, fun _ hx' => ?_, fun hne =>
        absurd htold hne⟩
      · rw [hp'] at hopen
        have hx' : r'.phase = .executing := by cases hr : r'.phase <;> simp_all [Phase.isTerminal]
        exact ⟨(hback hx').1, hx'⟩
      · rw [htold, hp', hx']
        exact ⟨rfl, rfl⟩
      · have hw : r'.worker = .atWork := by
          rw [← heq] at hx' ⊢
          exact worker_play hstart hx'
        have hw' : (r'.step (.call k)).worker = .atWork := by
          rw [step_call_of_between hcaller, (settle_eq ..).2.1, hw]
        exact ⟨(hback hx').2, finish_of_executing (hp'.trans hx') hw' _,
          finish_of_executing (hp'.trans hx') hw' _⟩

/-- A caller whose exchanges the worker comes between is told false, and the request completes. -/
theorem cancel_lost_of_begin :
    (({} : Race).play [.call 0, .begin, .call 0]).callers 0 = .told false ∧
    (({} : Race).play [.call 0, .begin, .call 0]).phase.isTerminal = false ∧
    (({} : Race).play [.call 0, .begin, .call 0, .complete]).phase = .completed := by
  have hreached : Reached {} := ⟨[], rfl⟩
  have hdue : ({} : Race).callers 0 = .due := rfl
  have hothers : Turn.call 0 ∉ [Turn.begin] := by decide
  obtain ⟨hiff, hlost, -⟩ := cancel_lost hreached hdue hothers rfl
  obtain ⟨htold, hopen⟩ := hiff.mpr ⟨rfl, rfl⟩
  exact ⟨htold, hopen, (hlost rfl rfl).2.1⟩

/-- It is not so that whoever is told false finds the request finished. -/
theorem not_told_false_only_if_finished : ¬∀ (ts : List Turn) (k : Nat),
    (({} : Race).play ts).callers k ≠ .told false →
    ((({} : Race).play ts).step (.call k)).callers k = .told false →
    ((({} : Race).play ts).step (.call k)).phase.isTerminal = true := by
  intro hall
  have hend := hall [.call 0, .begin] 0 (by decide) (by decide)
  revert hend
  decide

end Race

end Courier
