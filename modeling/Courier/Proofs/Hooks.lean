import Courier.Hook
import Mathlib.Data.List.Induction
import Mathlib.Tactic.Lemma

/-!
Failures and the hooks that are told of them.  A hook that panics ends what it is doing, and would
end all that was to come after it were its panic not caught where the hook is called.  Here a panic
ends work until something catches it, and failures are given to hooks in such work: it comes to the
trace of `Hook.handle`, failure by failure, and every hook does what it would do alone.
-/

namespace Courier

/-! ### Work that may end in a panic -/

/-- What came of some work: the hooks that were called and with what, what happened, and whether a
panic that nobody caught has ended it. -/
structure Work where
  calls : List (Nat × Failure) := []
  trace : Trace HookEvent := []
  panicked : Bool := false

namespace Work

/-- Work after other work, which is done only if no panic has ended the first. -/
def andThen (a b : Work) : Work :=
  if a.panicked then a else ⟨a.calls ++ b.calls, a.trace ++ b.trace, b.panicked⟩

/-- Work whose panic is caught and logged. -/
def caught (record : LogRecord) (a : Work) : Work :=
  if a.panicked then ⟨a.calls, a.trace ++ [.log record], false⟩ else a

/-- Work for every one of some things in order. -/
def forEach {α : Type} (work : α → Work) : List α → Work
  | [] => {}
  | x :: xs => (work x).andThen (forEach work xs)

lemma panicked_caught (record : LogRecord) (a : Work) : (a.caught record).panicked = false := by
  unfold caught
  split
  case isTrue => rfl
  case isFalse fine => simpa using fine

lemma calls_caught (record : LogRecord) (a : Work) : (a.caught record).calls = a.calls := by
  unfold caught
  split <;> rfl

lemma andThen_of_fine {a : Work} (fine : a.panicked = false) (b : Work) :
    a.andThen b = ⟨a.calls ++ b.calls, a.trace ++ b.trace, b.panicked⟩ := by
  unfold andThen
  rw [fine]
  rfl

/-- Work that leaves no panic is done for everything. -/
lemma forEach_of_fine {α : Type} {work : α → Work} (xs : List α)
    (fine : ∀ x ∈ xs, (work x).panicked = false) :
    forEach work xs = ⟨xs.flatMap fun x => (work x).calls, xs.flatMap fun x => (work x).trace,
      false⟩ := by
  induction xs with
  | nil => rfl
  | cons x xs ih =>
    have rest := ih fun y hy => fine y (List.mem_cons_of_mem x hy)
    rw [forEach, andThen_of_fine (fine x List.mem_cons_self), rest]
    rfl

end Work

/-- The error that a failure is, if it is an application error of this code. -/
def Failure.ofCode? (code : Int) : Failure → Option ApplicationError
  | .application e => if e.code = code then some e else none
  | _ => none

/-- Whose event it is. -/
def HookEvent.hook : HookEvent → Nat
  | told i _ | acted i _ => i

namespace Hook

/-! ### Hooks at work -/

/-- The hooks with one more, which comes last. -/
def register (hooks : List Hook) (hook : Hook) : List Hook := hooks ++ [hook]

/-- A hook is called with a failure.  Only what it does when it acts can panic. -/
def onFailure (failure : Failure) (hook : Hook) (i : Nat) : Work :=
  ⟨[(i, failure)], hook.act i failure, hook.actsOn failure && hook.panics⟩

/-- A failure is logged and given to each hook, whose panic is caught. -/
def dispatch (hooks : List Hook) (failure : Failure) : Work :=
  Work.andThen ⟨[], (arrival failure).map .log, false⟩
    (Work.forEach (fun x => (onFailure failure x.1 x.2).caught (panicked failure))
      hooks.zipIdx)

/-- Failures are handled one after another. -/
def dispatchAll (hooks : List Hook) (failures : List Failure) : Work :=
  Work.forEach (dispatch hooks) failures

lemma foldl_register (hooks hooks' : List Hook) :
    hooks'.foldl register hooks = hooks ++ hooks' := by
  induction hooks' generalizing hooks with
  | nil => simp
  | cons hook hooks' ih =>
    rw [List.foldl_cons, ih]
    unfold register
    rw [List.append_assoc, List.singleton_append]

lemma trace_caught (failure : Failure) (hook : Hook) (i : Nat) :
    ((onFailure failure hook i).caught (panicked failure)).trace = hook.call i failure := by
  unfold Work.caught onFailure call
  split
  case isTrue => rfl
  case isFalse => exact (List.append_nil _).symm

/-- Handling a failure calls every hook once, comes to what `handle` says, and never panics. -/
lemma dispatch_eq (hooks : List Hook) (failure : Failure) :
    dispatch hooks failure =
      ⟨(List.range hooks.length).map (·, failure), handle hooks failure, false⟩ := by
  have calls : (hooks.zipIdx.flatMap fun x => (onFailure failure x.1 x.2).calls) =
      (List.range hooks.length).map (·, failure) := by
    rw [List.range_eq_range', ← List.zipIdx_map_snd 0 hooks, List.map_map, List.map_eq_flatMap]
    rfl
  have trace : (hooks.zipIdx.flatMap fun x => x.1.call x.2 failure) =
      (Hook.calls failure hooks).flatMap (·.2) := by
    unfold Hook.calls
    rw [List.mapIdx_eq_zipIdx_map, List.flatMap_map]
  unfold dispatch
  rw [Work.andThen_of_fine rfl,
    Work.forEach_of_fine _ fun _ _ => Work.panicked_caught _ _]
  simp only [Work.calls_caught, trace_caught, calls, trace]
  rfl

lemma dispatchAll_eq (hooks : List Hook) (failures : List Failure) :
    dispatchAll hooks failures =
      ⟨failures.flatMap fun f => (List.range hooks.length).map (·, f),
        failures.flatMap (handle hooks), false⟩ := by
  unfold dispatchAll
  rw [Work.forEach_of_fine _ fun f _ => by rw [dispatch_eq]]
  simp only [dispatch_eq]

/-! ### What one hook does -/

/-- What the `i`-th hook is seen to do with a failure. -/
def answer? (failure : Failure) (i : Nat) : Hook → Option HookEvent
  | always _ => some (.told i failure)
  | onCode code _ => (failure.ofCode? code).map (.acted i)

lemma filter_answer (hook : Hook) (failure : Failure) (i : Nat) :
    (hook.answer? failure i).toList.filter (·.hook = i) = (hook.answer? failure i).toList := by
  cases hook with
  | always => simp [answer?, HookEvent.hook]
  | onCode code => cases h : failure.ofCode? code <;> simp [answer?, HookEvent.hook, h]

lemma filter_answer_of_ne (hook : Hook) (failure : Failure) {i j : Nat} (other : j ≠ i) :
    (hook.answer? failure j).toList.filter (·.hook = i) = [] := by
  cases hook with
  | always => simp [answer?, HookEvent.hook, other]
  | onCode code => cases h : failure.ofCode? code <;> simp [answer?, HookEvent.hook, h, other]

lemma events_act (hook : Hook) (i : Nat) (failure : Failure) :
    (hook.act i failure).events = (hook.answer? failure i).toList := by
  cases hook with
  | always => rfl
  | onCode code =>
    cases failure with
    | transport | service => rfl
    | application e =>
      by_cases same : e.code = code <;> simp [act, answer?, Failure.ofCode?, same] <;> rfl

/-- A panic that is caught is no event. -/
lemma events_call (hook : Hook) (i : Nat) (failure : Failure) :
    (hook.call i failure).events = (hook.answer? failure i).toList := by
  unfold call
  rw [Trace.events_append, events_act]
  split <;> exact List.append_nil _

lemma events_handle_nil (failure : Failure) : (handle [] failure).events = [] := by
  unfold handle
  rw [Trace.events_append, Trace.events_logs]
  rfl

lemma events_handle_concat (hooks : List Hook) (hook : Hook) (failure : Failure) :
    (handle (hooks ++ [hook]) failure).events =
      (handle hooks failure).events ++ (hook.answer? failure hooks.length).toList := by
  unfold handle Hook.calls
  rw [List.mapIdx_concat, List.flatMap_append, ← List.append_assoc, Trace.events_append,
    List.flatMap_singleton, events_call]

/-- What the `i`-th of the hooks does with a failure depends on nothing but itself. -/
lemma filter_events_handle (hooks : List Hook) (failure : Failure) (i : Nat) :
    (handle hooks failure).events.filter (·.hook = i) =
      (hooks[i]?.bind (answer? failure i)).toList := by
  induction hooks using List.reverseRecOn with
  | nil =>
    rw [events_handle_nil]
    rfl
  | append_singleton hooks hook ih =>
    rw [events_handle_concat, List.filter_append, ih]
    obtain before | rfl | beyond := Nat.lt_trichotomy i hooks.length
    · rw [filter_answer_of_ne hook failure (Nat.ne_of_gt before), List.append_nil,
        List.getElem?_append_left before]
    · rw [List.getElem?_eq_none Nat.le.refl, List.getElem?_concat_length, filter_answer]
      rfl
    · have too_short : (hooks ++ [hook]).length ≤ i := by
        rw [List.length_append]
        exact beyond
      rw [filter_answer_of_ne hook failure (Nat.ne_of_lt beyond), List.append_nil,
        List.getElem?_eq_none (Nat.le_of_lt beyond), List.getElem?_eq_none too_short]

/-- What the `i`-th of the hooks does with failures. -/
lemma filter_events_handles (hooks : List Hook) (failures : List Failure) (i : Nat) :
    (Trace.events (failures.flatMap (handle hooks))).filter (·.hook = i) =
      failures.filterMap fun f => hooks[i]?.bind (answer? f i) := by
  induction failures with
  | nil => rfl
  | cons f failures ih =>
    rw [List.flatMap_cons, Trace.events_append, List.filter_append, filter_events_handle, ih,
      List.filterMap_cons]
    cases hooks[i]?.bind (answer? f i) <;> rfl

/-- **Every hook is called with every failure, in the order of registration, and no panic gets
out.**  Whichever hooks there are, and whichever of them panic: handling failures ends without a
panic; the calls are, for one failure after the other, those of every hook once; what happens is
what `handle` says, failure by failure; and each hook acts as it would alone, one for a code on the
application errors of that code, each other one on all failures. -/
theorem every_hook_called (hooks : List Hook) (failures : List Failure) :
    let done := dispatchAll (hooks.foldl register []) failures
    done.panicked = false ∧
    done.calls = (failures.flatMap fun f => (List.range hooks.length).map (·, f)) ∧
    done.trace = failures.flatMap (handle hooks) ∧
    ∀ i,
      (∀ code panics, hooks[i]? = some (.onCode code panics) →
        done.trace.events.filter (·.hook = i) =
          (failures.filterMap (·.ofCode? code)).map (HookEvent.acted i)) ∧
      (∀ panics, hooks[i]? = some (.always panics) →
        done.trace.events.filter (·.hook = i) = failures.map (HookEvent.told i)) ∧
      (hooks[i]? = none → done.trace.events.filter (·.hook = i) = []) := by
  intro done
  have eq : done = ⟨failures.flatMap fun f => (List.range hooks.length).map (·, f),
      failures.flatMap (handle hooks), false⟩ := by
    unfold done
    rw [foldl_register, List.nil_append, dispatchAll_eq]
  rw [eq]
  refine ⟨rfl, rfl, rfl, fun i => ?_⟩
  rw [filter_events_handles]
  refine ⟨fun code panics h => ?_, fun panics h => ?_, fun h => ?_⟩
  · rw [h, List.map_filterMap]
    rfl
  · rw [h]
    exact congrFun List.filterMap_eq_map failures
  · rw [h]
    exact List.filterMap_eq_nil_iff.mpr fun _ _ => rfl

/-- Two hooks that panic do not keep a third from an error of its code, which comes after a failure
that is none. -/
theorem every_hook_called_of_three :
    let done := dispatchAll ([.always true, .onCode 401 true, .onCode 401 false].foldl register [])
      [.transport ⟨"http://a/", "reset"⟩, .application ⟨"expired", 401⟩]
    done.panicked = false ∧ done.calls.map Prod.fst = [0, 1, 2, 0, 1, 2] ∧
      done.trace.events.filter (·.hook = 2) = [.acted 2 ⟨"expired", 401⟩] := by
  obtain ⟨fine, calls, -, acts⟩ :=
    every_hook_called [.always true, .onCode 401 true, .onCode 401 false]
      [.transport ⟨"http://a/", "reset"⟩, .application ⟨"expired", 401⟩]
  exact ⟨fine, congrArg (List.map Prod.fst) calls, (acts 2).1 401 false rfl⟩

end Hook

end Courier
