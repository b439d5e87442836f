import Courier.Trace

/-!
Mailboxes: callbacks on their way to the one reader that runs them in the order in which they were
posted.  A callback may post others and may end in a panic, which the reader catches.  Once the
reader is gone nothing is accepted.
-/

namespace Courier

/-- A callback: what is seen of it, whether it ends in a panic, and the callbacks it posts. -/
inductive Callback (ε : Type)
  | mk (seen : ε) (panics : Bool) (posts : List (Callback ε))
  deriving Repr

namespace Callback

variable {ε : Type}

def seen : Callback ε → ε
  | mk e _ _ => e

def panics : Callback ε → Bool
  | mk _ p _ => p

def posts : Callback ε → List (Callback ε)
  | mk _ _ ps => ps

mutual

/-- The number of callbacks that a callback leads to, itself included. -/
def size : Callback ε → Nat
  | mk _ _ ps => sizes ps + 1

/-- The number of callbacks that callbacks lead to. -/
def sizes : List (Callback ε) → Nat
  | [] => 0
  | c :: cs => c.size + sizes cs

end

theorem sizes_append (as bs : List (Callback ε)) : sizes (as ++ bs) = sizes as + sizes bs := by
  induction as with
  | nil => simp [sizes]
  | cons a as ih => simp [sizes, ih, Nat.add_assoc]

theorem size_eq (c : Callback ε) : c.size = sizes c.posts + 1 := by
  cases c
  rfl

def panicked : LogRecord := .error "요청 콜백 실행 중 패닉 발생, 무시"

/-- What happens when a callback is run, its panic caught. -/
def run (c : Callback ε) : Trace ε :=
  .event c.seen :: if c.panics then [.log panicked] else []

/-- The callbacks that are run until none is left, in order. -/
def drain : List (Callback ε) → List (Callback ε)
  | [] => []
  | c :: cs => c :: drain (cs ++ c.posts)
termination_by cs => sizes cs
decreasing_by
  rw [sizes_append, sizes, size_eq]
  omega

theorem drain_of_plain {cs : List (Callback ε)} (h : ∀ c ∈ cs, c.posts = []) : drain cs = cs := by
  induction cs with
  | nil => rw [drain]
  | cons c cs ih =>
    rw [drain, h c (List.mem_cons_self ..), List.append_nil]
    exact congrArg (c :: ·) (ih fun c' hc' => h c' (List.mem_cons_of_mem _ hc'))

theorem events_run (c : Callback ε) : Trace.events c.run = [c.seen] := by
  unfold run
  split <;> rfl

theorem events_flatMap_run (cs : List (Callback ε)) :
    Trace.events (cs.flatMap run) = cs.map seen := by
  induction cs with
  | nil => rfl
  | cons c cs ih => rw [List.flatMap_cons, Trace.events_append, events_run, ih, List.map_cons,
      List.singleton_append]

end Callback

/-- Where the reader of a mailbox is. -/
inductive Reader
  /-- with the caller, who runs callbacks when it likes -/
  | kept
  /-- in a task of its own -/
  | task
  | gone
  deriving DecidableEq, Repr

/-- The callbacks posted and not run yet, and the reader. -/
structure Mailbox (ε : Type) where
  pending : List (Callback ε) := []
  reader : Reader := .kept
  deriving Repr

namespace Mailbox

variable {ε : Type}

/-- Nothing is accepted any more. -/
def isClosed (m : Mailbox ε) : Bool := m.reader == .gone

/-- The mailbox with one more callback; the flag tells whether it was accepted. -/
def post (m : Mailbox ε) (c : Callback ε) : Bool × Mailbox ε :=
  match m.reader with
  | .gone => (false, m)
  | _ => (true, { m with pending := m.pending ++ [c] })

theorem post_of_gone {m : Mailbox ε} (hm : m.reader = .gone) (c : Callback ε) :
    m.post c = (false, m) := by
  unfold post
  rw [hm]

theorem post_of_open {m : Mailbox ε} (hm : m.reader ≠ .gone) (c : Callback ε) :
    m.post c = (true, { m with pending := m.pending ++ [c] }) := by
  unfold post
  split
  · exact absurd ‹_› hm
  · rfl

/-- The record of a callback that was not accepted. -/
def refused : LogRecord := .warn "콜백 컨텍스트가 닫혀 콜백을 전달하지 못함"

def runNext? (m : Mailbox ε) : Option (Trace ε × Mailbox ε) :=
  match m.pending with
  | [] => none
  | c :: cs => some (c.run, { m with pending := cs ++ c.posts })

/-- The callbacks run until none is left: how many, and what happened. -/
def runPending (m : Mailbox ε) : Nat × Trace ε × Mailbox ε :=
  let done := Callback.drain m.pending
  (done.length, done.flatMap Callback.run, { m with pending := [] })

/-- The mailbox without its reader; what was not run is lost. -/
def dropReader (_ : Mailbox ε) : Mailbox ε := ⟨[], .gone⟩

def shown (m : Mailbox ε) : String := s!"CallbackContext \x7b closed: {m.isClosed} \x7d"

end Mailbox

end Courier
