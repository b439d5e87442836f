import Courier.Failure

/-!
Phases: how far a request is.  It is idle until a worker takes it up, then executing, and ends
completed, failed or cancelled.  Every change is made by an exchange, which takes effect only if
the phase is still the expected one.
-/

namespace Courier

/-- How far a request is. -/
inductive Phase
  | idle
  | executing
  | completed
  | failed
  | cancelled
  deriving DecidableEq, Repr, Inhabited

namespace Phase

def name : Phase → String
  | idle => "Idle"
  | executing => "Executing"
  | completed => "Completed"
  | failed => "Failed"
  | cancelled => "Cancelled"

/-- The request is finished. -/
def isTerminal : Phase → Bool
  | completed | failed | cancelled => true
  | idle | executing => false

/-- One step: if the phase is `expected` it becomes `new`.  The flag tells whether it did. -/
def exchange (expected new p : Phase) : Bool × Phase :=
  if p = expected then (true, new) else (false, p)

/-- A worker takes the request up. -/
def begin : Phase → Bool × Phase := exchange idle executing

/-- A worker is done with the request. -/
def finish (last : Phase) : Phase → Bool × Phase := exchange executing last

/-- The first step of a cancellation. -/
def cancelExecuting : Phase → Bool × Phase := exchange executing cancelled

/-- The second step of a cancellation, made if the first had no effect. -/
def cancelIdle : Phase → Bool × Phase := exchange idle cancelled

/-- A cancellation whose steps are not interrupted. -/
def cancel (p : Phase) : Bool × Phase :=
  match cancelExecuting p with
  | (true, p) => (true, p)
  | (false, p) => cancelIdle p

theorem cancel_of_open {p : Phase} (hp : p.isTerminal = false) : p.cancel = (true, .cancelled) := by
  cases p <;> first | rfl | cases hp

theorem cancel_of_terminal {p : Phase} (hp : p.isTerminal = true) : p.cancel = (false, p) := by
  cases p <;> first | rfl | cases hp

theorem begin_of_ne {p : Phase} (hp : p ≠ .idle) : p.begin = (false, p) := if_neg hp

theorem finish_of_ne {p last : Phase} (hp : p ≠ .executing) : finish last p = (false, p) :=
  if_neg hp

end Phase

/-- What a request comes to. -/
inductive Outcome (α : Type)
  | completed (value : α)
  | failed (failure : Failure)
  | cancelled
  deriving DecidableEq, Repr

namespace Outcome

variable {α : Type}

/-- The phase in which a request of this outcome ends. -/
def phase : Outcome α → Phase
  | completed _ => .completed
  | failed _ => .failed
  | cancelled => .cancelled

def isCompleted : Outcome α → Bool
  | completed _ => true
  | _ => false

end Outcome

end Courier
