import Courier.Failure
import Courier.Trace

/-!
Reviews: work that can be given up between its steps.  A review asks from time to time whether it
is to be given up; the answers are numbered from zero.  Running it tells the verdict, how often it
asked, and what happened.
-/

namespace Courier

/-- What is left to do of a review. -/
inductive Review (α : Type)
  | log (r : LogRecord) (next : Review α)
  /-- asks whether to give up -/
  | ask (next : Review α)
  /-- the processor is called -/
  | process (next : Review α)
  | done (result : Except Failure α)

/-- What a review comes to. -/
inductive Verdict (α : Type)
  | completed (value : α)
  | failed (failure : Failure)
  | abandoned
  deriving DecidableEq, Repr

/-- The processor is called. -/
inductive ProcessorCall
  | called
  deriving DecidableEq, Repr

/-- The course of a review. -/
structure Review.Report (α : Type) where
  verdict : Verdict α
  /-- how often it was asked whether to give up -/
  asked : Nat
  trace : Trace ProcessorCall
  deriving Repr

namespace Review

variable {α : Type}

def verdictOf : Except Failure α → Verdict α
  | .ok a => .completed a
  | .error f => .failed f

/-- The course with one more thing before it. -/
def Report.after (h : Happening ProcessorCall) (r : Report α) : Report α :=
  { r with trace := h :: r.trace }

/-- The course of a review; `giveUp` answers its questions, of which `asked` were asked. -/
def runFrom (giveUp : Nat → Bool) : (asked : Nat) → Review α → Report α
  | asked, log r next => (runFrom giveUp asked next).after (.log r)
  | asked, process next => (runFrom giveUp asked next).after (.event .called)
  | asked, ask next =>
    if giveUp asked then ⟨.abandoned, asked + 1, []⟩ else runFrom giveUp (asked + 1) next
  | asked, done result => ⟨verdictOf result, asked, []⟩

def run (giveUp : Nat → Bool) (r : Review α) : Report α := r.runFrom giveUp 0

/-- The course of a review that is not given up. -/
def runThrough (r : Review α) : Report α := r.run fun _ => false

/-- How often the processor was called. -/
def Report.calls (r : Report α) : Nat := r.trace.events.length

end Review

end Courier
