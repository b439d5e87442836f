import Courier.Hook
import Courier.Queue.Limiter
import Courier.Queue.Mailbox
import Courier.Queue.Phase
import Courier.Queue.Request
import Courier.Settings.Basic

/-!
The state of a queue: an entry for each request that was ever admitted, numbered in the order of
admission, the permits for work, the calls of the transport, the mailbox for callbacks, and the
tasks that are ready to go on.
-/

namespace Courier

/-! ### Parts -/

abbrev Answer := Except TransportError Http.Response

/-- Where the worker of a request is. -/
inductive Stage
  /-- it has not begun -/
  | fresh
  /-- it waits for a permit -/
  | inLine
  /-- it was given a permit and does not know yet -/
  | granted
  /-- it waits for the answer to a call -/
  | sending (call : Nat)
  | ended
  deriving DecidableEq, Repr

/-- What is seen of a queue. -/
inductive QueueEvent (α : Type)
  | hook (e : HookEvent)
  | sent (call : Nat) (request : Http.Request)
  /-- nobody waits for the answer to a call any more -/
  | aborted (call : Nat)
  /-- the callback for the value of a request is run -/
  | succeeded (id : Nat) (value : α)
  /-- the callback for the failure of a request is run -/
  | failed (id : Nat) (failure : Failure)

/-- What was done for an admitted request, by its worker or by a caller. -/
inductive Deed (α : Type)
  /-- its phase changed -/
  | moved (old new : Phase)
  /-- a caller was told that the request is cancelled by this call -/
  | cancelled
  /-- it was given to the transport -/
  | sent (call : Nat) (request : Http.Request)
  /-- the worker took the answer to the call -/
  | answered (call : Nat) (answer : Answer)
  /-- the worker gave the call up -/
  | aborted (call : Nat)
  /-- the processor was called -/
  | processed
  /-- the failure was handed to the hooks -/
  | handled (failure : Failure)
  /-- one hook was called with the failure -/
  | told (hook : Nat) (failure : Failure)
  /-- a callback was posted; the flag tells whether it was accepted -/
  | posted (callback : QueueEvent α) (accepted : Bool)
  /-- the outcome was sent to the handle -/
  | delivered (outcome : Outcome α)

namespace Deed

variable {α : Type}

def outcome? : Deed α → Option (Outcome α)
  | delivered o => some o
  | _ => none

end Deed

/-- An admitted request. -/
structure Entry (α : Type) where
  request : Request α
  /-- the URL by which records call the request -/
  url : String
  phase : Phase := .idle
  /-- the signal that wakes a worker whose request is cancelled -/
  signal : Bool := false
  stage : Stage := .fresh
  /-- what was done, in order -/
  deeds : List (Deed α) := []

namespace Entry

variable {α : Type}

/-- The outcome that the handle receives, once one was sent. -/
def outcome (e : Entry α) : Option (Outcome α) := e.deeds.findSome? Deed.outcome?

end Entry

/-- A request given to the transport. -/
structure Call where
  request : Http.Request
  /-- the number of the request's entry -/
  sender : Nat
  /-- the worker still waits for the answer -/
  awaited : Bool
  answer : Option Answer
  /-- an answer was handed in -/
  used : Bool := false

/-- Something that can go on. -/
inductive Task
  | worker (i : Nat)
  /-- the reader of the mailbox -/
  | reader
  deriving DecidableEq, Repr

/-- A queue. -/
structure Queue (α : Type) where
  hooks : List Hook
  successStatus : UInt16
  /-- the answers that the transport has at once, by the numbers of the calls -/
  instant : Nat → Http.Request → Option Answer
  limiter : Option Limiter
  entries : List (Entry α) := []
  /-- the numbers of the entries that have not ended -/
  active : List Nat := []
  calls : List Call := []
  mailbox : Mailbox (QueueEvent α) := {}
  ready : List Task := []
  trace : Trace (QueueEvent α) := []
  /-- the queue itself is held by the caller -/
  held : Bool := true
  /-- the caller can post callbacks itself -/
  contextHeld : Bool := true

namespace Queue

variable {α : Type}

/-! ### Making a queue -/

/-- The cap that settings give; zero counts as none. -/
def capOf (s : Settings) : Option Nat := (s.maxConcurrent.map UInt64.toNat).filter (0 < ·)

/-- The limiter for a cap; there is none if the cap is too large to be kept. -/
def limiterOf? : Option Nat → Option (Option Limiter)
  | none => some none
  | some n => (Limiter.ofCapacity? n).map some

/-- A queue without requests over a transport, if the settings' cap can be kept. -/
def over? (s : Settings) (hooks : List Hook) (instant : Nat → Http.Request → Option Answer) :
    Option (Queue α) := do
  let limiter ← limiterOf? (capOf s)
  return { hooks, successStatus := s.successStatus, instant, limiter }

/-- A queue without requests over a transport that answers a request always alike. -/
def ofSettings? (s : Settings) (hooks : List Hook) (instant : Http.Request → Option Answer) :
    Option (Queue α) := over? s hooks fun _ => instant

/-! ### Views -/

def maxConcurrent (q : Queue α) : Option Nat := q.limiter.map (·.capacity)

/-- How many requests were admitted and have not ended. -/
def inFlight (q : Queue α) : Nat := q.active.length

/-- An active request as a snapshot shows it. -/
def activeRequest? (q : Queue α) (i : Nat) : Option ActiveRequest :=
  q.entries[i]?.map fun e => ⟨i, e.request.kind, e.request.method?, e.request.url?⟩

/-- What the queue shows of its active requests. -/
def snapshot (q : Queue α) : Snapshot := ⟨q.active.filterMap q.activeRequest?, q.maxConcurrent⟩

def phase? (q : Queue α) (i : Nat) : Option Phase := q.entries[i]?.map (·.phase)

/-- The outcome of an entry, once it is delivered. -/
def outcome? (q : Queue α) (i : Nat) : Option (Outcome α) := q.entries[i]?.bind (·.outcome)

/-- Somebody can still post callbacks: the caller, the queue, or a worker that has not ended. -/
def hasPosters (q : Queue α) : Bool := q.contextHeld || q.held || !q.active.isEmpty

/-! ### Changes of parts -/

def modify (q : Queue α) (i : Nat) (f : Entry α → Entry α) : Queue α :=
  { q with entries := q.entries.modify i f }

/-- The queue with an entry's worker elsewhere. -/
def setStage (q : Queue α) (i : Nat) (s : Stage) : Queue α := q.modify i fun e => { e with stage := s }

/-- The queue with an entry in another phase. -/
def setPhase (q : Queue α) (i : Nat) (p : Phase) : Queue α := q.modify i fun e => { e with phase := p }

/-- The queue with one more deed for an entry. -/
def note (q : Queue α) (i : Nat) (d : Deed α) : Queue α :=
  q.modify i fun e => { e with deeds := e.deeds ++ [d] }

def addCall (q : Queue α) (c : Call) : Queue α := { q with calls := q.calls ++ [c] }

def modifyCall (q : Queue α) (c : Nat) (f : Call → Call) : Queue α :=
  { q with calls := q.calls.modify c f }

/-- The queue after a record. -/
def log (q : Queue α) (r : LogRecord) : Queue α := { q with trace := q.trace ++ [.log r] }

/-- The queue after an event. -/
def emit (q : Queue α) (e : QueueEvent α) : Queue α := { q with trace := q.trace ++ [.event e] }

/-- The queue after all that a trace tells. -/
def append (q : Queue α) (t : Trace (QueueEvent α)) : Queue α := { q with trace := q.trace ++ t }

/-- The queue with a task ready to go on, behind those that are. -/
def wake (q : Queue α) (t : Task) : Queue α :=
  if t ∈ q.ready then q else { q with ready := q.ready ++ [t] }

/-- The queue with the reader of the mailbox ready to go on, if it is a task. -/
def wakeReader (q : Queue α) : Queue α := if q.mailbox.reader = .task then q.wake .reader else q

/-- The queue with a callback posted, or a record that it was not accepted. -/
def post (q : Queue α) (c : Callback (QueueEvent α)) : Queue α :=
  match q.mailbox.post c with
  | (true, m) => { q with mailbox := m }.wakeReader
  | (false, m) => { q with mailbox := m }.log Mailbox.refused

/-- The queue with an entry in the phase that an exchange leads to; the flag tells whether the
exchange took effect. -/
def exchange (q : Queue α) (i : Nat) (step : Phase → Bool × Phase) : Bool × Queue α :=
  match q.phase? i with
  | none => (false, q)
  | some p =>
    match step p with
    | (true, next) => (true, (q.setPhase i next).note i (.moved p next))
    | (false, _) => (false, q)

end Queue

end Courier
