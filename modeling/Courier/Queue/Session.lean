import Courier.Queue.Operations

/-!
Sessions: a queue in the hands of a caller, who calls its requests by names.  Under a name the
caller has a handle, with which the request is watched, cancelled and waited for; waiting uses the
handle up.  A canceller is kept for every request that was admitted, whatever becomes of its
handle.
-/

namespace Courier

/-- What the caller has under a name. -/
inductive Slot (α : Type)
  | refused
  /-- the handle of an entry -/
  | handle (i : Nat)
  /-- the handle is used up, and the outcome is awaited -/
  | waiting (i : Nat)
  /-- the outcome was told -/
  | told (o : Outcome α)
  | dropped

/-- A queue and what its caller has. -/
structure Session (α : Type) where
  queue : Queue α
  slots : List (String × Slot α) := []
  /-- the entries by name -/
  cancellers : List (String × Nat) := []
  /-- the tasks have vanished -/
  vanished : Bool := false

namespace Session

variable {α : Type}

/-! ### Names -/

/-- A list of pairs with another value under a name, at the place of the old one. -/
def put {β : Type} (name : String) (b : β) : List (String × β) → List (String × β)
  | [] => [(name, b)]
  | (n, x) :: rest => if n = name then (n, b) :: rest else (n, x) :: put name b rest

def slot? (s : Session α) (name : String) : Option (Slot α) := s.slots.lookup name

/-- The session with something else under a name. -/
def setSlot (s : Session α) (name : String) (x : Slot α) : Session α :=
  { s with slots := put name x s.slots }

/-- The handle under a name, by the number of its entry. -/
def handle? (s : Session α) (name : String) : Option Nat :=
  match s.slot? name with
  | some (.handle i) => some i
  | _ => none

def nameOf? (s : Session α) (i : Nat) : Option String :=
  (s.cancellers.find? fun p => p.2 == i).map (·.1)

def Slot.stateName (q : Queue α) : Slot α → String
  | .refused => "refused"
  | .handle i => ((q.phase? i).map Phase.name).getD ""
  | .waiting _ => "waiting"
  | .told (.completed _) => "completed"
  | .told (.failed _) => "failed"
  | .told .cancelled => "cancelled"
  | .dropped => "dropped"

def states (s : Session α) : List (String × String) :=
  s.slots.map fun (n, x) => (n, Slot.stateName s.queue x)

/-! ### What happened -/

def takeTrace (s : Session α) : Trace (QueueEvent α) × Session α :=
  (s.queue.trace, { s with queue := { s.queue with trace := [] } })

/-- How many requests are in flight, as long as the queue is held. -/
def inFlight? (s : Session α) : Option Nat := if s.queue.held then some s.queue.inFlight else none

/-! ### Requests -/

/-- A request submitted under a name: the phase of its handle if it was admitted. -/
def submit (s : Session α) (name : String) (r : Request α) : Option Phase × Session α :=
  match s.queue.submit r with
  | (none, q) => (none, { s with queue := q }.setSlot name .refused)
  | (some i, q) =>
    let s := { s with queue := q, cancellers := put name i s.cancellers }.setSlot name (.handle i)
    (q.phase? i, s)

/-- A request cancelled through its handle. -/
def cancel (s : Session α) (name : String) : Option Bool × Session α :=
  match s.handle? name with
  | none => (none, s)
  | some i => (some (s.queue.cancel i).1, { s with queue := (s.queue.cancel i).2 })

/-- A request cancelled through its canceller. -/
def cancelAnyway (s : Session α) (name : String) : Option Bool × Session α :=
  match s.cancellers.lookup name with
  | none => (none, s)
  | some i => (some (s.queue.cancel i).1, { s with queue := (s.queue.cancel i).2 })

def phase? (s : Session α) (name : String) : Option Phase := (s.handle? name).bind s.queue.phase?

/-- What waiting comes to. -/
inductive Waited (α : Type)
  | noHandle
  | pending
  | outcome (o : Outcome α)

/-- The outcome of an entry, as far as it can be known.  Where no outcome can come any more it
counts as cancelled. -/
def awaitEntry (s : Session α) (i : Nat) : Option (Outcome α) :=
  match s.queue.outcome? i with
  | some o => some o
  | none => if s.vanished then some .cancelled else none

/-- The outcome of a request looked for; its handle is used up. -/
def wait (s : Session α) (name : String) : Waited α × Session α :=
  let look (i : Nat) : Waited α × Session α :=
    match s.awaitEntry i with
    | some o => (.outcome o, s.setSlot name (.told o))
    | none => (.pending, s.setSlot name (.waiting i))
  match s.slot? name with
  | some (.handle i) => look i
  | some (.waiting i) => look i
  | _ => (.noHandle, s)

def drop (s : Session α) (name : String) : Session α :=
  match s.slot? name with
  | none => s
  | some _ => s.setSlot name .dropped

/-! ### Steps of the queue -/

/-- The session with a step of the queue made. -/
def step {β : Type} (s : Session α) (f : Queue α → β × Queue α) : β × Session α :=
  ((f s.queue).1, { s with queue := (f s.queue).2 })

/-- All that can proceed does. -/
def run (s : Session α) : Session α := { s with queue := s.queue.run }

/-- The caller has the reader of the mailbox. -/
def hasReader (s : Session α) : Bool := s.queue.mailbox.reader == .kept

/-- The tasks vanish. -/
def shutDown (s : Session α) : Session α := { s with queue := s.queue.shutDown, vanished := true }

/-- The names under which something can still be waited for. -/
def awaitable (s : Session α) : List String :=
  s.slots.filterMap fun (n, x) =>
    match x with
    | .handle _ | .waiting _ => some n
    | _ => none

end Session

end Courier
