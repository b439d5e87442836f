import Courier.Queue.Worker

/-!
The operations of a queue: requests are submitted and cancelled, answers to calls are handed in,
and ready tasks are run.  Each is one step of the queue's history.
-/

namespace Courier.Queue

variable {α : Type}

/-! ### Submitting -/

/-- The record of a request that was not admitted. -/
def refusal (q : Queue α) (r : Request α) : LogRecord :=
  .debug s!"큐 입장 거부: {r.kind} (진행 중 {q.inFlight})"

/-- The record of a request that was admitted. -/
def admission (r : Request α) : LogRecord :=
  let method := (r.method?.map Http.Method.name).getD "-"
  let url := r.url?.getD ""
  .info s!"요청 큐 입장: {method} {url}"

/-- The queue with a request that was admitted, its worker ready to begin. -/
def enqueue (q : Queue α) (r : Request α) : Queue α :=
  let i := q.entries.length
  let e : Entry α := { request := r, url := r.url?.getD "" }
  let q := { q with entries := q.entries ++ [e], active := q.active ++ [i] }
  (q.log (admission r)).wake (.worker i)

/-- A request submitted: its number if it is admitted. -/
def submit (q : Queue α) (r : Request α) : Option Nat × Queue α :=
  if r.admits q.snapshot then (some q.entries.length, q.enqueue r) else (none, q.log (q.refusal r))

/-! ### Answering -/

/-- What becomes of an answer that is handed in. -/
inductive Delivery
  | delivered
  /-- nobody waits for it -/
  | tooLate
  /-- there is no such call, or its answer was handed in before -/
  | noSuchCall
  deriving DecidableEq, Repr

/-- The answer to a call handed in. -/
def answer (q : Queue α) (call : Nat) (a : Http.Request → Answer) : Delivery × Queue α :=
  match q.calls[call]? with
  | none => (.noSuchCall, q)
  | some c =>
    if c.used then (.noSuchCall, q)
    else if c.awaited then
      let q := q.modifyCall call fun c => { c with used := true, answer := some (a c.request) }
      (.delivered, q.wake (.worker c.sender))
    else (.tooLate, q.modifyCall call fun c => { c with used := true })

def respond (q : Queue α) (call : Nat) (r : Http.Response) : Delivery × Queue α :=
  q.answer call fun _ => .ok r

def breakOff (q : Queue α) (call : Nat) (reason : String) : Delivery × Queue α :=
  q.answer call fun request => .error ⟨request.url, reason⟩

/-! ### Running -/

def step? (q : Queue α) : Option (Queue α) :=
  match q.ready with
  | [] => none
  | t :: ts => some ({ q with ready := ts }.poll t)

/-- At most `n` ready tasks polled, one after another. -/
def steps : Nat → Queue α → Queue α
  | 0, q => q
  | n + 1, q =>
    match q.step? with
    | none => q
    | some q => steps n q

/-- Enough polls for all that can proceed: a task is polled when it is ready, a worker once more
when it gets a permit, and the reader once more for each worker and once at the end. -/
def enough (q : Queue α) : Nat := q.ready.length + 2 * q.entries.length + 1

/-- The queue when no task can proceed. -/
def run (q : Queue α) : Queue α := q.steps q.enough

/-! ### Callbacks in the hands of the caller -/

def runPending (q : Queue α) : Nat × Queue α :=
  let (n, t, m) := q.mailbox.runPending
  (n, { q with mailbox := m }.append t)

/-- What running the next callback comes to. -/
inductive Next
  | ran
  /-- none is there yet -/
  | pending
  /-- none can come any more -/
  | finished
  deriving DecidableEq, Repr

def runNext (q : Queue α) : Next × Queue α :=
  match q.mailbox.runNext? with
  | some (t, m) => (.ran, { q with mailbox := m }.append t)
  | none => (if q.hasPosters then .pending else .finished, q)

/-- The reader of the mailbox put into a task of its own. -/
def spawnReader (q : Queue α) : Queue α :=
  { q with mailbox := { q.mailbox with reader := .task } }.wake .reader

def dropReader (q : Queue α) : Queue α := { q with mailbox := q.mailbox.dropReader }

/-! ### Letting go -/

/-- The queue let go by the caller; its workers go on. -/
def letGo (q : Queue α) : Queue α := { q with held := false }.noticePosters

/-- The caller posts no callbacks itself any more. -/
def dropContext (q : Queue α) : Queue α := { q with contextHeld := false }.noticePosters

/-- A worker that has not ended vanishes, and with it its call. -/
def vanish (q : Queue α) (i : Nat) : Queue α :=
  match (q.entries[i]?).map Entry.stage with
  | some (.sending call) => (q.abort i call).setStage i .ended
  | some _ => q.setStage i .ended
  | none => q

/-- All tasks vanish where they are; nothing more is delivered. -/
def shutDown (q : Queue α) : Queue α :=
  let q := q.active.foldl vanish q
  let mailbox := if q.mailbox.reader = .task then q.mailbox.dropReader else q.mailbox
  { q with active := [], ready := [], mailbox }

end Courier.Queue
