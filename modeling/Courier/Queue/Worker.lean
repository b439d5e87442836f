import Courier.Queue.State
import Courier.Review.Response

/-!
Workers: what becomes of an admitted request, one stretch of work at a time.  A worker that is
polled goes on until it has to wait for a permit or for an answer, or until it ends.  It looks for
a cancellation before anything else.
-/

namespace Courier.Queue

variable {α : Type}

/-! ### Cancelling -/

/-- The worker of an entry waits for something. -/
def isWaiting : Stage → Bool
  | .inLine | .granted | .sending _ => true
  | .fresh | .ended => false

/-- The queue with a worker ready to go on if it waits. -/
def wakeWaiting (q : Queue α) (i : Nat) : Queue α :=
  match q.entries[i]? with
  | some e => if isWaiting e.stage then q.wake (.worker i) else q
  | none => q

def cancelRecord (q : Queue α) (i : Nat) : LogRecord :=
  let url := (q.entries[i]?.map Entry.url).getD ""
  .info s!"요청 취소됨: {url}"

/-- The queue with the signal raised that an entry is cancelled. -/
def raiseSignal (q : Queue α) (i : Nat) : Queue α := q.modify i fun e => { e with signal := true }

/-- An entry cancelled, unless it is finished; the flag tells whether it was. -/
def cancel (q : Queue α) (i : Nat) : Bool × Queue α :=
  match q.exchange i Phase.cancel with
  | (true, q) => (true, (((q.raiseSignal i).note i .cancelled).wakeWaiting i).log (q.cancelRecord i))
  | (false, q) => (false, q)

/-! ### Ending -/

/-- A permit given back; who is first in line gets it. -/
def release (q : Queue α) : Queue α :=
  match q.limiter with
  | none => q
  | some l =>
    match l.release with
    | (none, l) => { q with limiter := some l }
    | (some i, l) => ({ q with limiter := some l }.setStage i .granted).wake (.worker i)

/-- The permit given back that a worker has, if it has one. -/
def releaseIf (q : Queue α) (permit : Bool) : Queue α := if permit then q.release else q

/-- The queue with an entry that is no longer active. -/
def unlist (q : Queue α) (i : Nat) : Queue α := { q with active := q.active.erase i }

/-- The reader told, if nobody can post any more. -/
def noticePosters (q : Queue α) : Queue α := if q.hasPosters then q else q.wakeReader

/-- The worker of an entry ends: it gives back the permit it has, and the entry is no longer
active. -/
def retire (q : Queue α) (i : Nat) (permit : Bool) : Queue α :=
  (((q.setStage i .ended).releaseIf permit).unlist i).noticePosters

/-- The outcome of an entry delivered. -/
def deliver (q : Queue α) (i : Nat) (o : Outcome α) : Queue α := q.note i (.delivered o)

/-- The queue with a callback of an entry posted, if the entry has one. -/
def postIf (q : Queue α) (i : Nat) (callback : Option CallbackEnd) (e : QueueEvent α) : Queue α :=
  match callback with
  | none => q
  | some c => (q.note i (.posted e !q.mailbox.isClosed)).post (.mk e (c == .panics) [])

/-- An entry that is to be completed. -/
def complete (q : Queue α) (i : Nat) (e : Entry α) (value : α) : Queue α :=
  match q.exchange i (Phase.finish .completed) with
  | (false, q) => q.deliver i .cancelled
  | (true, q) =>
    ((q.log (.debug "요청 완료")).postIf i e.request.onSuccess (.succeeded i value)).deliver i
      (.completed value)

/-- One hook called with the failure of an entry: its number, and what it does. -/
def tell (i : Nat) (failure : Failure) (q : Queue α) (call : Nat × Trace HookEvent) : Queue α :=
  (q.note i (.told call.1 failure)).append (call.2.mapEvents .hook)

/-- The failure of an entry handed to the hooks. -/
def handle (q : Queue α) (i : Nat) (failure : Failure) : Queue α :=
  let q := (q.note i (.handled failure)).append ((Hook.arrival failure).map .log)
  (Hook.calls failure q.hooks).foldl (tell i failure) q

/-- An entry that is to fail: the hooks get the failure before the callback does. -/
def fail (q : Queue α) (i : Nat) (e : Entry α) (failure : Failure) : Queue α :=
  match q.exchange i (Phase.finish .failed) with
  | (false, q) => q.deliver i .cancelled
  | (true, q) =>
    let q := q.log (.info s!"응답 처리 중 에러: {failure.message}")
    ((q.handle i failure).postIf i e.request.onFailure (.failed i failure)).deliver i (.failed failure)

/-! ### Working -/

/-- The entry's processor is called; it may cancel the entry. -/
def processorCalled (q : Queue α) (i : Nat) (e : Entry α) : Queue α :=
  let q := q.note i .processed
  if e.request.cancelsItself then (q.cancel i).2 else q

/-- The queue after what happened in a review. -/
def follow (q : Queue α) (i : Nat) (e : Entry α) : Trace ProcessorCall → Queue α
  | [] => q
  | .log r :: t => (q.log r).follow i e t
  | .event .called :: t => (q.processorCalled i e).follow i e t

/-- An entry ends as the verdict of a review says. -/
def conclude (q : Queue α) (i : Nat) (e : Entry α) : Verdict α → Queue α
  | .completed value => q.complete i e value
  | .failed failure => q.fail i e failure
  | .abandoned => q.deliver i .cancelled

/-- An entry's answer to a call has come: a response is reviewed. -/
def answered (q : Queue α) (i : Nat) (e : Entry α) (call : Nat) (url : String) (answer : Answer) :
    Queue α :=
  let q := q.note i (.answered call answer)
  match answer with
  | .error error => (q.log (.error s!"연결 실패: {url}")).fail i e (.transport error)
  | .ok response =>
    let q := q.log (.info s!"응답 수신: {url} → {response.status.toNat}")
    let report := (Review.ofResponse url q.successStatus e.request.processor (some response)).run
      fun _ => q.phase? i == some .cancelled
    (q.follow i e report.trace).conclude i e report.verdict

/-- The queue with a call for an entry's request, and the answer if it is there at once. -/
def place (q : Queue α) (i : Nat) (request : Http.Request) (answer : Option Answer) : Queue α :=
  let call := q.calls.length
  let q := q.addCall { request, sender := i, awaited := answer.isNone, answer }
  (q.note i (.sent call request)).emit (.sent call request)

/-- An entry's request is given to the transport.  If the answer is there at once the worker goes
on and ends. -/
def dispatch (q : Queue α) (i : Nat) (e : Entry α) (permit : Bool) (request : Http.Request) :
    Queue α :=
  let call := q.calls.length
  match q.instant call request with
  | some answer =>
    ((q.place i request (some answer)).answered i e call request.url answer).retire i permit
  | none => (q.place i request none).setStage i (.sending call)

/-- An entry's request is sent; records call the request by its URL from then on. -/
def send (q : Queue α) (i : Nat) (e : Entry α) (permit : Bool) (request : Http.Request) : Queue α :=
  let q := q.modify i fun e => { e with url := request.url }
  (q.log (.info s!"요청 전송: {request.method.name} {request.url}")).dispatch i e permit request

/-- The work on an entry begins, unless the entry was cancelled. -/
def start (q : Queue α) (i : Nat) (e : Entry α) (permit : Bool) : Queue α :=
  match q.exchange i Phase.begin with
  | (false, q) => ((q.log (.debug "시작 전 취소된 요청")).deliver i .cancelled).retire i permit
  | (true, q) =>
    match e.request.endpoint.bind Endpoint.toRequest with
    | .ok request => q.send i e permit request
    | .error fault =>
      let q := q.log (.error s!"잘못된 URL로 요청 시도: {e.url}: {fault.message}")
      (q.fail i e (.transport ⟨e.url, fault.message⟩)).retire i permit

/-- The queue with a call that nobody waits for any more. -/
def unawait (q : Queue α) (call : Nat) : Queue α :=
  q.modifyCall call fun c => { c with awaited := false }

/-- The queue with the call of an entry given up. -/
def abort (q : Queue α) (i call : Nat) : Queue α :=
  ((q.unawait call).note i (.aborted call)).emit (.aborted call)

/-- A worker that waits for the answer to a call is polled. -/
def receive (q : Queue α) (i : Nat) (e : Entry α) (call : Nat) : Queue α :=
  let permit := q.limiter.isSome
  match q.calls[call]? with
  | none => q
  | some c =>
    if e.signal then ((q.abort i call).deliver i .cancelled).retire i permit
    else
      match c.answer with
      | none => q
      | some answer => ((q.unawait call).answered i e call c.request.url answer).retire i permit

def pollWorker (q : Queue α) (i : Nat) : Queue α :=
  match q.entries[i]? with
  | none => q
  | some e =>
    match e.stage, q.limiter with
    | .ended, _ => q
    | .sending call, _ => q.receive i e call
    | .fresh, none => q.start i e false
    | .fresh, some l =>
      if e.signal then q.start i e false
      else
        match l.take? with
        | some l => { q with limiter := some l }.start i e true
        | none => { q with limiter := some (l.join i) }.setStage i .inLine
    | .inLine, some l =>
      if e.signal then { q with limiter := some (l.leave i) }.start i e false else q
    | .granted, some _ =>
      if e.signal then q.release.start i e false else q.start i e true
    | _, none => q

/-! ### Callbacks -/

/-- The reader of the mailbox is polled: it runs all callbacks, and is gone if none can come. -/
def pollReader (q : Queue α) : Queue α :=
  let (_, t, m) := q.mailbox.runPending
  let q := { q with mailbox := m }.append t
  if q.hasPosters then q else { q with mailbox := q.mailbox.dropReader }

def poll (q : Queue α) : Task → Queue α
  | .worker i => q.pollWorker i
  | .reader => q.pollReader

end Courier.Queue
