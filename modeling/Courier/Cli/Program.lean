import Courier.Cli.Help
import Courier.Cli.Plan
import Courier.Review.Processor
import Courier.Service

/-!
The program behind the command line: it sends one request and prints the object that the response
brings, or says why there is none.  A run is ended at once, or it waits for the exchange of its
request; then the answer or an interruption ends it.
-/

namespace Courier.Cli

open Json (Members)

/-! ### Endings -/

/-- How a run ends: its exit code and what it printed. -/
structure Ending where
  code : UInt8
  output : String := ""
  errors : String := ""
  deriving DecidableEq, Repr

namespace Ending

/-- The ending of a run whose request did not do what it was to. -/
def failureCode : UInt8 := 1

/-- The ending of a run with wrong arguments. -/
def misuseCode : UInt8 := 2

def panicCode : UInt8 := 101

/-- The ending of a run that was interrupted. -/
def interruptCode : UInt8 := 130

/-- The run ends because the arguments are no request. -/
def ofStop : Stop → Ending
  | .help => { code := 0, output := helpText }
  | .version => { code := 0, output := versionText }
  | .misuse m => { code := misuseCode, errors := m.report }

/-- The run ends because the command line cannot be carried out. -/
def ofTrouble (t : Trouble) : Ending := { code := failureCode, errors := t.report }

/-- The report of a failure, with the text of the response if it broke the contract. -/
def failureReport (f : Failure) : String :=
  let line := s!"요청 실패 [{f.kindName}]: {f.message}\n"
  match f.response? with
  | none => line
  | some text => s!"{line}응답 본문:\n{text}\n"

/-- The run ends with the outcome of its request. -/
def ofOutcome : Outcome Members → Ending
  | .completed ms => { code := 0, output := Json.pretty (.obj ms) ++ "\n" }
  | .failed f => { code := failureCode, errors := failureReport f }
  | .cancelled => { code := failureCode, errors := "요청 취소됨\n" }

def interrupted : Ending := { code := interruptCode }

/-- The cap on requests at work is too large. -/
def panicked : Ending :=
  { code := panicCode
    errors := s!"no more than {Limiter.maxCapacity} requests can be at work\n" }

end Ending

/-! ### Runs -/

/-- A run that waits for the exchange of its request. -/
structure Waiting where
  client : Http.Client
  timeoutMs : UInt64
  request : Http.Request
  queue : Queue Members

/-- Where a run is. -/
inductive Run
  | ended (e : Ending)
  | waiting (w : Waiting)

namespace Run

/-- The code of an application error that says that the session is over. -/
def sessionOverCode : Int := 401

def hooks : List Hook := [.onCode sessionOverCode false]

/-- The request for the object at an endpoint. -/
def objectRequest (e : Endpoint) : Request Members :=
  { kind := "json", endpoint := .ok e, processor := Processor.object }

/-- The run of a queue whose only request was admitted. -/
def ofQueue (client : Http.Client) (timeoutMs : UInt64) (q : Queue Members) : Run :=
  match q.outcome? 0, q.calls with
  | some o, _ => .ended (.ofOutcome o)
  | none, [c] => .waiting ⟨client, timeoutMs, c.request, q⟩
  | none, _ => .ended (.ofOutcome .cancelled)

def ofPlan (p : Plan) : Run :=
  match Service.build p.settings hooks with
  | .error f => .ended (.ofTrouble (.other f))
  | .ok none => .ended .panicked
  | .ok (some service) =>
    match service.queue.submit (objectRequest p.endpoint) with
    | (none, _) => .ended (.ofTrouble .notAdmitted)
    | (some _, q) => ofQueue service.client p.settings.timeoutMs q.run

/-- The run of a command line, and the disk after the settings file was read or made. -/
def start (args : List String) (d : Disk) : Run × Disk :=
  match Arguments.parse args with
  | .error stop => (.ended (.ofStop stop), d)
  | .ok a =>
    let loaded := a.plan d
    match loaded.result with
    | .error t => (.ended (.ofTrouble t), loaded.disk)
    | .ok p => (ofPlan p, loaded.disk)

end Run

namespace Waiting

/-- The ending of a run whose request was answered. -/
def finish (w : Waiting) (a : Answer) : Ending :=
  let q := (w.queue.answer 0 fun _ => a).2.run
  .ofOutcome ((q.outcome? 0).getD .cancelled)

end Waiting

end Courier.Cli
