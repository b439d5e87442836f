import Courier.Cli.Program
import Courier.Proofs.Json.Forms
import Courier.Proofs.Queue.Alone
import Courier.Proofs.Queue.Capacity
import Courier.Proofs.Queue.Sending
import Courier.Proofs.Review.Classes

/-!
The course of the program behind the command line.  A plan that the command line gives is carried out
by a queue with one request, so the run ends as this request is fated to: with the object that the
response brings, or with a report of what went wrong.
-/

namespace Courier

/-! ### Requests that succeed -/

lemma Verdict.outcome_eq_completed_iff {α : Type} {v : Verdict α} {x : α} :
    v.outcome = .completed x ↔ v = .completed x := by
  cases v <;> simp [Verdict.outcome]

/-- A request that nobody cancels is completed by a response with the status of success that brings an
object, if its processor accepts that. -/
lemma Request.fate_eq_completed_iff {α : Type} {r : Request α} {status : UInt16} {a : Answer}
    {x : α} : r.fate status a = .completed x ↔
      ∃ sent response ms, r.endpoint.bind Endpoint.toRequest = .ok sent ∧ a = .ok response ∧
        response.Brings ms ∧ response.status = status ∧ r.processor ms = .accepted x := by
  unfold fate
  cases r.endpoint.bind Endpoint.toRequest with
  | error fault => simp
  | ok sent =>
    cases a with
    | error e => simp
    | ok response =>
      dsimp only
      rw [Verdict.outcome_eq_completed_iff]
      refine (Review.classified sent.url status r.processor (some response)).completed x |>.trans ?_
      simp

namespace Cli

open Json (Members)
open Text.Utf8 (ofString)

variable {p : Plan} {a : Answer} {ms : Members}

/-! ### Endings -/

namespace Ending

variable {o : Outcome Members}

lemma failureCode_ne_zero : failureCode ≠ 0 := by decide

lemma code_ofOutcome : (ofOutcome o).code = 0 ↔ ∃ ms, o = .completed ms := by
  cases o with
  | completed ms => exact iff_of_true rfl ⟨ms, rfl⟩
  | failed f => exact iff_of_false failureCode_ne_zero nofun
  | cancelled => exact iff_of_false failureCode_ne_zero nofun

lemma output_ofOutcome (h : ∀ ms, o ≠ .completed ms) : (ofOutcome o).output = "" := by
  cases o with
  | completed ms => exact absurd rfl (h ms)
  | failed f => rfl
  | cancelled => rfl

end Ending

/-! ### Plans -/

/-- The ending of a run whose request is answered so, if it is sent. -/
def Run.finish (a : Answer) : Run → Ending
  | .ended e => e
  | .waiting w => w.finish a

/-- The requests whose exchange a run waits for. -/
def Run.awaited : Run → List Http.Request
  | .ended _ => []
  | .waiting w => [w.request]

/-- What the queue of a plan gives to the transport in the whole run. -/
def Plan.sent (p : Plan) (a : Answer) : List Http.Request :=
  match Service.build p.settings Run.hooks with
  | .ok (some service) =>
    let q := (service.queue.submit (Run.objectRequest p.endpoint)).2.run
    (q.answer 0 fun _ => a).2.run.calls.map Call.request
  | _ => []

/-- The plan can be carried out: the client can be made, and a cap on requests at work can be kept. -/
structure Plan.Feasible (p : Plan) : Prop where
  client : ∃ c, Http.Client.ofSettings p.settings = .ok c
  cap : ∀ n ∈ p.settings.maxConcurrent, n.toNat ≤ Limiter.maxCapacity

/-- What can go over the wire of the request for an object is what the endpoint gives. -/
lemma toRequest_object (e : Endpoint) :
    (Run.objectRequest e).endpoint.bind Endpoint.toRequest = e.toRequest := by
  unfold Run.objectRequest
  dsimp only [Except.bind]

lemma exists_over {α : Type} {s : Settings} (hooks : List Hook)
    (hcap : ∀ n ∈ s.maxConcurrent, n.toNat ≤ Limiter.maxCapacity) :
    ∃ q : Queue α, Queue.over? s hooks (fun _ _ => none) = some q := by
  refine (Queue.exists_over_iff hooks _).mpr fun n hn => ?_
  obtain ⟨hmem, -⟩ := Option.mem_filter_iff.mp hn
  obtain ⟨m, hm, rfl⟩ := Option.map_eq_some_iff.mp hmem
  exact hcap m hm

/-- A plan that can be carried out has a client and a queue. -/
lemma Plan.Feasible.exists_queue (hp : p.Feasible) : ∃ (c : Http.Client) (q : Queue Members),
    Queue.over? p.settings Run.hooks (fun _ _ => none) = some q ∧
    Service.build p.settings Run.hooks = .ok (some ⟨c, q.spawnReader⟩) := by
  obtain ⟨c, hclient⟩ := hp.client
  obtain ⟨q, hq⟩ := exists_over (α := Members) Run.hooks hp.cap
  refine ⟨c, q, hq, ?_⟩
  unfold Service.build Queue.ofSettings?
  rw [hclient, hq]
  rfl

/-- **A plan that can be carried out** ends as its request is fated to; the run waits for the
exchange of what the queue gives to the transport, and that is what the endpoint resolves to. -/
lemma Plan.course (hp : p.Feasible) (a : Answer) :
    (Run.ofPlan p).finish a =
      .ofOutcome ((Run.objectRequest p.endpoint).fate p.settings.successStatus a) ∧
    (Run.ofPlan p).awaited = p.endpoint.toRequest.toOption.toList ∧
    p.sent a = p.endpoint.toRequest.toOption.toList := by
  obtain ⟨c, q, hq, hbuild⟩ := hp.exists_queue
  have hr : (Run.objectRequest p.endpoint).admits q.snapshot = true := rfl
  obtain ⟨hfate, hcalls⟩ := Queue.alone hq hr a rfl
  rw [toRequest_object] at hcalls
  have hplan : Run.ofPlan p = Run.ofQueue c p.settings.timeoutMs
      (q.spawnReader.submit (Run.objectRequest p.endpoint)).2.run := by
    unfold Run.ofPlan
    rw [hbuild]
    dsimp only
    rw [Queue.submit_of_admitted (r := Run.objectRequest p.endpoint) rfl]
  have hsent : p.sent a = p.endpoint.toRequest.toOption.toList := by
    unfold Plan.sent
    rw [hbuild]
    exact hcalls
  rw [hplan, hsent]
  unfold Run.ofQueue
  cases hx : p.endpoint.toRequest with
  | error fault =>
    rw [← toRequest_object] at hx
    obtain ⟨e, he, -, ho⟩ := Queue.run_of_fault hq hr hx a
    rw [Queue.outcome_of_outcomes he ho]
    exact ⟨rfl, rfl, rfl⟩
  | ok sent =>
    rw [← toRequest_object] at hx
    obtain ⟨⟨e, he, -, hs, -⟩, hcall, -⟩ := Queue.run_of_sent hq hr hx
    have hnone := Queue.outcome_of_live (Queue.handed hq hr).2.run.sound he (hs ▸ nofun)
    rw [hnone, hcall]
    refine ⟨?_, rfl, rfl⟩
    show Waiting.finish _ a = _
    unfold Waiting.finish
    dsimp only
    rw [hfate]
    rfl

/-! ### Command lines -/

namespace Arguments

variable {arguments : Arguments} {d : Disk}

/-- The settings and the endpoint are good and the URL resolves, and the answer is a response with the
status of success that brings the object. -/
def Succeeds (arguments : Arguments) (d : Disk) (a : Answer) (ms : Members) : Prop :=
  ∃ p u r, (arguments.plan d).result = .ok p ∧ p.endpoint.resolve = .ok u ∧ a = .ok r ∧
    r.status = p.settings.successStatus ∧ r.Brings ms

/-- What is given to the transport in the whole run. -/
def sent (arguments : Arguments) (d : Disk) (a : Answer) : List Http.Request :=
  match (arguments.plan d).result with
  | .error _ => []
  | .ok p => p.sent a

lemma succeeds_iff_of_plan (hp : (arguments.plan d).result = .ok p) :
    arguments.Succeeds d a ms ↔
      (Run.objectRequest p.endpoint).fate p.settings.successStatus a = .completed ms := by
  rw [Request.fate_eq_completed_iff]
  constructor
  · rintro ⟨p', u, r, hp', hu, ha, hs, hms⟩
    obtain rfl : p = p' := Except.ok.inj (hp.symm.trans hp')
    rw [toRequest_object]
    exact ⟨_, r, ms, Endpoint.toRequest_of_resolved hu, ha, hms, hs, rfl⟩
  · rintro ⟨sent, r, ms', hsent, ha, hms, hs, haccepted⟩
    obtain rfl : ms' = ms := Processed.accepted.inj haccepted
    rw [toRequest_object] at hsent
    cases hu : p.endpoint.resolve with
    | error fault => cases hsent.symm.trans (Endpoint.toRequest_of_fault hu)
    | ok u => exact ⟨p, u, r, hp, hu, ha, hs, hms⟩

end Arguments

/-- **The command line, end to end.**  The run of arguments that are a request, whatever files there
are and whatever the transport answers, with a client that can be made and a cap that can be kept: the
exit code is zero exactly if settings and endpoint are good, the URL resolves, and the answer is a
response with the status of success, that says it is JSON and is an object.  The text of this object
is printed then, with a line end behind it, and it is read back as the object if no binary64 number
stands in it.  Otherwise nothing is printed to the output.  If settings and endpoint are good and the
URL resolves, the request is given to the transport, once, and nothing else is; that is what the run
waits for. -/
theorem end_to_end {args : List String} {d : Disk} {arguments : Arguments} (a : Answer)
    (h : Arguments.parse args = .ok arguments)
    (feasible : ∀ p, (arguments.plan d).result = .ok p → p.Feasible) :
    (((Run.start args d).1.finish a).code = 0 ↔ ∃ ms, arguments.Succeeds d a ms) ∧
    (∀ ms, arguments.Succeeds d a ms →
      ((Run.start args d).1.finish a).output = Json.pretty (.obj ms) ++ "\n" ∧
      (Json.Exact (.obj ms) →
        Json.parse (ofString ((Run.start args d).1.finish a).output) = .ok (.obj ms))) ∧
    ((∀ ms, ¬arguments.Succeeds d a ms) → ((Run.start args d).1.finish a).output = "") ∧
    (∀ p u, (arguments.plan d).result = .ok p → p.endpoint.resolve = .ok u →
      arguments.sent d a =
        [⟨p.endpoint.method, u.text, p.endpoint.headers, p.endpoint.body⟩]) ∧
    ((∀ p u, (arguments.plan d).result = .ok p → p.endpoint.resolve ≠ .ok u) →
      arguments.sent d a = []) ∧
    (Run.start args d).1.awaited = arguments.sent d a := by
  unfold Run.start Arguments.sent
  rw [h]
  dsimp only
  cases hp : (arguments.plan d).result with
  | error t =>
    have hnot : ∀ ms, ¬arguments.Succeeds d a ms := by
      rintro ms ⟨p, u, r, hp', -⟩
      cases hp.symm.trans hp'
    have hfinish : (Run.ended (.ofTrouble t)).finish a = .ofTrouble t := rfl
    dsimp only
    rw [hfinish]
    refine ⟨iff_of_false Ending.failureCode_ne_zero (not_exists.mpr hnot),
      fun ms hms => absurd hms (hnot ms), fun _ => rfl, ?_, fun _ => rfl, rfl⟩
    exact fun p u hp' => nomatch hp'
  | ok p =>
    obtain ⟨hfinish, hawaited, hsent⟩ := Plan.course (feasible p hp) a
    dsimp only
    rw [hfinish, hawaited, hsent]
    simp only [Arguments.succeeds_iff_of_plan hp]
    refine ⟨Ending.code_ofOutcome, fun ms hms => ?_, Ending.output_ofOutcome, ?_, ?_, trivial⟩
    · rw [hms]
      refine ⟨rfl, fun hexact => ?_⟩
      obtain ⟨-, r, ms', -, -, hbrings, -, haccepted⟩ := Request.fate_eq_completed_iff.mp hms
      obtain rfl : ms' = ms := Processed.accepted.inj haccepted
      exact Json.parse_pretty (Json.canonical_of_parse hbrings.2) hexact
    · rintro p' u hp' hu
      obtain rfl : p = p' := Except.ok.inj hp'
      rw [Endpoint.toRequest_of_resolved hu]
      rfl
    · intro hnot
      cases hu : p.endpoint.resolve with
      | error fault =>
        rw [Endpoint.toRequest_of_fault hu]
        rfl
      | ok u => exact absurd hu (hnot p u rfl)

/-! ### A plain request -/

/-- A request that leaves all settings as they are but for the cap. -/
def plainGet (maxConcurrent : Option UInt64) : Arguments := ⟨"GET", "http://a/", { maxConcurrent }⟩

def noFiles : Disk := ⟨[], []⟩

def emptyObject : Http.Response :=
  { status := 200
    headers := [("content-type", Http.jsonType)]
    body := ofString "{}" }

lemma brings_emptyObject : emptyObject.Brings [] := by
  have hparse : Json.parse (ofString "{}") = .ok (.obj []) :=
    Json.parse_compact (v := .obj []) (.obj List.Pairwise.nil nofun) nofun
  exact ⟨⟨[], "content-type", [], rfl, rfl, fun _ h => absurd h List.not_mem_nil⟩, hparse⟩

lemma resolve_plainGet : Endpoint.resolve { method := .get, url := "http://a/" } =
    .ok ⟨.http, ⟨"", "", .domain "a", none⟩, [""], none, none⟩ := rfl

lemma succeeds_plainGet {cap : Option UInt64} (hplan : ((plainGet cap).plan noFiles).result =
    .ok ⟨{ maxConcurrent := cap }, { method := .get, url := "http://a/" }⟩) :
    (plainGet cap).Succeeds noFiles (.ok emptyObject) [] :=
  ⟨_, _, _, hplan, resolve_plainGet, rfl, rfl, brings_emptyObject⟩

theorem end_to_end_of_get :
    ((Run.start ["GET", "http://a/"] noFiles).1.finish (.ok emptyObject)).code = 0 ∧
    ((Run.start ["GET", "http://a/"] noFiles).1.finish (.ok emptyObject)).output =
      Json.pretty (.obj []) ++ "\n" ∧
    (plainGet none).sent noFiles (.ok emptyObject) = [⟨.get, "http://a/", [], none⟩] := by
  have hparse : Arguments.parse ["GET", "http://a/"] = .ok (plainGet none) := rfl
  have hplan : ((plainGet none).plan noFiles).result =
      .ok ⟨{}, { method := .get, url := "http://a/" }⟩ := rfl
  have feasible : ∀ p, ((plainGet none).plan noFiles).result = .ok p → p.Feasible := by
    intro p hp
    cases hplan.symm.trans hp
    exact ⟨⟨_, rfl⟩, nofun⟩
  obtain ⟨hcode, hgood, -, hsent, -⟩ := end_to_end (.ok emptyObject) hparse feasible
  have hcall := hsent _ _ hplan resolve_plainGet
  exact ⟨hcode.mpr ⟨[], succeeds_plainGet hplan⟩, (hgood [] (succeeds_plainGet hplan)).1, hcall⟩

/-- The text of the object is not all that is printed; and where the cap is too large to be kept, the
run breaks off although the request would succeed. -/
theorem more_than_the_text :
    (Arguments.parse ["GET", "http://a/"] = .ok (plainGet none) ∧
      (plainGet none).Succeeds noFiles (.ok emptyObject) [] ∧
      ((Run.start ["GET", "http://a/"] noFiles).1.finish (.ok emptyObject)).output ≠
        Json.pretty (.obj [])) ∧
    Arguments.parse ["GET", "http://a/", "--max-concurrent", "18446744073709551615"] =
        .ok (plainGet (some 18446744073709551615)) ∧
      (plainGet (some 18446744073709551615)).Succeeds noFiles (.ok emptyObject) [] ∧
      ((Run.start ["GET", "http://a/", "--max-concurrent", "18446744073709551615"]
        noFiles).1.finish (.ok emptyObject)).code ≠ 0 := by
  have hplan : ((plainGet none).plan noFiles).result =
      .ok ⟨{}, { method := .get, url := "http://a/" }⟩ := rfl
  have hstart : (Run.start ["GET", "http://a/"] noFiles).1 =
      Run.ofPlan ⟨{}, { method := .get, url := "http://a/" }⟩ := rfl
  obtain ⟨hfinish, -⟩ := Plan.course
    (p := ⟨{}, { method := .get, url := "http://a/" }⟩) ⟨⟨_, rfl⟩, nofun⟩ (.ok emptyObject)
  have hfate := (Arguments.succeeds_iff_of_plan hplan).mp (succeeds_plainGet hplan)
  refine ⟨⟨rfl, succeeds_plainGet hplan, ?_⟩, rfl, succeeds_plainGet rfl, by decide⟩
  rw [hstart, hfinish, hfate]
  decide

end Cli

end Courier
