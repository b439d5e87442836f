import Courier.Proofs.Failing
import Courier.Proofs.Number.Binary64
import Courier.Proofs.Review.Course

/-!
The classes of responses.  A response that is there says that it is JSON or not, is JSON or not,
and is an object or not; an object comes with the status of success, where the processor has the
last word, or with another one, where it reports an error or not.  The verdict tells which of these
was the case, and each verdict is reached in one way only.
-/

namespace Courier

/-- What is wrong with the contract, if the verdict is that it was broken. -/
def Verdict.breach? {α : Type} : Verdict α → Option Breach
  | .failed f => f.breach?
  | _ => none

section

variable {α : Type}

@[simp] lemma Verdict.breach?_service (e : ServiceError) :
    (Verdict.failed (.service e) : Verdict α).breach? = some e.breach := rfl

@[simp] lemma Verdict.breach?_application (e : ApplicationError) :
    (Verdict.failed (.application e) : Verdict α).breach? = none := rfl

@[simp] lemma Verdict.breach?_completed (a : α) : (Verdict.completed a).breach? = none := rfl

end

/-! ### Responses that bring an object -/

namespace Http

variable {r : Response}

/-- The first header that tells the type of the body gives JSON, letter by letter. -/
def Response.SaysJson (r : Response) : Prop :=
  ∃ front name rest, r.headers = front ++ (name, jsonType) :: rest ∧
    sameName name contentTypeName = true ∧ ∀ h ∈ front, sameName h.1 contentTypeName = false

lemma Response.saysJson_iff : r.SaysJson ↔ r.contentType? = some jsonType := by
  unfold Response.SaysJson Response.contentType? Response.header? Headers.get?
  rw [Option.map_eq_some_iff]
  constructor
  · rintro ⟨front, name, rest, hr, hname, hfront⟩
    refine ⟨(name, jsonType), List.find?_eq_some_iff_append.mpr ⟨hname, front, rest, hr, ?_⟩, rfl⟩
    intro h hh
    rw [hfront h hh]
    rfl
  · rintro ⟨⟨name, type⟩, hfind, rfl⟩
    obtain ⟨hname, front, rest, hr, hfront⟩ := List.find?_eq_some_iff_append.mp hfind
    exact ⟨front, name, rest, hr, hname, fun h hh => by simpa using hfront h hh⟩

/-- The response says that its body is JSON, and it is, and it is this object. -/
def Response.Brings (r : Response) (ms : Json.Members) : Prop :=
  r.SaysJson ∧ Json.parse r.body = .ok (.obj ms)

lemma Response.Brings.unique {ms ms' : Json.Members} (h : r.Brings ms) (h' : r.Brings ms') :
    ms = ms' := by
  have := h.2.symm.trans h'.2
  injection this with this
  injection this

end Http

/-! ### Objects that report an error -/

section Reports

variable {n : Json.Numeral} {i z : Int} {ms : Json.Members} {d : String}

namespace Json.Numeral

/-- The number that is meant. -/
def value : Numeral → ℚ
  | int i => i
  | real x => x.value

/-- The number has no fraction. -/
def IsIntegral (n : Numeral) : Prop := ∃ z : Int, n.value = z

end Json.Numeral

namespace ErrorReport

/-- Numbers without a fraction give a code, and no other numbers do. -/
lemma codeOf_isSome_iff : (codeOf n).isSome = true ↔ n.IsIntegral := by
  cases n with
  | int i =>
    refine iff_of_true ?_ ⟨i, rfl⟩
    unfold codeOf
    dsimp only
    split
    · rfl
    · rw [Option.isSome_map]
      exact Number.Binary64.toInt?_ofInt i
  | real x =>
    show (x.toInt?.map clamp64).isSome = true ↔ ∃ z : Int, x.value = z
    rw [Option.isSome_map, Option.isSome_iff_exists]
    exact exists_congr fun z => Number.Binary64.toInt?_eq_some_iff

lemma clamp64_of_mem (h : minCode ≤ z ∧ z ≤ maxCode) : clamp64 z = z := by
  unfold clamp64
  rw [min_eq_left h.2, max_eq_right h.1]

/-- An integer of 64 bits is its own code, however it is written. -/
lemma codeOf_of_value (h : n.value = z) (hz : minCode ≤ z ∧ z ≤ maxCode) : codeOf n = some z := by
  cases n with
  | int i =>
    obtain rfl : i = z := Int.cast_injective (α := ℚ) h
    exact if_pos hz
  | real x =>
    show x.toInt?.map clamp64 = some z
    rw [Number.Binary64.toInt?_eq_some_iff.mpr h]
    exact congrArg some (clamp64_of_mem hz)

end ErrorReport

/-- The object reports an error: there is an error object in it, with a description that is not
empty and with a number without a fraction as its code. -/
def ReportsError (ms : Json.Members) (d : String) : Prop :=
  ∃ (error : Json.Members) (n : Json.Numeral), ms.get? ErrorReport.key = some (.obj error) ∧
    error.get? "description" = some (.str d) ∧ d ≠ "" ∧
    error.get? "code" = some (.num n) ∧ n.IsIntegral

lemma members?_eq_some_iff {v : Json} : v.members? = some ms ↔ v = .obj ms := by
  cases v <;> simp [Json.members?]

lemma str?_eq_some_iff {v : Json} : v.str? = some d ↔ v = .str d := by
  cases v <;> simp [Json.str?]

lemma num?_eq_some_iff {v : Json} : v.num? = some n ↔ v = .num n := by
  cases v <;> simp [Json.num?]

namespace ErrorReport

variable {r : ErrorReport}

/-- A report is valid if it has a code, and a description that is not empty. -/
lemma validate_eq_ok_iff : r.validate = .ok () ↔ ∃ d c, r = ⟨some d, some c⟩ ∧ d ≠ "" := by
  obtain ⟨description, code⟩ := r
  constructor
  · intro h
    unfold validate at h
    cases description with
    | none => cases h
    | some d =>
      dsimp only at h
      split at h
      next => cases h
      next hd =>
        cases code with
        | none => cases h
        | some c => exact ⟨d, c, rfl, hd⟩
  · rintro ⟨d, c, h, hd⟩
    cases h
    exact if_neg hd

/-- Only a description that is not empty together with a code makes an application error. -/
lemma toApplicationError_eq_ok_iff {e : ApplicationError} :
    r.toApplicationError = .ok e ↔
      r.description = some e.description ∧ e.description ≠ "" ∧ r.code = some e.code := by
  unfold toApplicationError
  rw [check_bind_eq_ok_iff, validate_eq_ok_iff]
  constructor
  · rintro ⟨⟨d, c, rfl, hd⟩, h⟩
    cases h
    exact ⟨rfl, hd, rfl⟩
  · rintro ⟨hdescription, hne, hcode⟩
    obtain ⟨description, code⟩ := r
    cases hdescription
    cases hcode
    exact ⟨⟨_, _, rfl, hne⟩, rfl⟩

end ErrorReport

/-- What an application error is made of: a description that is not empty, and the code of a
number. -/
lemma ofResponse_eq_ok_iff {e : ApplicationError} : ApplicationError.ofResponse ms = .ok e ↔
    ∃ (error : Json.Members) (n : Json.Numeral), ms.get? ErrorReport.key = some (.obj error) ∧
      error.get? "description" = some (.str e.description) ∧ e.description ≠ "" ∧
      error.get? "code" = some (.num n) ∧ ErrorReport.codeOf n = some e.code := by
  unfold ApplicationError.ofResponse ErrorReport.ofResponse
  rw [ErrorReport.toApplicationError_eq_ok_iff]
  cases herror : (ms.get? ErrorReport.key).bind Json.members? with
  | none =>
    refine iff_of_false (fun ⟨h, _⟩ => nomatch h) ?_
    rintro ⟨error, n, hget, -⟩
    rw [hget] at herror
    cases herror
  | some error =>
    obtain ⟨v, hget, hv⟩ := Option.bind_eq_some_iff.mp herror
    rw [members?_eq_some_iff] at hv
    subst hv
    simp only [Option.bind_eq_some_iff, str?_eq_some_iff, num?_eq_some_iff]
    constructor
    · rintro ⟨⟨_, hdescription, rfl⟩, hne, n, ⟨_, hcode, rfl⟩, hn⟩
      exact ⟨error, n, hget, hdescription, hne, hcode, hn⟩
    · rintro ⟨error', n, hget', hdescription, hne, hcode, hn⟩
      obtain rfl : error = error' := by
        injection hget.symm.trans hget' with h
        injection h
      exact ⟨⟨_, hdescription, rfl⟩, hne, n, ⟨_, hcode, rfl⟩, hn⟩

/-- **Errors that are reported** are the application errors that a response gives. -/
theorem exists_ofResponse_iff :
    (∃ e, ApplicationError.ofResponse ms = .ok e ∧ e.description = d) ↔ ReportsError ms d := by
  constructor
  · rintro ⟨e, he, rfl⟩
    obtain ⟨error, n, hget, hdescription, hne, hcode, hn⟩ := ofResponse_eq_ok_iff.mp he
    exact ⟨error, n, hget, hdescription, hne, hcode, ErrorReport.codeOf_isSome_iff.mp (hn ▸ rfl)⟩
  · rintro ⟨error, n, hget, hdescription, hne, hcode, hn⟩
    obtain ⟨c, hc⟩ := Option.isSome_iff_exists.mp (ErrorReport.codeOf_isSome_iff.mpr hn)
    exact ⟨⟨d, c⟩, ofResponse_eq_ok_iff.mpr ⟨error, n, hget, hdescription, hne, hcode, hc⟩, rfl⟩

end Reports

/-! ### The classes -/

namespace Review

variable {α : Type} {url : String} {successStatus : UInt16} {processor : Processor α}

/-- A report of the review of a response is the one that the response calls for. -/
structure Classified (url : String) (successStatus : UInt16) (processor : Processor α)
    (response : Option Http.Response) (report : Report α) : Prop where
  noResponse : report.verdict.breach? = some .noResponse ↔ response = none
  wrongContentType : report.verdict.breach? = some .wrongContentType ↔ ∃ r ∈ response, ¬r.SaysJson
  parseFailed : report.verdict.breach? = some .parseFailed ↔
    ∃ r ∈ response, r.SaysJson ∧ ∀ v, Json.parse r.body ≠ .ok v
  notAnObject : report.verdict.breach? = some .notAnObject ↔
    ∃ r ∈ response, r.SaysJson ∧ ∃ v, Json.parse r.body = .ok v ∧ ∀ ms, v ≠ .obj ms
  application (d : String) :
    (∃ e, report.verdict = .failed (.application e) ∧ e.description = d) ↔
      ∃ r ∈ response, ∃ ms, r.Brings ms ∧ r.status ≠ successStatus ∧ ReportsError ms d
  errorMapping : report.verdict.breach? = some .errorMapping ↔
    ∃ r ∈ response, ∃ ms, r.Brings ms ∧ r.status ≠ successStatus ∧ ∀ d, ¬ReportsError ms d
  completed (a : α) : report.verdict = .completed a ↔
    ∃ r ∈ response, ∃ ms, r.Brings ms ∧ r.status = successStatus ∧ processor ms = .accepted a
  resultMapping (d : String) :
    (∃ e, report.verdict = .failed (.service e) ∧ e.breach = .resultMapping ∧ e.description = d) ↔
      ∃ r ∈ response, ∃ ms, r.Brings ms ∧ r.status = successStatus ∧
        (processor ms).complaint? = some d
  /-- it comes to an end -/
  decided : report.verdict ≠ .abandoned
  called : report.calls = 1 ↔ ∃ r ∈ response, ∃ ms, r.Brings ms ∧ r.status = successStatus
  calls_le : report.calls ≤ 1
  /-- every breach of the contract is reported with the URL, with the text of the response, and,
  unless the processor complained, with what is usually said of the breach -/
  service (e : ServiceError) : report.verdict = .failed (.service e) →
    e.url = url ∧ e.response = response.map Http.Response.text ∧
      (e.breach ≠ .resultMapping → e.description = e.breach.description)

section

variable {r : Http.Response} {ms : Json.Members} {report : Report α}
  (hreport : (ofResponse url successStatus processor (some r)).runThrough = report)
include hreport

lemma verdict_of_outcome {f : Failure} {n : Nat}
    (h : outcomeOf url successStatus processor r = (.error f, n)) :
    report.verdict = .failed f ∧ report.calls = n := by
  rw [← hreport, (runThrough_eq _).1, (runThrough_eq _).2]
  exact ⟨congrArg (verdictOf ·.1) h, congrArg (·.2) h⟩

/-- An object that comes with the status of success is up to the processor. -/
lemma classified_of_success (h : r.Brings ms) (hs : r.status = successStatus) :
    Classified url successStatus processor (some r) report := by
  have htype := Http.Response.saysJson_iff.mp h.1
  have hbrings : ∀ ms', r.Brings ms' ↔ ms' = ms :=
    fun ms' => ⟨fun h' => h'.unique h, fun h' => h' ▸ h⟩
  cases hcomplaint : (processor ms).complaint? with
  | none =>
    obtain ⟨a, ha⟩ := Processed.complaint?_eq_none_iff.mp hcomplaint
    have hout : outcomeOf url successStatus processor r = _ := outcome_of_accepted htype h.2 hs ha
    have hv : report.verdict = .completed a := by
      rw [← hreport, (runThrough_eq _).1]
      exact congrArg (verdictOf ·.1) hout
    have hn : report.calls = 1 := by
      rw [← hreport, (runThrough_eq _).2]
      exact congrArg (·.2) hout
    constructor <;> simp [hv, hn, hs, ha, h.1, h.2, hbrings, eq_comm]
  | some d =>
    have hrefused : ∀ a, processor ms ≠ .accepted a :=
      fun a ha => by rw [ha] at hcomplaint; cases hcomplaint
    obtain ⟨hv, hn⟩ := verdict_of_outcome hreport (outcome_of_complaint htype h.2 hs hcomplaint)
    constructor <;> simp [hv, hn, hs, hcomplaint, hrefused, h.1, h.2, hbrings]

/-- An object that comes with another status reports an error, or should have. -/
lemma classified_of_refusal (h : r.Brings ms) (hs : r.status ≠ successStatus) :
    Classified url successStatus processor (some r) report := by
  have htype := Http.Response.saysJson_iff.mp h.1
  have hbrings : ∀ ms', r.Brings ms' ↔ ms' = ms :=
    fun ms' => ⟨fun h' => h'.unique h, fun h' => h' ▸ h⟩
  have hreports : ∀ d, _ ↔ ReportsError ms d := fun d => exists_ofResponse_iff
  cases he : ApplicationError.ofResponse ms with
  | ok e =>
    obtain ⟨hv, hn⟩ := verdict_of_outcome hreport (outcome_of_report htype h.2 hs he)
    simp only [he] at hreports
    constructor <;> simp [hv, hn, hs, h.1, h.2, hbrings, ← hreports]
  | error f =>
    obtain ⟨hv, hn⟩ := verdict_of_outcome hreport (outcome_of_no_report htype h.2 hs he)
    simp only [he] at hreports
    constructor <;> simp [hv, hn, hs, h.1, h.2, hbrings, ← hreports, breachOf]

/-- Whatever brings no object breaks the contract. -/
lemma classified_of_breach (h : ∀ ms, ¬r.Brings ms) :
    Classified url successStatus processor (some r) report := by
  by_cases hmarked : r.SaysJson
  · have htype := Http.Response.saysJson_iff.mp hmarked
    cases hparse : Json.parse r.body with
    | error e =>
      obtain ⟨hv, hn⟩ := verdict_of_outcome hreport (outcome_of_unread htype hparse)
      constructor <;> simp [hv, hn, hmarked, hparse, h, breachOf]
    | ok v =>
      have hobject : ∀ ms, v ≠ .obj ms := fun ms hms => h ms ⟨hmarked, hms ▸ hparse⟩
      obtain ⟨hv, hn⟩ := verdict_of_outcome hreport (outcome_of_not_object htype hparse hobject)
      constructor <;> simp [hv, hn, hmarked, hparse, h, hobject, breachOf]
  · have htype := mt Http.Response.saysJson_iff.mpr hmarked
    obtain ⟨hv, hn⟩ := verdict_of_outcome hreport (outcome_of_other_type htype)
    constructor <;> simp [hv, hn, hmarked, h, breachOf]

end

lemma classified (url : String) (successStatus : UInt16) (processor : Processor α)
    (response : Option Http.Response) : Classified url successStatus processor response
      (ofResponse url successStatus processor response).runThrough := by
  generalize hreport : (ofResponse url successStatus processor response).runThrough = report
  cases response with
  | none =>
    have hv : report.verdict = .failed (breachOf .noResponse url none) := hreport ▸ rfl
    have hn : report.calls = 0 := hreport ▸ rfl
    constructor <;> simp [hv, hn, breachOf]
  | some r =>
    by_cases hobject : ∃ ms, r.Brings ms
    · obtain ⟨ms, hms⟩ := hobject
      by_cases hs : r.status = successStatus
      · exact classified_of_success hreport hms hs
      · exact classified_of_refusal hreport hms hs
    · exact classified_of_breach hreport (not_exists.mp hobject)

/-- The processor is asked about the object that a successful response brings, and about no
other. -/
lemma ofResponse_congr {processor' : Processor α} {response : Option Http.Response}
    (h : ∀ r ∈ response, ∀ ms, r.Brings ms → r.status = successStatus →
      processor' ms = processor ms) :
    ofResponse url successStatus processor' response =
      ofResponse url successStatus processor response := by
  cases response with
  | none => rfl
  | some r =>
    show ask (arrived url successStatus processor' r) = ask (arrived url successStatus processor r)
    unfold arrived
    split
    next htype =>
      unfold body
      cases hparse : Json.parse r.body with
      | error e => rfl
      | ok v =>
        cases v with
        | obj ms =>
          by_cases hs : r.status = successStatus
          · have hms := h r rfl ms ⟨Http.Response.saysJson_iff.mpr htype, hparse⟩ hs
            simp only [value, if_pos hs, success, hms]
          · simp only [value, if_neg hs]
        | _ => rfl
    next => rfl

/-- **The classes of responses.** A review that is not given up fails for want of a response, for
its type, for a body that is no JSON text or no object, in this order; then, unless the status is
that of success, it ends with the error that is reported or fails for want of one; and else it
comes to what the processor, called once with this object, makes of it. -/
theorem classification (url : String) (successStatus : UInt16) (processor : Processor α)
    (response : Option Http.Response) :
    Classified url successStatus processor response
        (ofResponse url successStatus processor response).runThrough ∧
      ∀ processor' : Processor α,
        (∀ r ∈ response, ∀ ms, r.Brings ms → r.status = successStatus →
          processor' ms = processor ms) →
        (ofResponse url successStatus processor' response).runThrough =
          (ofResponse url successStatus processor response).runThrough :=
  ⟨classified url successStatus processor response, fun _ h => congrArg runThrough (ofResponse_congr h)⟩

end Review

end Courier
