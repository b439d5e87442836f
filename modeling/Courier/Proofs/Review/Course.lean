import Courier.Review.Response
import Mathlib.Tactic.Lemma

/-!
The course of a review that is not given up.  Its questions make no difference, so that it comes to
the one outcome that is written in it; the review of a response calls the processor once at most.
-/

namespace Courier

/-- What is said of an object that a processor does not accept. -/
def Processed.complaint? {α : Type} : Processed α → Option String
  | accepted _ => none
  | refused f => some f.message
  | panicked text => some s!"결과 처리기 패닉: {text.getD Review.unknownPanic}"

@[simp] lemma Processed.complaint?_accepted {α : Type} (a : α) :
    (accepted a).complaint? = none := rfl

lemma Processed.complaint?_eq_none_iff {α : Type} {p : Processed α} :
    p.complaint? = none ↔ ∃ a, p = .accepted a := by
  cases p <;> simp [complaint?]

namespace Review

variable {α : Type}

/-- What a review comes to, and how often it calls the processor, if it is not given up. -/
def outcome : Review α → Except Failure α × Nat
  | log _ next | ask next => outcome next
  | process next => ((outcome next).1, (outcome next).2 + 1)
  | done result => (result, 0)

/-- **A review that is not given up** comes to its outcome. -/
theorem runThrough_eq (r : Review α) :
    r.runThrough.verdict = verdictOf r.outcome.1 ∧ r.runThrough.calls = r.outcome.2 := by
  -- questions are numbered, so the induction is for any number that was asked before
  have hall : ∀ n, (runFrom (fun _ => false) n r).verdict = verdictOf r.outcome.1 ∧
      (runFrom (fun _ => false) n r).calls = r.outcome.2 := by
    induction r with
    | log record next ih => exact fun n => ih n
    | process next ih => exact fun n => ⟨(ih n).1, congrArg (· + 1) (ih n).2⟩
    | ask next ih =>
      intro n
      have hnext : runFrom (fun _ => false) n (ask next) =
          runFrom (fun _ => false) (n + 1) next := by
        rw [runFrom]
        rfl
      rw [hnext]
      exact ih (n + 1)
    | done result => exact fun n => ⟨rfl, rfl⟩
  exact hall 0

/-- A review that is never given up is not abandoned. -/
theorem verdict_runThrough (r : Review α) : r.runThrough.verdict ≠ .abandoned := by
  rw [r.runThrough_eq.1]
  cases r.outcome.1 <;> exact nofun

/-! ### What responses come to -/

variable {url : String} {successStatus : UInt16} {processor : Processor α}
  {r : Http.Response} {ms : Json.Members} {v : Json}

/-- The failure that reports a breach, with what is usually said of it. -/
def breachOf (b : Breach) (url : String) (response : Option Http.Response) : Failure :=
  .service { breach := b, url, response := response.map Http.Response.text }

/-- The outcome of the review of a response. -/
abbrev outcomeOf (url : String) (successStatus : UInt16) (processor : Processor α)
    (r : Http.Response) : Except Failure α × Nat :=
  (ofResponse url successStatus processor (some r)).outcome

lemma outcomeOf_eq : outcomeOf url successStatus processor r =
    (arrived url successStatus processor r).outcome := rfl

lemma outcome_of_other_type (h : r.contentType? ≠ some Http.jsonType) :
    outcomeOf url successStatus processor r =
      (.error (breachOf .wrongContentType url (some r)), 0) := by
  rw [outcomeOf_eq]
  unfold arrived
  rw [if_neg h]
  rfl

section Json

variable (htype : r.contentType? = some Http.jsonType)
include htype

lemma outcome_of_unread {e : Json.Error} (h : Json.parse r.body = .error e) :
    outcomeOf url successStatus processor r =
      (.error (breachOf .parseFailed url (some r)), 0) := by
  rw [outcomeOf_eq]
  unfold arrived
  rw [if_pos htype]
  show (body url successStatus processor r).outcome = _
  unfold body
  rw [h]
  rfl

/-- Whatever is read has its value reviewed. -/
lemma outcome_of_read (h : Json.parse r.body = .ok v) :
    outcomeOf url successStatus processor r =
      (value url successStatus processor r.status r.text v).outcome := by
  rw [outcomeOf_eq]
  unfold arrived
  rw [if_pos htype]
  show (body url successStatus processor r).outcome = _
  unfold body
  rw [h]
  rfl

lemma outcome_of_not_object (h : Json.parse r.body = .ok v) (hv : ∀ ms, v ≠ .obj ms) :
    outcomeOf url successStatus processor r =
      (.error (breachOf .notAnObject url (some r)), 0) := by
  rw [outcome_of_read htype h]
  cases v with
  | obj ms => exact absurd rfl (hv ms)
  | _ => rfl

variable (h : Json.parse r.body = .ok (.obj ms))
include h

lemma outcome_of_refusal (hs : r.status ≠ successStatus) :
    outcomeOf url successStatus processor r = (refusal url r.text ms).outcome := by
  rw [outcome_of_read htype h]
  exact congrArg outcome (if_neg hs)

lemma outcome_of_success (hs : r.status = successStatus) :
    outcomeOf url successStatus processor r = (success url r.text processor ms).outcome := by
  rw [outcome_of_read htype h]
  exact congrArg outcome (if_pos hs)

lemma outcome_of_report (hs : r.status ≠ successStatus) {e : ApplicationError}
    (he : ApplicationError.ofResponse ms = .ok e) :
    outcomeOf url successStatus processor r = (.error (.application e), 0) := by
  rw [outcome_of_refusal htype h hs]
  unfold refusal
  rw [he]
  rfl

lemma outcome_of_no_report (hs : r.status ≠ successStatus) {f : Fault}
    (hf : ApplicationError.ofResponse ms = .error f) :
    outcomeOf url successStatus processor r =
      (.error (breachOf .errorMapping url (some r)), 0) := by
  rw [outcome_of_refusal htype h hs]
  unfold refusal
  rw [hf]
  rfl

lemma outcome_of_accepted (hs : r.status = successStatus) {a : α}
    (ha : processor ms = .accepted a) :
    outcomeOf url successStatus processor r = (.ok a, 1) := by
  rw [outcome_of_success htype h hs]
  unfold success
  rw [ha]
  rfl

lemma outcome_of_complaint (hs : r.status = successStatus) {d : String}
    (hd : (processor ms).complaint? = some d) :
    outcomeOf url successStatus processor r =
      (.error (.service ⟨.resultMapping, url, some r.text, d⟩), 1) := by
  rw [outcome_of_success htype h hs]
  unfold success
  cases hp : processor ms with
  | accepted a =>
    rw [hp] at hd
    cases hd
  | refused f =>
    rw [hp] at hd
    cases hd
    rfl
  | panicked text =>
    rw [hp] at hd
    cases hd
    rfl

end Json

/-- The review of a response calls the processor once at most. -/
theorem calls_ofResponse_le (r : Http.Response) :
    (ofResponse url successStatus processor (some r)).runThrough.calls ≤ 1 := by
  rw [(runThrough_eq _).2]
  show (outcomeOf url successStatus processor r).2 ≤ 1
  by_cases htype : r.contentType? = some Http.jsonType
  · cases h : Json.parse r.body with
    | error e =>
      rw [outcome_of_unread htype h]
      exact Nat.zero_le 1
    | ok v =>
      rw [outcome_of_read htype h]
      unfold value
      split
      · split
        · unfold success
          cases processor _ <;> exact Nat.le_refl 1
        · unfold refusal
          cases ApplicationError.ofResponse _ <;> exact Nat.zero_le 1
      · exact Nat.zero_le 1
  · rw [outcome_of_other_type htype]
    exact Nat.zero_le 1

end Review

end Courier
