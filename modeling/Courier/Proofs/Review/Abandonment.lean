import Courier.Proofs.Json.Forms
import Courier.Proofs.Review.Course
import Mathlib.Data.Nat.Find

/-!
Reviews that are given up.  A review stops at the first question that is answered with yes, and what
it has done until then is what it would have done anyway; if all its questions are answered with no,
they make no difference.  The review of a response puts its questions before everything that others
could notice: until the last of them it neither calls the processor nor records an error.
-/

namespace Courier.Review

variable {α : Type} {giveUp : Nat → Bool} {r : Review α} {i n : Nat}

/-! ### Questions -/

/-- How many questions a review asks unless it is given up. -/
def questions : Review α → Nat
  | log _ next | process next => questions next
  | ask next => questions next + 1
  | done _ => 0

/-- What happens in a review before the question of the given number. -/
def before : (i : Nat) → Review α → Trace ProcessorCall
  | i, log record next => .log record :: before i next
  | i, process next => .event .called :: before i next
  | 0, ask _ => []
  | i + 1, ask next => before i next
  | _, done _ => []

lemma asked_runFrom (r : Review α) (n : Nat) :
    (runFrom (fun _ => false) n r).asked = n + r.questions := by
  induction r generalizing n with
  | log record next ih => exact ih n
  | process next ih => exact ih n
  | ask next ih => exact (ih (n + 1)).trans (by rw [questions]; omega)
  | done result => rfl

theorem asked_runThrough (r : Review α) : r.runThrough.asked = r.questions :=
  (r.asked_runFrom 0).trans (Nat.zero_add _)

/-- **Questions that are all answered with no** make no difference. -/
lemma runFrom_of_no (h : ∀ i < r.questions, giveUp (n + i) = false) :
    runFrom giveUp n r = runFrom (fun _ => false) n r := by
  induction r generalizing n with
  | log record next ih => exact congrArg (Report.after (.log record)) (ih h)
  | process next ih => exact congrArg (Report.after (.event .called)) (ih h)
  | ask next ih =>
    have hfirst : giveUp n = false := h 0 (Nat.succ_pos _)
    have hnext : ∀ i < next.questions, giveUp (n + 1 + i) = false := by
      intro i hi
      rw [Nat.add_assoc, Nat.add_comm 1]
      exact h (i + 1) (Nat.succ_lt_succ hi)
    simp only [runFrom, hfirst, Bool.false_eq_true, if_false]
    exact ih hnext
  | done result => rfl

/-- **The first question that is answered with yes** is the last thing that happens. -/
lemma runFrom_of_yes (hi : i < r.questions) (hyes : giveUp (n + i) = true)
    (hno : ∀ j < i, giveUp (n + j) = false) :
    runFrom giveUp n r = ⟨.abandoned, n + i + 1, r.before i⟩ := by
  induction r generalizing n i with
  | log record next ih =>
    show (runFrom giveUp n next).after (.log record) = _
    rw [ih hi hyes hno]
    rfl
  | process next ih =>
    show (runFrom giveUp n next).after (.event .called) = _
    rw [ih hi hyes hno]
    rfl
  | ask next ih =>
    cases i with
    | zero => exact if_pos hyes
    | succ i =>
      have hfirst : giveUp n = false := hno 0 (Nat.succ_pos _)
      have hshift : ∀ j, n + (j + 1) = n + 1 + j := by omega
      simp only [runFrom, hfirst, Bool.false_eq_true, if_false]
      rw [hshift i] at hyes ⊢
      exact ih (Nat.lt_of_succ_lt_succ hi) hyes
        fun j hj => hshift j ▸ hno (j + 1) (Nat.succ_lt_succ hj)
  | done result => exact absurd hi (Nat.not_lt_zero i)

lemma run_of_no (h : ∀ i < r.questions, giveUp i = false) : r.run giveUp = r.runThrough :=
  runFrom_of_no fun i hi => by rw [Nat.zero_add, h i hi]

lemma run_of_yes (hi : i < r.questions) (hyes : giveUp i = true)
    (hno : ∀ j < i, giveUp j = false) : r.run giveUp = ⟨.abandoned, i + 1, r.before i⟩ := by
  have hrun : runFrom giveUp 0 r = ⟨.abandoned, 0 + i + 1, r.before i⟩ :=
    runFrom_of_yes hi (by rwa [Nat.zero_add]) fun j hj => by rw [Nat.zero_add, hno j hj]
  rwa [Nat.zero_add] at hrun

/-- If there is a yes, there is a first one. -/
lemma exists_first (hyes : giveUp i = true) :
    ∃ j ≤ i, giveUp j = true ∧ ∀ k < j, giveUp k = false := by
  have hex : ∃ i, giveUp i = true := ⟨i, hyes⟩
  exact ⟨Nat.find hex, Nat.find_le hyes, Nat.find_spec hex,
    fun k hk => Bool.eq_false_iff.mpr (Nat.find_min hex hk)⟩

/-- A review is given up if and only if one of its questions is answered with yes. -/
theorem abandoned_iff :
    (r.run giveUp).verdict = .abandoned ↔ ∃ i < r.questions, giveUp i = true := by
  constructor
  · intro habandoned
    by_contra hnone
    have hno : ∀ i < r.questions, giveUp i = false :=
      fun i hi => Bool.eq_false_iff.mpr fun h => hnone ⟨i, hi, h⟩
    rw [run_of_no hno] at habandoned
    exact verdict_runThrough r habandoned
  · rintro ⟨i, hi, hyes⟩
    obtain ⟨j, hj, hyes, hno⟩ := exists_first hyes
    rw [run_of_yes (Nat.lt_of_le_of_lt hj hi) hyes hno]

/-- Nothing happens before a question that would not have happened anyway. -/
lemma before_prefix (r : Review α) (i : Nat) : r.before i <+: r.runThrough.trace := by
  have hall : ∀ n, r.before i <+: (runFrom (fun _ => false) n r).trace := by
    induction r generalizing i with
    | log record next ih => exact fun n => List.cons_prefix_cons.mpr ⟨rfl, ih i n⟩
    | process next ih => exact fun n => List.cons_prefix_cons.mpr ⟨rfl, ih i n⟩
    | ask next ih =>
      intro n
      cases i with
      | zero => exact List.nil_prefix
      | succ i => exact ih i (n + 1)
    | done result => exact fun n => List.nil_prefix
  exact hall 0

/-! ### Questions before deeds -/

/-- Nothing is asked any more once the processor was called or an error was recorded. -/
def Cautious : Review α → Prop
  | log record next => (record.level = .error → next.questions = 0) ∧ Cautious next
  | ask next => Cautious next
  | process next => next.questions = 0
  | done _ => True

/-- Before its last question a cautious review does nothing but record what is no error. -/
lemma Cautious.quiet (h : r.Cautious) (hi : i < r.questions) :
    ∀ happening ∈ r.before i, ∃ record, happening = .log record ∧ record.level ≠ .error := by
  induction r generalizing i with
  | log record next ih =>
    refine List.forall_mem_cons.mpr ⟨⟨record, rfl, fun herror => ?_⟩, ih h.2 hi⟩
    have hnone : next.questions = 0 := h.1 herror
    exact Nat.not_lt_zero i (hnone ▸ hi)
  | process next ih =>
    have hnone : next.questions = 0 := h
    exact absurd (hnone ▸ hi) (Nat.not_lt_zero i)
  | ask next ih =>
    cases i with
    | zero => exact List.forall_mem_nil _
    | succ i => exact ih h (Nat.lt_of_succ_lt_succ hi)
  | done result => exact absurd hi (Nat.not_lt_zero i)

variable {url text : String} {status successStatus : UInt16} {processor processor' : Processor α}

/-- Once the processor is called, nothing is asked any more. -/
lemma questions_success (object : Json.Members) :
    (success url text processor object).questions = 1 := by
  unfold success
  cases processor object <;> rfl

lemma questions_refusal (object : Json.Members) :
    (refusal (α := α) url text object).questions = 1 := by
  unfold refusal
  cases ApplicationError.ofResponse object <;> rfl

/-- An object is reviewed in four questions, whatever status it comes with. -/
lemma questions_of_object {response : Http.Response} {object : Json.Members}
    (htype : response.contentType? = some Http.jsonType)
    (hparse : Json.parse response.body = .ok (.obj object)) :
    (ofResponse url successStatus processor (some response)).questions = 4 := by
  have hvalue : (value url successStatus processor response.status response.text
      (.obj object)).questions = 1 := by
    unfold value
    dsimp only
    split
    · exact questions_success object
    · exact questions_refusal object
  show (arrived url successStatus processor response).questions + 1 = 4
  unfold arrived
  rw [if_pos htype]
  unfold body
  rw [hparse]
  exact congrArg (· + 3) hvalue

lemma cautious_success (object : Json.Members) : (success url text processor object).Cautious := by
  unfold success
  cases processor object <;> exact rfl

lemma cautious_refusal (object : Json.Members) :
    (refusal (α := α) url text object).Cautious := by
  unfold refusal
  cases ApplicationError.ofResponse object with
  | ok e => exact trivial
  | error f => exact ⟨nofun, trivial⟩

lemma cautious_value (v : Json) : (value url successStatus processor status text v).Cautious := by
  unfold value
  split
  · split
    · exact cautious_success _
    · exact cautious_refusal _
  · exact ⟨fun _ => rfl, trivial⟩

lemma cautious_body (response : Http.Response) :
    (body url successStatus processor response).Cautious := by
  unfold body
  refine ⟨nofun, ?_⟩
  cases Json.parse response.body with
  | error e => exact ⟨fun _ => rfl, fun _ => rfl, trivial⟩
  | ok v => exact cautious_value v

/-- **The review of a response** asks before it does anything that matters. -/
theorem cautious_ofResponse (response : Option Http.Response) :
    (ofResponse url successStatus processor response).Cautious := by
  cases response with
  | none => exact ⟨fun _ => rfl, trivial⟩
  | some response =>
    show (arrived url successStatus processor response).Cautious
    unfold arrived
    split
    · exact cautious_body response
    · exact ⟨fun _ => rfl, fun _ => rfl, trivial⟩

/-! ### Processors -/

/-- Before the last question of a review it does not matter which processor it is for. -/
def Alike (r r' : Review α) : Prop :=
  r.questions = r'.questions ∧ ∀ i < r.questions, r.before i = r'.before i

lemma Alike.refl (r : Review α) : Alike r r := ⟨rfl, fun _ _ => rfl⟩

lemma Alike.log {r r' : Review α} (h : Alike r r') (record : LogRecord) :
    Alike (log record r) (log record r') :=
  ⟨h.1, fun i hi => congrArg (Happening.log record :: ·) (h.2 i hi)⟩

lemma Alike.ask {r r' : Review α} (h : Alike r r') : Alike (ask r) (ask r') := by
  refine ⟨congrArg (· + 1) h.1, fun i hi => ?_⟩
  cases i with
  | zero => rfl
  | succ i => exact h.2 i (Nat.lt_of_succ_lt_succ hi)

lemma alike_success (object : Json.Members) :
    Alike (success url text processor object) (success url text processor' object) := by
  refine ⟨by rw [questions_success, questions_success], fun i hi => ?_⟩
  rw [questions_success] at hi
  obtain rfl : i = 0 := by omega
  rfl

lemma alike_value (v : Json) : Alike (value url successStatus processor status text v)
    (value url successStatus processor' status text v) := by
  cases v with
  | obj object =>
    by_cases hs : status = successStatus
    · simp only [value, if_pos hs]
      exact alike_success object
    · simp only [value, if_neg hs]
      exact .refl _
  | _ => exact .refl _

lemma alike_ofResponse (response : Option Http.Response) :
    Alike (ofResponse url successStatus processor response)
      (ofResponse url successStatus processor' response) := by
  cases response with
  | none => exact .refl _
  | some response =>
    refine .ask ?_
    unfold arrived
    split
    · refine .ask (.log ?_ _)
      cases Json.parse response.body with
      | error e => exact .refl _
      | ok v => exact .ask (alike_value v)
    · exact .refl _

/-! ### Giving up -/

/-- The course of a review is left at the question of the given number: no processor is called
until then, whichever it is, and no error is recorded. -/
structure LeftAt (i : Nat) (review : Processor α → Review α) (giveUp : Nat → Bool)
    (report : Report α) : Prop where
  verdict : report.verdict = .abandoned
  asked : report.asked = i + 1
  calls : report.calls = 0
  quiet : ∀ record ∈ report.trace.records, record.level ≠ .error
  whichever (processor : Processor α) : (review processor).run giveUp = report

/-- **Giving up.** Let `through` be the course of the review of a response that is not given up.
With other answers to its questions the review is given up if and only if one of the questions that
are asked in `through` is answered with yes; it is left at the first of these.  Otherwise it takes
the same course: as many questions, the same verdict, and the same calls of the processor. -/
theorem abandonment (url : String) (successStatus : UInt16) (processor : Processor α)
    (response : Option Http.Response) (giveUp : Nat → Bool) :
    let review (processor : Processor α) := ofResponse url successStatus processor response
    let through := (review processor).runThrough
    let report := (review processor).run giveUp
    (report.verdict = .abandoned ↔ ∃ i < through.asked, giveUp i = true) ∧
      (∀ i < through.asked, giveUp i = true → (∀ j < i, giveUp j = false) →
        LeftAt i review giveUp report ∧ report.trace <+: through.trace) ∧
      ((∀ i < through.asked, giveUp i = false) → report = through) := by
  intro review through report
  have hasked : through.asked = (review processor).questions := asked_runThrough _
  rw [hasked]
  refine ⟨abandoned_iff, fun i hi hyes hno => ?_, run_of_no⟩
  have hreport : report = ⟨.abandoned, i + 1, (review processor).before i⟩ :=
    run_of_yes hi hyes hno
  have hquiet := (cautious_ofResponse response).quiet hi
  rw [hreport]
  refine ⟨⟨rfl, rfl, ?_, fun record hrecord => ?_, fun processor' => ?_⟩, before_prefix _ i⟩
  · refine List.length_eq_zero_iff.mpr (List.filterMap_eq_nil_iff.mpr fun happening hmem => ?_)
    obtain ⟨record, rfl, -⟩ := hquiet happening hmem
    rfl
  · obtain ⟨happening, hmem, hrecord⟩ := List.mem_filterMap.mp hrecord
    obtain ⟨record', rfl, hlevel⟩ := hquiet happening hmem
    cases hrecord
    exact hlevel
  · have halike : Alike (review processor) (review processor') := alike_ofResponse response
    rw [run_of_yes (halike.1 ▸ hi) hyes hno, halike.2 i hi]

/-- The empty object, with the status of success. -/
def emptyReply : Http.Response :=
  { status := 200
    headers := [("content-type", Http.jsonType)]
    body := Text.Utf8.ofString "{}" }

/-- The last question is the one before the processor is called. -/
theorem abandonment_of_last :
    let review (processor : Processor Json.Members) :=
      ofResponse "http://a/" 200 processor (some emptyReply)
    (review .object).runThrough.asked = 4 ∧
      LeftAt 3 review (fun i => i == 3) ((review .object).run fun i => i == 3) := by
  intro review
  have hparse : Json.parse emptyReply.body = .ok (.obj []) :=
    Json.parse_compact (v := .obj []) (.obj List.Pairwise.nil nofun) nofun
  have hasked : (review .object).runThrough.asked = 4 :=
    (asked_runThrough _).trans (questions_of_object rfl hparse)
  obtain ⟨-, hleft, -⟩ := abandonment "http://a/" 200 .object (some emptyReply) fun i => i == 3
  exact ⟨hasked, (hleft 3 (hasked ▸ by decide) rfl (by decide)).1⟩

end Courier.Review
