import Courier.Proofs.Review.Course

/-!
The ends to which a review can come, whatever is answered to its questions.  What holds of all ends
of a review holds of its verdict, unless it was given up; in particular a breach of the contract is
always reported with the URL under review.
-/

namespace Courier.Review

variable {α : Type} {P : Except Failure α → Prop} {r : Review α}

/-! ### Ends -/

/-- All ends of a review are such. -/
def Ends (P : Except Failure α → Prop) : Review α → Prop
  | log _ next | ask next | process next => Ends P next
  | done result => P result

/-- **The verdict of a review** is one of its ends, or the review was given up. -/
theorem Ends.verdict (h : r.Ends P) (giveUp : Nat → Bool) (n : Nat) :
    (runFrom giveUp n r).verdict = .abandoned ∨
      ∃ x, P x ∧ (runFrom giveUp n r).verdict = verdictOf x := by
  induction r generalizing n with
  | log record next ih => exact ih h n
  | process next ih => exact ih h n
  | ask next ih =>
    rw [runFrom]
    split
    · exact .inl rfl
    · exact ih h (n + 1)
  | done result => exact .inr ⟨result, h, rfl⟩

/-! ### The URL of a breach -/

/-- Whoever reports a breach of the contract names the URL. -/
def Names (url : String) (x : Except Failure α) : Prop := ∀ f, x = .error (.service f) → f.url = url

variable {url text : String} {status successStatus : UInt16} {processor : Processor α}

lemma names_breach (b : Breach) (text : Option String) :
    (breach (α := α) b url text).Ends (Names url) := by
  intro f hf
  cases hf
  rfl

lemma names_success (object : Json.Members) :
    (success url text processor object).Ends (Names url) := by
  unfold success
  cases processor object with
  | accepted a =>
    intro f hf
    cases hf
  | refused fault =>
    intro f hf
    cases hf
    rfl
  | panicked message =>
    intro f hf
    cases hf
    rfl

lemma names_refusal (object : Json.Members) :
    (refusal (α := α) url text object).Ends (Names url) := by
  unfold refusal
  cases ApplicationError.ofResponse object with
  | ok e =>
    intro f hf
    cases hf
  | error fault => exact names_breach _ _

/-- **Every breach of the contract** is reported with the URL under review. -/
theorem names_ofResponse (response : Option Http.Response) :
    (ofResponse url successStatus processor response).Ends (Names url) := by
  have hvalue : ∀ (status : UInt16) (text : String) (v : Json),
      (value url successStatus processor status text v).Ends (Names url) := by
    intro status text v
    unfold value
    split
    · split
      · exact names_success _
      · exact names_refusal _
    · exact names_breach _ _
  have hbody : ∀ response : Http.Response,
      (body url successStatus processor response).Ends (Names url) := by
    intro response
    unfold body
    cases Json.parse response.body with
    | error e => exact names_breach _ _
    | ok v => exact hvalue _ _ _
  cases response with
  | none => exact names_breach _ _
  | some response =>
    show (arrived url successStatus processor response).Ends (Names url)
    unfold arrived
    split
    · exact hbody response
    · exact names_breach _ _

end Courier.Review
