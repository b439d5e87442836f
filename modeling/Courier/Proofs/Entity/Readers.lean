import Courier.Proofs.Entity.Echo

/-!
The two readers of an error object.  The strict reader wants a record and refuses everything else;
the lenient one takes what it can use.  Whatever the strict reader accepts, the lenient one reads in
the same way, so that an error report survives both.
-/

namespace Courier

open Json (Members Shape)
open Json.Shape (fitMembers complete fieldFits possible)

/-! ### What a record is read from -/

/-- What is read from the members of an object is read from those of them that fit the record. -/
lemma Entity.exists_fitted {α : Type} [Entity α] {a : α} {ms : Members} {type : String}
    {fields : List (String × Json.Absence × Shape)} (hshape : shape α = .record type fields)
    (h : ofMapping ms = .ok a) :
    ∃ fitted declared, fitMembers (fieldFits fields) ms = .ok fitted ∧
      complete ((fieldFits fields).map fun f => (f.name, f.absence)) fitted = .ok declared ∧
      ofShaped (.obj declared) = some a := by
  obtain ⟨v, hv, h⟩ := bind_eq_ok_iff.mp h
  rw [mapError_eq_ok_iff, hshape] at hv
  obtain ⟨fitted, hfitted, hv⟩ := bind_eq_ok_iff.mp hv
  obtain ⟨declared, hdeclared, hv⟩ := bind_eq_ok_iff.mp hv
  cases hv
  refine ⟨fitted, declared, hfitted, hdeclared, ?_⟩
  unfold ofFitted at h
  split at h
  next a' ha' =>
    cases h
    exact ha'
  next => cases h

namespace ErrorReport

variable {o s : Members} {r : ErrorReport} {v v' : Json}

/-! ### Fields -/

/-- What fits a possible description is read alike by both readers. -/
lemma description_of_fit (h : (Shape.optional .text).fit v = .ok v') :
    v'.optional? Json.str? = some v.str? := by
  cases v <;> cases h <;> rfl

/-- What fits a possible code is read alike by both readers. -/
lemma code_of_fit (h : (Shape.optional .signed64).fit v = .ok v') :
    v'.optional? Json.int? = some (v.num?.bind codeOf) := by
  cases v with
  | null =>
    cases h
    rfl
  | num n =>
    cases n with
    | int i =>
      have hfit : (if minCode ≤ i ∧ i ≤ maxCode then .ok (.num (.int i))
          else .error (.wrongValue (.num (.int i)) "i64")) = Except.ok (ε := Json.Mismatch) v' := h
      split at hfit
      next hmem =>
        cases hfit
        have hcode : codeOf (.int i) = some i := codeOf_of_value rfl hmem
        exact congrArg some hcode.symm
      next => cases hfit
    | real x => cases h
  | _ => cases h

/-- The value of a possible field, which is null where there is no member for it. -/
lemma read_of_rel {α : Type} {shape : Shape} {strict : Json → Option α} {lenient : Json → Option α}
    {given fitted : Option Json}
    (h : Option.Rel (fun v v' => (Shape.optional shape).fit v = .ok v') given fitted)
    (hfit : ∀ v v', (Shape.optional shape).fit v = .ok v' → v'.optional? strict = some (lenient v)) :
    (fitted.getD .null).optional? strict = some (given.bind lenient) := by
  cases h with
  | none => rfl
  | some hv => exact hfit _ _ hv

/-! ### Both readers -/

/-- **Whatever the strict reader accepts** the lenient reader reads in the same way. -/
theorem ofResponse_of_ofMapping (ho : o.get? key = some (.obj s))
    (h : Entity.ofMapping s = .ok r) : ofResponse o = r := by
  obtain ⟨fitted, declared, hfitted, hdeclared, hr⟩ := Entity.exists_fitted rfl h
  have hfield := Shape.get?_of_fitMembers (k := "description")
    (f := ⟨"description", .null, (Shape.optional .text).fit⟩) rfl hfitted
  have hfield' := Shape.get?_of_fitMembers (k := "code")
    (f := ⟨"code", .null, (Shape.optional .signed64).fit⟩) rfl hfitted
  have hdescription := read_of_rel hfield fun _ _ => description_of_fit
  have hcode := read_of_rel hfield' fun _ _ => code_of_fit
  have hcomplete := hdeclared.symm.trans
    (Shape.complete_of_defaults [("description", .null), ("code", .null)] fitted rfl)
  cases hcomplete
  have hread : (((fitted.get? "description").getD .null).optional? Json.str?).bind (fun d =>
      (((fitted.get? "code").getD .null).optional? Json.int?).bind fun c =>
        some (⟨d, c⟩ : ErrorReport)) = some r := hr
  rw [hdescription, hcode] at hread
  cases hread
  unfold ofResponse
  rw [ho]
  show ErrorReport.mk _ (((s.get? "code").bind Json.num?).bind codeOf) = _
  rw [Option.bind_assoc]

/-! ### Reports written and read -/

/-- An error report whose code has 64 bits can be read from what is written. -/
lemma written (hcode : ∀ c ∈ r.code, minCode ≤ c ∧ c ≤ maxCode) :
    Entity.Written r [("description", .optStr r.description),
      ("code", r.code.elim .null Json.int)] := by
  have hfit : (Shape.optional .signed64).fit (r.code.elim .null Json.int) =
      .ok (r.code.elim .null Json.int) := by
    cases hc : r.code with
    | none => rfl
    | some c => exact if_pos (hcode c hc)
  have hplain : Json.Plain 126 (r.code.elim .null Json.int) := by
    cases hc : r.code with
    | none => exact Json.plain_null
    | some c =>
      obtain ⟨hlow, hhigh⟩ := hcode c hc
      unfold minCode maxCode at *
      exact ⟨.num ⟨hlow, by omega⟩, nofun⟩
  refine ⟨rfl, show ["description", "code"].Nodup by decide, ?_,
    ⟨_, _, rfl, .cons ⟨rfl, ?_⟩ (.cons ⟨rfl, hfit⟩ .nil)⟩, ?_⟩
  · simp only [List.forall_mem_cons]
    refine ⟨?_, hplain, nofun⟩
    cases r.description with
    | none => exact Json.plain_null
    | some d => exact Json.plain_str d
  · cases r.description <;> rfl
  · obtain ⟨description, code⟩ := r
    cases description <;> cases code <;> rfl

/-- An application error has the description and the code of the report that makes it. -/
lemma eq_of_toApplicationError {e : ApplicationError} (h : r.toApplicationError = .ok e) :
    r = ⟨some e.description, some e.code⟩ := by
  obtain ⟨hdescription, -, hcode⟩ := toApplicationError_eq_ok_iff.mp h
  obtain ⟨description, code⟩ := r
  cases hdescription
  cases hcode
  rfl

/-- A report makes an application error if and only if it is valid. -/
lemma exists_toApplicationError_iff :
    (∃ e, r.toApplicationError = .ok e) ↔ r.validate = .ok () := by
  constructor
  · rintro ⟨e, he⟩
    exact (check_bind_eq_ok_iff.mp he).1
  · intro hvalid
    obtain ⟨d, c, rfl, hd⟩ := validate_eq_ok_iff.mp hvalid
    exact ⟨⟨d, c⟩, toApplicationError_eq_ok_iff.mpr ⟨rfl, hd, rfl⟩⟩

/-- **The two readers agree.** Whatever the strict reader makes of an error object, the lenient reader
makes of every response with this error object.  Every report with a code of 64 bits is written as an
object from which both read it; it makes an application error if and only if it is valid, and then
one of its description and code. -/
theorem readers_agree :
    (∀ (o s : Members) (r : ErrorReport), o.get? key = some (.obj s) →
      Entity.ofMapping s = .ok r → ofResponse o = r) ∧
    ∀ r : ErrorReport, (∀ c ∈ r.code, minCode ≤ c ∧ c ≤ maxCode) →
      ∃ s, Entity.toMapping r = .ok s ∧ Entity.ofMapping s = .ok r ∧
        ofResponse [(key, .obj s)] = r ∧
        ApplicationError.ofResponse [(key, .obj s)] = r.toApplicationError ∧
        ((∃ e, r.toApplicationError = .ok e) ↔ Entity.validate r = .ok ()) ∧
        ∀ e, r.toApplicationError = .ok e → r = ⟨some e.description, some e.code⟩ := by
  refine ⟨fun o s r => ofResponse_of_ofMapping, fun r hcode => ?_⟩
  have hwritten := written hcode
  have hlenient := ofResponse_of_ofMapping (o := [(key, .obj _)]) rfl hwritten.ofMapping_eq
  exact ⟨_, hwritten.toMapping_eq, hwritten.ofMapping_eq, hlenient,
    congrArg toApplicationError hlenient, exists_toApplicationError_iff,
    fun _ => eq_of_toApplicationError⟩

/-- Both read an error object that has other members too, and the report of the least code. -/
theorem readers_agree_of_least :
    ofResponse [("data", .null), (key, .obj [("code", .int 410), ("more", .bool true)])] =
        ⟨none, some 410⟩ ∧
      ∃ s, Entity.toMapping (⟨some "gone", some minCode⟩ : ErrorReport) = .ok s ∧
        ofResponse [(key, .obj s)] = ⟨some "gone", some minCode⟩ := by
  have hstrict : Entity.ofMapping [("code", .int 410), ("more", .bool true)] =
      .ok (⟨none, some 410⟩ : ErrorReport) := rfl
  obtain ⟨s, hs, -, hread, -⟩ := readers_agree.2 ⟨some "gone", some minCode⟩ fun c hc => by
    cases hc
    exact ⟨le_refl _, by decide⟩
  exact ⟨readers_agree.1 _ _ _ rfl hstrict, s, hs, hread⟩

end ErrorReport

end Courier
