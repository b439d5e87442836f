import Courier.Proofs.Failing
import Courier.Proofs.Json.Canonical
import Courier.Proofs.Json.Records
import Mathlib.Data.Option.Basic

/-!
Values that fit a shape as they are.  An object with a member for each field of a record, in
whatever order it was written, fits the record with its members in the order of the fields.
-/

namespace Courier.Json.Shape

variable {shape : Shape} {v : Json}

/-- A list of what was made of things, one by one, goes back to these things. -/
lemma mapM_map_eq_pure {m : Type → Type} [Monad m] [LawfulMonad m] {α β : Type} {read : β → m α}
    {write : α → β} {as : List α} (h : ∀ a ∈ as, read (write a) = pure a) :
    (as.map write).mapM read = pure as := by
  induction as with
  | nil => simp
  | cons a as ih =>
    rw [List.map_cons, List.mapM_cons, h a List.mem_cons_self,
      ih fun a' ha' => h a' (List.mem_cons_of_mem _ ha')]
    simp

/-! ### Parts -/

lemma fit_unsigned64 (n : UInt64) : unsigned64.fit (.nat n.toNat) = .ok (.nat n.toNat) := by
  have hn : n.toNat < 18446744073709551616 := n.toNat_lt
  exact if_pos ⟨by omega, by omega⟩

lemma fit_optional (h : shape.fit v = .ok v) : (optional shape).fit v = .ok v := by
  cases v with
  | null => rfl
  | _ => exact h

lemma fit_list {vs : List Json} (h : ∀ v ∈ vs, shape.fit v = .ok v) :
    (list shape).fit (.arr vs) = .ok (.arr vs) := by
  have hvs : (vs.map id).mapM shape.fit = pure vs := mapM_map_eq_pure h
  rw [List.map_id] at hvs
  show (vs.mapM shape.fit).map Json.arr = _
  rw [hvs]
  rfl

lemma fit_dictionary {ms : Members} (h : ∀ m ∈ ms, shape.fit m.2 = .ok m.2) :
    (dictionary shape).fit (.obj ms) = .ok (.obj ms) := by
  have hms : (ms.map id).mapM (fun m => (shape.fit m.2).map fun v => (m.1, v)) = pure ms :=
    mapM_map_eq_pure fun m hm => by rw [id, h m hm]; rfl
  rw [List.map_id] at hms
  show (ms.mapM fun m => (shape.fit m.2).map fun v => (m.1, v)).map Json.obj = _
  rw [hms]
  rfl

/-! ### Records -/

variable {type : String} {fields : List FieldFit} {declared ms : Members}

/-- No member is left out or changed. -/
lemma fitMembers_eq_ok (h : ∀ m ∈ ms, ∃ f, fields.find? (·.name == m.1) = some f ∧
    f.fit m.2 = .ok m.2) : fitMembers fields ms = .ok ms := by
  induction ms with
  | nil => rfl
  | cons m ms ih =>
    obtain ⟨f, hfind, hfit⟩ := h m List.mem_cons_self
    unfold fitMembers
    rw [hfind]
    dsimp only
    rw [hfit, ih fun m' hm' => h m' (List.mem_cons_of_mem _ hm')]
    rfl

/-- **An object with a member for each field** fits the record. -/
theorem fitRecord_object
    (h : List.Forall₂ (fun f (m : String × Json) => f.name = m.1 ∧ f.fit m.2 = .ok m.2)
      fields declared)
    (hnodup : (declared.map Prod.fst).Nodup) :
    fitRecord type fields (object declared) = .ok (.obj declared) := by
  have hfields := fieldOf_mem h hnodup
  have hms : fitMembers fields (Members.ofList declared) = .ok (Members.ofList declared) :=
    fitMembers_eq_ok fun m hm => hfields m (mem_of_mem_ofList hm)
  have hnames : declared.map Prod.fst = (fields.map fun f => (f.name, f.absence)).map Prod.fst := by
    rw [List.map_map]
    exact names_of_fields h
  have hall := complete_of_subset (nodup_of_ordered (ordered_ofList declared))
    (subset_ofList hnodup) hnames
  show (fitMembers fields (Members.ofList declared)).bind _ = _
  rw [hms]
  show (complete (fields.map fun f => (f.name, f.absence)) (Members.ofList declared)).bind _ = _
  rw [hall]
  rfl

/-! ### What fitted a record -/

/-- The member for a field is fitted, and there is no such member where there was none. -/
lemma get?_of_fitMembers {k : String} {f : FieldFit} (hf : fields.find? (·.name == k) = some f)
    {fitted : Members} (h : fitMembers fields ms = .ok fitted) :
    Option.Rel (fun v v' => f.fit v = .ok v') (ms.get? k) (fitted.get? k) := by
  unfold Members.get?
  induction ms generalizing fitted with
  | nil =>
    cases h
    exact .none
  | cons m ms ih =>
    obtain ⟨k', v⟩ := m
    unfold fitMembers at h
    cases hf' : fields.find? (·.name == k') with
    | none =>
      rw [hf'] at h
      have hk : k' ≠ k := fun hk => by
        rw [hk, hf] at hf'
        cases hf'
      rw [List.find?_cons_of_neg (by simpa using hk)]
      exact ih h
    | some f' =>
      rw [hf'] at h
      obtain ⟨v', hv, h⟩ := bind_eq_ok_iff.mp h
      obtain ⟨rest, hrest, h⟩ := bind_eq_ok_iff.mp h
      cases h
      by_cases hk : k' = k
      · -- this is the member that is looked for
        subst hk
        cases hf.symm.trans hf'
        rw [List.find?_cons_of_pos (by simp), List.find?_cons_of_pos (by simp)]
        exact .some hv
      · rw [List.find?_cons_of_neg (by simpa using hk), List.find?_cons_of_neg (by simpa using hk)]
        exact ih hrest

/-- What stands for a field is taken where there is no member. -/
lemma complete_of_defaults {fields : List (String × Absence)} (defaults ms : Members)
    (h : fields.map (fun f => (f.1, f.2.member?)) = defaults.map fun m => (m.1, some m.2)) :
    complete fields ms = .ok (defaults.map fun m => (m.1, (ms.get? m.1).getD m.2)) := by
  induction fields generalizing defaults with
  | nil =>
    rw [List.map_eq_nil_iff.mp h.symm]
    rfl
  | cons f fields ih =>
    obtain ⟨m, defaults, rfl, hm, hrest⟩ := List.map_eq_cons_iff.mp h.symm
    obtain ⟨name, absence⟩ := f
    obtain ⟨rfl, habsence⟩ := Prod.mk.inj hm
    have hcomplete := ih defaults hrest.symm
    unfold complete at hcomplete ⊢
    rw [List.mapM_cons, hcomplete, List.map_cons]
    dsimp only at habsence ⊢
    rw [← habsence]
    cases ms.get? m.1 <;> rfl

end Courier.Json.Shape
