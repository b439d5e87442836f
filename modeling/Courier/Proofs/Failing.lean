import Mathlib.Data.List.Forall2
import Mathlib.Tactic.Lemma

/-!
Steps that can fail, one after the other: what the whole gives is what the last step gives after all
the others have succeeded.
-/

namespace Courier

variable {ε α β σ : Type}

lemma bind_eq_ok_iff {x : Except ε α} {f : α → Except ε β} {b : β} :
    x >>= f = .ok b ↔ ∃ a, x = .ok a ∧ f a = .ok b := by
  cases x <;> simp [bind, Except.bind]

lemma check_bind_eq_ok_iff {x : Except ε Unit} {f : Unit → Except ε β} {b : β} :
    x >>= f = .ok b ↔ x = .ok () ∧ f () = .ok b := by
  cases x <;> simp [bind, Except.bind]

lemma guard_eq_ok_iff {p : Prop} [Decidable p] {c : ε} {f : α → Except ε β} {x : Except ε β}
    {b : β} : (if p then throw c >>= f else x) = .ok b ↔ ¬p ∧ x = .ok b := by
  split
  next hp => exact iff_of_false nofun (fun h => h.1 hp)
  next hp => simp [hp]

lemma mapError_eq_ok_iff {δ : Type} {x : Except ε α} {g : ε → δ} {a : α} :
    x.mapError g = .ok a ↔ x = .ok a := by
  cases x with
  | error e => exact iff_of_false nofun nofun
  | ok a' => exact ⟨fun h => by cases h; rfl, fun h => by cases h; rfl⟩

/-! ### A step for each of a list -/

/-- Steps of which each takes in a thing that its item stands for, as `R` tells: together they take
in one for each item, in order. -/
lemma foldlM_eq_ok_iff {f : σ → α → Except ε σ} {g : σ → β → σ} {R : α → β → Prop}
    (hf : ∀ s a t, f s a = .ok t ↔ ∃ b, R a b ∧ t = g s b) {as : List α} {s t : σ} :
    as.foldlM f s = .ok t ↔ ∃ bs, List.Forall₂ R as bs ∧ t = bs.foldl g s := by
  induction as generalizing s with
  | nil =>
    constructor
    · intro h
      exact ⟨[], .nil, (Except.ok.inj h).symm⟩
    · rintro ⟨bs, hbs, rfl⟩
      cases hbs
      rfl
  | cons a as ih =>
    rw [List.foldlM_cons, bind_eq_ok_iff]
    constructor
    · rintro ⟨s', ha, has⟩
      obtain ⟨b, hb, rfl⟩ := (hf s a s').mp ha
      obtain ⟨bs, hbs, rfl⟩ := ih.mp has
      exact ⟨b :: bs, .cons hb hbs, rfl⟩
    · rintro ⟨bs, hbs, rfl⟩
      cases hbs with
      | cons hb hbs => exact ⟨_, (hf s a _).mpr ⟨_, hb, rfl⟩, ih.mpr ⟨_, hbs, rfl⟩⟩

lemma exists_forall₂_iff {R : α → β → Prop} {as : List α} :
    (∃ bs, List.Forall₂ R as bs) ↔ ∀ a ∈ as, ∃ b, R a b := by
  induction as with
  | nil => exact iff_of_true ⟨[], .nil⟩ nofun
  | cons a as ih =>
    rw [List.forall_mem_cons, ← ih]
    constructor
    · rintro ⟨bs, hbs⟩
      cases hbs with
      | cons hb hbs => exact ⟨⟨_, hb⟩, _, hbs⟩
    · rintro ⟨⟨b, hb⟩, bs, hbs⟩
      exact ⟨b :: bs, .cons hb hbs⟩

end Courier
