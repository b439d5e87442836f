import Courier.Queue.State
import Mathlib.Data.Finset.Card
import Mathlib.Data.Finset.Range
import Mathlib.Data.List.Nodup
import Mathlib.Tactic.Lemma

/-!
Permits: a limiter keeps account of what workers have in hand.  The free permits and those in the
hands of workers make up the capacity, and the line holds exactly the workers that wait for one.
Each operation of a limiter keeps the account when the hand of its worker changes accordingly.
-/

namespace Courier

/-- What a worker has in hand: a permit, a call whose answer it waits for, or a place in line. -/
structure Hand where
  permit : Bool := false
  call : Option Nat := none
  inLine : Bool := false
  deriving DecidableEq

/-- What a worker has in hand where it waits. -/
def Stage.hand : Stage → Hand
  | fresh | ended => {}
  | inLine => { inLine := true }
  | granted => { permit := true }
  | sending c => { permit := true, call := some c }

lemma Stage.inLine_hand {s : Stage} : s.hand.inLine = true ↔ s = .inLine := by
  cases s <;> simp [hand]

lemma Stage.call_hand {s : Stage} {c : Nat} : s.hand.call = some c ↔ s = .sending c := by
  cases s <;> simp [hand]

/-- The workers below `n` that have a permit in hand. -/
def holders (n : Nat) (hand : Nat → Hand) : Finset Nat :=
  (Finset.range n).filter fun j => (hand j).permit

variable {n i : Nat} {hand : Nat → Hand} {h : Hand} {l : Limiter}

lemma mem_holders {j : Nat} : j ∈ holders n hand ↔ j < n ∧ (hand j).permit = true := by
  unfold holders
  rw [Finset.mem_filter, Finset.mem_range]

lemma holders_update_of_permit (hi : i < n) (hp : h.permit = true) :
    holders n (Function.update hand i h) = insert i (holders n hand) := by
  ext j
  rw [mem_holders, Finset.mem_insert, mem_holders]
  by_cases hj : j = i
  · subst hj
    rw [Function.update_self]
    exact ⟨fun _ => .inl rfl, fun _ => ⟨hi, hp⟩⟩
  · rw [Function.update_of_ne hj]
    exact ⟨.inr, fun h => h.resolve_left hj⟩

lemma holders_update_of_no_permit (hp : h.permit = false) :
    holders n (Function.update hand i h) = (holders n hand).erase i := by
  ext j
  rw [mem_holders, Finset.mem_erase, mem_holders]
  by_cases hj : j = i
  · subst hj
    rw [Function.update_self, hp]
    simp
  · rw [Function.update_of_ne hj]
    exact ⟨fun h => ⟨hj, h⟩, fun h => h.2⟩

lemma holders_update_of_same (hp : h.permit = (hand i).permit) :
    holders n (Function.update hand i h) = holders n hand := by
  ext j
  rw [mem_holders, mem_holders]
  by_cases hj : j = i
  · subst hj
    rw [Function.update_self, hp]
  · rw [Function.update_of_ne hj]

/-- **The account of a limiter** over the hands of `n` workers. -/
structure Limiter.Keeps (l : Limiter) (n : Nat) (hand : Nat → Hand) : Prop where
  balance : l.free + (holders n hand).card = l.capacity
  nodup : l.line.Nodup
  line : ∀ j, j ∈ l.line ↔ (hand j).inLine = true
  /-- Only workers that there are wait. -/
  bound : ∀ j, (hand j).inLine = true → j < n
  /-- Who waits has no permit. -/
  apart : ∀ j, (hand j).inLine = true → (hand j).permit = false

namespace Limiter.Keeps

/-- The account is kept if one hand changes, the permits stay balanced, and the line changes for
the worker of that hand alone. -/
theorem update {l' : Limiter} (k : l.Keeps n hand)
    (hbalance : l'.free + (holders n (Function.update hand i h)).card = l'.capacity)
    (hnodup : l'.line.Nodup) (hothers : ∀ j, j ≠ i → (j ∈ l'.line ↔ j ∈ l.line))
    (hself : i ∈ l'.line ↔ h.inLine = true) (hwaits : h.inLine = true → i < n ∧ h.permit = false) :
    l'.Keeps n (Function.update hand i h) := by
  refine ⟨hbalance, hnodup, fun j => ?_, fun j => ?_, fun j => ?_⟩
  · rcases eq_or_ne j i with rfl | hj
    · rw [Function.update_self]
      exact hself
    · rw [Function.update_of_ne hj, hothers j hj]
      exact k.line j
  · rcases eq_or_ne j i with rfl | hj
    · rw [Function.update_self]
      exact fun hl => (hwaits hl).1
    · rw [Function.update_of_ne hj]
      exact k.bound j
  · rcases eq_or_ne j i with rfl | hj
    · rw [Function.update_self]
      exact fun hl => (hwaits hl).2
    · rw [Function.update_of_ne hj]
      exact k.apart j

/-- The account is about permits and places in line alone. -/
theorem congr {h' : Hand} (k : l.Keeps n (Function.update hand i h)) (hp : h'.permit = h.permit)
    (hl : h'.inLine = h.inLine) : l.Keeps n (Function.update hand i h') := by
  have hself : Function.update hand i h i = h := Function.update_self ..
  have hu : Function.update (Function.update hand i h) i h' = Function.update hand i h' :=
    Function.update_idem ..
  rw [← hu]
  refine k.update ?_ k.nodup (fun _ _ => .rfl) ?_ fun hw => ?_
  · rw [holders_update_of_same (by rw [hself, hp])]
    exact k.balance
  · rw [k.line, hself, hl]
  · have hi : (Function.update hand i h i).inLine = true := by rw [hself, ← hl, hw]
    exact ⟨k.bound i hi, by rw [hp, ← hself, k.apart i hi]⟩

lemma notMem_line (k : l.Keeps n hand) (hl : (hand i).inLine = false) : i ∉ l.line := by
  rw [k.line, hl]
  decide

theorem take {l' : Limiter} (k : l.Keeps n hand) (ht : l.take? = some l') (hi : i < n)
    (hp : (hand i).permit = false) (hl : (hand i).inLine = false) (hh : h.permit = true)
    (hhl : h.inLine = false) : l'.Keeps n (Function.update hand i h) := by
  unfold take? at ht
  split at ht
  · cases ht
  rename_i m hm
  cases ht
  have hni : i ∉ holders n hand := fun hmem => by
    rw [mem_holders, hp] at hmem
    exact absurd hmem.2 (by decide)
  refine k.update ?_ k.nodup (fun _ _ => .rfl) ?_ fun hw => absurd (hhl.symm.trans hw) (by decide)
  · have hb := k.balance
    rw [holders_update_of_permit hi hh, Finset.card_insert_of_notMem hni]
    show m + _ = l.capacity
    omega
  · rw [hhl]
    exact iff_of_false (k.notMem_line hl) (by decide)

theorem join (k : l.Keeps n hand) (hi : i < n) (hp : (hand i).permit = false)
    (hl : (hand i).inLine = false) (hh : h.permit = false) (hhl : h.inLine = true) :
    (l.join i).Keeps n (Function.update hand i h) := by
  refine k.update ?_ ?_ (fun j hj => ?_) ?_ fun _ => ⟨hi, hh⟩
  · rw [holders_update_of_same (hh.trans hp.symm)]
    exact k.balance
  · refine List.nodup_append.mpr ⟨k.nodup, List.nodup_singleton i, fun a ha b hb hab => ?_⟩
    rw [hab, List.mem_singleton.mp hb] at ha
    exact k.notMem_line hl ha
  · show j ∈ l.line ++ [i] ↔ _
    rw [List.mem_append, List.mem_singleton]
    exact or_iff_left hj
  · rw [hhl]
    exact iff_of_true (List.mem_append_right _ (List.mem_singleton_self i)) rfl

theorem leave (k : l.Keeps n hand) (hh : h.permit = (hand i).permit) (hhl : h.inLine = false) :
    (l.leave i).Keeps n (Function.update hand i h) := by
  refine k.update ?_ (k.nodup.erase i) (fun j hj => ?_) ?_ fun hw =>
    absurd (hhl.symm.trans hw) (by decide)
  · rw [holders_update_of_same hh]
    exact k.balance
  · show j ∈ l.line.erase i ↔ _
    rw [k.nodup.mem_erase_iff]
    exact and_iff_right hj
  · show i ∈ l.line.erase i ↔ _
    rw [k.nodup.mem_erase_iff, hhl]
    exact iff_of_false (fun hm => hm.1 rfl) (by decide)

theorem giveBack (k : l.Keeps n hand) (hi : i < n) (hp : (hand i).permit = true)
    (hh : h.permit = false) (hhl : h.inLine = false) :
    { l with free := l.free + 1 }.Keeps n (Function.update hand i h) := by
  have hmem : i ∈ holders n hand := mem_holders.mpr ⟨hi, hp⟩
  have hl : (hand i).inLine = false := by
    rw [← Bool.not_eq_true]
    exact fun hw => absurd ((k.apart i hw).symm.trans hp) (by decide)
  refine k.update ?_ k.nodup (fun _ _ => .rfl) ?_ fun hw => absurd (hhl.symm.trans hw) (by decide)
  · have hb := k.balance
    have hpos := Finset.card_pos.mpr ⟨i, hmem⟩
    rw [holders_update_of_no_permit hh, Finset.card_erase_of_mem hmem]
    show l.free + 1 + _ = l.capacity
    omega
  · rw [hhl]
    exact iff_of_false (k.notMem_line hl) (by decide)

theorem handOver {m : Nat} {rest : List Nat} (k : l.Keeps n hand) (hm : l.free = m + 1)
    (he : l.line = i :: rest) (hh : h.permit = true) (hhl : h.inLine = false) :
    { l with free := m, line := rest }.Keeps n (Function.update hand i h) := by
  have hl : (hand i).inLine = true := (k.line i).mp (by rw [he]; exact List.mem_cons_self ..)
  have hni : i ∉ holders n hand := fun hmem => by
    rw [mem_holders, k.apart i hl] at hmem
    exact absurd hmem.2 (by decide)
  have hnd := List.nodup_cons.mp (he ▸ k.nodup)
  refine k.update ?_ hnd.2 (fun j hj => ?_) ?_ fun hw => absurd (hhl.symm.trans hw) (by decide)
  · have hb := k.balance
    rw [holders_update_of_permit (k.bound i hl) hh, Finset.card_insert_of_notMem hni]
    show m + _ = l.capacity
    omega
  · rw [he, List.mem_cons]
    exact (or_iff_right hj).symm
  · rw [hhl]
    exact iff_of_false hnd.1 (by decide)

/-- The worker `i` gives its permit back and the first in line gets it. -/
theorem release_of_cons {j : Nat} {rest : List Nat} {g : Hand} (k : l.Keeps n hand) (hi : i < n)
    (hp : (hand i).permit = true) (hh : h.permit = false) (hhl : h.inLine = false)
    (he : l.line = j :: rest) (hg : g.permit = true) (hgl : g.inLine = false) :
    { l with line := rest }.Keeps n (Function.update (Function.update hand i h) j g) :=
  (k.giveBack hi hp hh hhl).handOver rfl he hg hgl

end Limiter.Keeps

end Courier
