/-!
Texts split at the first of a mark.  Splitting is the inverse of putting the parts together, as
long as the first part does not hold the mark itself.
-/

namespace Courier.Text

/-- The text before the first of a mark and the text after it, if there is one. -/
def splitOnce (mark : Char) : List Char → Option (List Char × List Char)
  | [] => none
  | c :: cs => if c = mark then some ([], cs) else (splitOnce mark cs).map fun p => (c :: p.1, p.2)

theorem splitOnce_append {mark : Char} {a : List Char} (h : mark ∉ a) (b : List Char) :
    splitOnce mark (a ++ mark :: b) = some (a, b) := by
  induction a with
  | nil => simp [splitOnce]
  | cons c a ih =>
    have hc : c ≠ mark := fun e => h (by simp [e])
    have ha : mark ∉ a := fun e => h (by simp [e])
    simp [splitOnce, hc, ih ha]

theorem splitOnce_eq_none_iff {mark : Char} {cs : List Char} :
    splitOnce mark cs = none ↔ mark ∉ cs := by
  induction cs with
  | nil => simp [splitOnce]
  | cons c cs ih =>
    by_cases hc : c = mark
    · simp [splitOnce, hc]
    · simp [splitOnce, hc, ih, Ne.symm hc]

theorem splitOnce_eq_some_iff {mark : Char} {cs a b : List Char} :
    splitOnce mark cs = some (a, b) ↔ cs = a ++ mark :: b ∧ mark ∉ a := by
  refine ⟨fun h => ?_, fun h => h.1 ▸ splitOnce_append h.2 b⟩
  induction cs generalizing a with
  | nil => simp [splitOnce] at h
  | cons c cs ih =>
    by_cases hc : c = mark
    · simp only [splitOnce, hc, if_true, Option.some.injEq, Prod.mk.injEq] at h
      obtain ⟨rfl, rfl⟩ := h
      simp [hc]
    · simp only [splitOnce, hc, if_false, Option.map_eq_some_iff, Prod.mk.injEq] at h
      obtain ⟨p, hp, rfl, rfl⟩ := h
      obtain ⟨rfl, hn⟩ := ih hp
      exact ⟨rfl, by simp [hn, Ne.symm hc]⟩

end Courier.Text
