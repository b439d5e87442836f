import Courier.Proofs.Json.Canonical
import Courier.Proofs.Review.Classes

/-!
The codes of reported errors.  A number without a fraction gives a code, and this code is the number
itself as long as that has 64 bits; a number beyond gives the bound that it lies beyond.
-/

namespace Courier

open Json (Members Numeral Canonical)

variable {n : Numeral} {z c : Int} {ms : Members} {depth : Nat}

/-! ### Members -/

namespace Json

/-- The numbers in an error object of the form in which objects are read have 64 bits. -/
lemma Canonical.sized_of_get? (h : Canonical depth (.obj ms)) {error : Members} {key field : String}
    (herror : ms.get? key = some (.obj error)) (hn : error.get? field = some (.num n)) :
    n.Sized := by
  cases h with
  | obj ordered members =>
    cases members _ (mem_of_get? herror) with
    | obj ordered' members' =>
      cases members' _ (mem_of_get? hn) with
      | num sized => exact sized

end Json

/-! ### Codes -/

namespace ErrorReport

lemma clamp64_of_gt (h : maxCode < z) : clamp64 z = maxCode := by
  unfold clamp64
  rw [min_eq_right h.le]
  rfl

lemma clamp64_of_lt (h : z < minCode) : clamp64 z = minCode := by
  unfold clamp64
  exact max_eq_left ((min_le_left _ _).trans h.le)

/-- **The code of a number** without a fraction is the integer of 64 bits that is nearest to it. -/
theorem codeOf_eq_clamp64 (hn : n.Sized) (h : n.value = z) : codeOf n = some (clamp64 z) := by
  cases n with
  | int i =>
    obtain rfl : i = z := Int.cast_injective (α := ℚ) h
    unfold codeOf
    dsimp only
    split
    next hmem => rw [clamp64_of_mem hmem]
    next hout =>
      -- what has 64 bits and is no code lies above all codes, and rounding does not change that
      obtain ⟨hlow, hhigh⟩ := hn
      have hmax : maxCode < i := by
        unfold minCode maxCode at *
        omega
      obtain ⟨y, hy, hle⟩ := Number.Binary64.toInt?_ofInt_of_long (by unfold maxCode at hmax; omega)
        hhigh
      rw [hy, clamp64_of_gt hmax]
      exact congrArg some (clamp64_of_gt (by unfold maxCode; omega))
  | real x =>
    show x.toInt?.map clamp64 = _
    rw [Number.Binary64.toInt?_eq_some_iff.mpr h]
    rfl

/-- What a code says of the integer that is meant: it is that integer, or the bound that it lies
beyond. -/
structure Stands (z code : Int) : Prop where
  verbatim : minCode ≤ z → z ≤ maxCode → code = z
  above : maxCode < z → code = maxCode
  below : z < minCode → code = minCode

lemma stands_iff : Stands z c ↔ c = clamp64 z := by
  constructor
  · intro h
    by_cases hlow : z < minCode
    · rw [clamp64_of_lt hlow, h.below hlow]
    by_cases hhigh : maxCode < z
    · rw [clamp64_of_gt hhigh, h.above hhigh]
    have hmem : minCode ≤ z ∧ z ≤ maxCode := ⟨not_lt.mp hlow, not_lt.mp hhigh⟩
    rw [clamp64_of_mem hmem, h.verbatim hmem.1 hmem.2]
  · rintro rfl
    exact ⟨fun hlow hhigh => clamp64_of_mem ⟨hlow, hhigh⟩, clamp64_of_gt, clamp64_of_lt⟩

/-- A number gives a code that stands for it if it has no fraction, and no other code. -/
lemma codeOf_eq_some_iff (hn : n.Sized) :
    codeOf n = some c ↔ ∃ z : Int, n.value = z ∧ Stands z c := by
  constructor
  · intro h
    obtain ⟨z, hz⟩ := codeOf_isSome_iff.mp (Option.isSome_of_eq_some h)
    refine ⟨z, hz, stands_iff.mpr ?_⟩
    exact Option.some.inj (h.symm.trans (codeOf_eq_clamp64 hn hz))
  · rintro ⟨z, hz, hc⟩
    rw [codeOf_eq_clamp64 hn hz, stands_iff.mp hc]

lemma Stands.eq_iff (h : Stands z c) : z = c ↔ minCode ≤ z ∧ z ≤ maxCode := by
  constructor
  · rintro rfl
    by_contra hout
    rcases lt_or_ge z minCode with hlow | hlow
    · exact absurd (h.below hlow) hlow.ne
    · have hhigh : maxCode < z := not_le.mp fun hle => hout ⟨hlow, hle⟩
      exact absurd (h.above hhigh) hhigh.ne'
  · rintro ⟨hlow, hhigh⟩
    exact (h.verbatim hlow hhigh).symm

/-! ### Reported codes -/

/-- The number that stands in an object as the code of its error object. -/
def HasCode (ms : Members) (n : Numeral) : Prop :=
  ∃ error : Members, ms.get? key = some (.obj error) ∧ error.get? "code" = some (.num n)

/-- **The code of an error that is reported.** An object gives an application error if and only if its
error object has a description that is not empty and, as its code, a number without a fraction; the
error has this description, and a code that stands for this number.  So the code is the number exactly
if the number has 64 bits. -/
theorem code_carried (hms : Canonical depth (.obj ms)) (e : ApplicationError) :
    (ApplicationError.ofResponse ms = .ok e ↔
      ∃ (error : Members) (n : Numeral) (z : Int), ms.get? key = some (.obj error) ∧
        error.get? "description" = some (.str e.description) ∧ e.description ≠ "" ∧
        error.get? "code" = some (.num n) ∧ n.value = z ∧ Stands z e.code) ∧
      (ApplicationError.ofResponse ms = .ok e → ∃ n, HasCode ms n ∧
        (n.value = e.code ↔ minCode ≤ n.value ∧ n.value ≤ maxCode)) := by
  have hiff : ApplicationError.ofResponse ms = .ok e ↔
      ∃ (error : Members) (n : Numeral) (z : Int), ms.get? key = some (.obj error) ∧
        error.get? "description" = some (.str e.description) ∧ e.description ≠ "" ∧
        error.get? "code" = some (.num n) ∧ n.value = z ∧ Stands z e.code := by
    rw [ofResponse_eq_ok_iff]
    constructor
    · rintro ⟨error, n, hget, hdescription, hne, hcode, hn⟩
      obtain ⟨z, hz, hstands⟩ := (codeOf_eq_some_iff (hms.sized_of_get? hget hcode)).mp hn
      exact ⟨error, n, z, hget, hdescription, hne, hcode, hz, hstands⟩
    · rintro ⟨error, n, z, hget, hdescription, hne, hcode, hz, hstands⟩
      exact ⟨error, n, hget, hdescription, hne, hcode,
        (codeOf_eq_some_iff (hms.sized_of_get? hget hcode)).mpr ⟨z, hz, hstands⟩⟩
  refine ⟨hiff, fun he => ?_⟩
  obtain ⟨error, n, z, hget, -, -, hcode, hz, hstands⟩ := hiff.mp he
  refine ⟨n, ⟨error, hget, hcode⟩, ?_⟩
  rw [hz]
  exact_mod_cast hstands.eq_iff

/-- An error object whose code has 64 bits only without a sign. -/
def tooLarge : Members :=
  [(key, .obj [("code", .int 9223372036854775808), ("description", .str "x")])]

lemma canonical_tooLarge : Canonical 2 (.obj tooLarge) := by
  refine .obj (List.pairwise_singleton _ _) (List.forall_mem_singleton.mpr ?_)
  refine .obj (List.pairwise_pair.mpr (by decide)) ?_
  simp only [List.forall_mem_cons]
  exact ⟨.num ⟨by decide, by decide⟩, .str _, nofun⟩

theorem code_carried_of_tooLarge : Canonical 2 (.obj tooLarge) ∧
    ApplicationError.ofResponse tooLarge = .ok ⟨"x", 9223372036854775807⟩ := by
  have hstands : Stands 9223372036854775808 9223372036854775807 := stands_iff.mpr rfl
  exact ⟨canonical_tooLarge, (code_carried canonical_tooLarge _).1.mpr
    ⟨_, _, _, rfl, rfl, by decide, rfl, rfl, hstands⟩⟩

/-- A code is not always the number that was reported. -/
theorem code_not_carried : ¬∀ (depth : Nat) (ms : Members) (e : ApplicationError),
    Canonical depth (.obj ms) → ApplicationError.ofResponse ms = .ok e →
      ∃ n, HasCode ms n ∧ n.value = e.code := by
  intro h
  have he : ApplicationError.ofResponse tooLarge = .ok ⟨"x", 9223372036854775807⟩ := by
    rfl
  obtain ⟨n, ⟨error, herror, hn⟩, hvalue⟩ := h 2 tooLarge _ canonical_tooLarge he
  cases herror
  cases hn
  have hcode : (9223372036854775808 : Int) = 9223372036854775807 := Int.cast_injective (α := ℚ) hvalue
  exact absurd hcode (by decide)

end ErrorReport

end Courier
