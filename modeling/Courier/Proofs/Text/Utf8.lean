import Courier.Text.Utf8
import Mathlib.Tactic.Lemma

/-!
What is written as UTF-8 is read as it was.  A character is read back from its own bytes alone,
whatever follows them, and the bytes of a character beyond ASCII are none of those that stand for
themselves.  In bytes that are no text a byte of ASCII still stands for itself.
-/

namespace Courier.Text.Utf8

variable {c : Char} {cs : List Char} {n bits low high : Nat} {bs : Bytes}

lemma toNat_byte (hn : n < 256) : (byte n).toNat = n := UInt8.toNat_ofNat_of_lt' hn

/-! ### One byte more -/

lemma scan_single (hn : n < 0x80) :
    scan none (byte n :: bs) = some (Char.ofNat n) :: scan none bs := by
  have hlead : lead n = .single (Char.ofNat n) := by
    unfold lead
    rw [if_pos hn]
  rw [scan, start, toNat_byte (by omega), hlead]
  rfl

lemma scan_opens {p : Pending} (hn : n < 256) (hlead : lead n = .opens p) :
    scan none (byte n :: bs) = scan (some p) bs := by
  rw [scan, start, toNat_byte hn, hlead]
  rfl

/-- A byte within the range goes on with the sequence, and the next may be any that goes on. -/
lemma scan_next {need : Nat} (hn : n < 256) (hlow : low ≤ n) (hhigh : n ≤ high) :
    scan (some ⟨need + 2, low, high, bits⟩) (byte n :: bs) =
      scan (some ⟨need + 1, 0x80, 0xBF, bits * 64 + n % 64⟩) bs := by
  rw [scan, toNat_byte hn]
  simp [hlow, hhigh]

lemma scan_last (hn : n < 256) (hlow : low ≤ n) (hhigh : n ≤ high) :
    scan (some ⟨1, low, high, bits⟩) (byte n :: bs) =
      some (Char.ofNat (bits * 64 + n % 64)) :: scan none bs := by
  rw [scan, toNat_byte hn]
  simp [hlow, hhigh]

/-! ### The first byte of a character -/

lemma lead_two (h : 0x80 ≤ n) (h' : n < 0x800) :
    lead (0xC0 + n / 64) = .opens ⟨1, 0x80, 0xBF, n / 64⟩ := by
  unfold lead
  rw [if_neg (by omega), if_neg (by omega), if_pos (by omega), Nat.add_sub_cancel_left]

/-- The second byte of a character of three lies in the range that the first leaves open: overlong
forms and surrogates are no characters. -/
lemma lead_three (h : 0x800 ≤ n) (h' : n < 0x10000) (hs : n < 0xD800 ∨ 0xDFFF < n) :
    ∃ low high, lead (0xE0 + n / 4096) = .opens ⟨2, low, high, n / 4096⟩ ∧
      low ≤ 0x80 + n / 64 % 64 ∧ 0x80 + n / 64 % 64 ≤ high := by
  unfold lead
  rw [if_neg (by omega), if_neg (by omega), if_neg (by omega)]
  by_cases h0 : n / 4096 = 0
  · refine ⟨0xA0, 0xBF, ?_, by omega, by omega⟩
    rw [if_pos (by omega), h0]
  rw [if_neg (by omega)]
  by_cases hD : n / 4096 = 0xD
  · refine ⟨0x80, 0x9F, ?_, by omega, by omega⟩
    rw [if_pos (by omega), hD]
  refine ⟨0x80, 0xBF, ?_, by omega, by omega⟩
  rw [if_neg (by omega), if_pos (by omega), Nat.add_sub_cancel_left]

/-- The same for a character of four bytes: overlong forms and numbers above U+10FFFF are none. -/
lemma lead_four (h : 0x10000 ≤ n) (h' : n < 0x110000) :
    ∃ low high, lead (0xF0 + n / 262144) = .opens ⟨3, low, high, n / 262144⟩ ∧
      low ≤ 0x80 + n / 4096 % 64 ∧ 0x80 + n / 4096 % 64 ≤ high := by
  unfold lead
  rw [if_neg (by omega), if_neg (by omega), if_neg (by omega), if_neg (by omega),
    if_neg (by omega), if_neg (by omega)]
  by_cases h0 : n / 262144 = 0
  · refine ⟨0x90, 0xBF, ?_, by omega, by omega⟩
    rw [if_pos (by omega), h0]
  rw [if_neg (by omega)]
  by_cases h4 : n / 262144 = 4
  · refine ⟨0x80, 0x8F, ?_, by omega, by omega⟩
    rw [if_neg (by omega), if_pos (by omega), h4]
  refine ⟨0x80, 0xBF, ?_, by omega, by omega⟩
  rw [if_pos (by omega), Nat.add_sub_cancel_left]

/-! ### Characters -/

lemma toNat_cases (c : Char) : c.toNat < 0xD800 ∨ 0xDFFF < c.toNat ∧ c.toNat < 0x110000 := c.valid

/-- **A character** is read from its bytes. -/
theorem scan_encodeChar (c : Char) (bs : Bytes) :
    scan none (encodeChar c ++ bs) = some c :: scan none bs := by
  have hc := toNat_cases c
  have hback := Char.ofNat_toNat c
  unfold encodeChar
  generalize c.toNat = n at hc hback
  subst hback
  dsimp only
  split
  · exact scan_single ‹_›
  split
  · rename_i h h'
    rw [List.cons_append, List.singleton_append, scan_opens (by omega) (lead_two (by omega) h'),
      scan_last (by omega) (by omega) (by omega)]
    congr 3
    omega
  split
  · rename_i h h'
    obtain ⟨low, high, hlead, hlow, hhigh⟩ := lead_three (n := n) (by omega) h' (by omega)
    rw [List.cons_append, List.cons_append, List.singleton_append, scan_opens (by omega) hlead,
      scan_next (by omega) hlow hhigh, scan_last (by omega) (by omega) (by omega)]
    congr 3
    omega
  · obtain ⟨low, high, hlead, hlow, hhigh⟩ := lead_four (n := n) (by omega) (by omega)
    rw [List.cons_append, List.cons_append, List.cons_append, List.singleton_append,
      scan_opens (by omega) hlead, scan_next (by omega) hlow hhigh,
      scan_next (by omega) (by omega) (by omega), scan_last (by omega) (by omega) (by omega)]
    congr 3
    omega

lemma scan_encode (cs : List Char) (bs : Bytes) :
    scan none (encode cs ++ bs) = cs.map some ++ scan none bs := by
  induction cs with
  | nil => rfl
  | cons c cs ih =>
    unfold encode at ih ⊢
    rw [List.flatMap_cons, List.append_assoc, scan_encodeChar, ih]
    rfl

lemma mapM_map_some (cs : List Char) : (cs.map some).mapM id = some cs := by
  induction cs with
  | nil => rfl
  | cons c cs ih =>
    rw [List.map_cons, List.mapM_cons, ih]
    rfl

/-- **Reading undoes writing.** -/
theorem decode_encode (cs : List Char) : decode? (encode cs) = some cs := by
  have h := scan_encode cs []
  rw [List.append_nil, scan, List.append_nil] at h
  unfold decode?
  rw [h, mapM_map_some]

theorem toString_ofString (s : String) : toString? (ofString s) = some s := by
  unfold toString? ofString
  rw [decode_encode]
  exact congrArg some (String.ofList_toList)

theorem toStringLossy_ofString (s : String) : toStringLossy (ofString s) = s := by
  have h := scan_encode s.toList []
  rw [List.append_nil, scan, List.append_nil] at h
  unfold toStringLossy ofString
  rw [h, List.map_map]
  exact (congrArg String.ofList (List.map_id _)).trans String.ofList_toList

/-! ### Bytes -/

lemma encode_append (as bs : List Char) : encode (as ++ bs) = encode as ++ encode bs :=
  List.flatMap_append

lemma encode_cons (c : Char) (cs : List Char) : encode (c :: cs) = encodeChar c ++ encode cs := rfl

lemma encodeChar_of_ascii (hc : c.toNat < 0x80) : encodeChar c = [byte c.toNat] := by
  unfold encodeChar
  exact if_pos hc

/-- No byte of a character beyond ASCII stands for itself. -/
lemma le_of_mem_encodeChar (hc : 0x80 ≤ c.toNat) {b : UInt8} (hb : b ∈ encodeChar c) :
    0x80 ≤ b.toNat := by
  have hvalid := toNat_cases c
  have hbyte : ∀ n, 0x80 ≤ n → n < 256 → 0x80 ≤ (byte n).toNat := fun n h h' => by
    rwa [toNat_byte h']
  unfold encodeChar at hb
  dsimp only at hb
  rw [if_neg (by omega)] at hb
  split at hb
  · simp only [List.mem_cons, List.not_mem_nil, or_false] at hb
    rcases hb with rfl | rfl <;> exact hbyte _ (by omega) (by omega)
  split at hb
  · simp only [List.mem_cons, List.not_mem_nil, or_false] at hb
    rcases hb with rfl | rfl | rfl <;> exact hbyte _ (by omega) (by omega)
  · simp only [List.mem_cons, List.not_mem_nil, or_false] at hb
    rcases hb with rfl | rfl | rfl | rfl <;> exact hbyte _ (by omega) (by omega)

/-! ### Bytes of ASCII in any bytes -/

section Ascii

variable {b : UInt8}

lemma mem_start (hascii : b.toNat < 0x80) : some (Char.ofNat b.toNat) ∈ (start b).1 := by
  unfold start lead
  rw [if_pos hascii]
  exact List.mem_singleton_self _

/-- No byte that stands for itself goes on with a sequence. -/
lemma low_of_start {p : Pending} (h : (start b).2 = some p) : 0x80 ≤ p.low := by
  have hlead : lead b.toNat = .opens p := by
    unfold start at h
    split at h
    next => cases h
    next hopens =>
      cases h
      exact hopens
    next => cases h
  unfold lead at hlead
  repeat' split at hlead
  all_goals
    cases hlead
    all_goals simp

/-- A byte that stands for itself does so wherever it stands. -/
lemma mem_scan_of_ascii (hb : b ∈ bs) (hascii : b.toNat < 0x80) (pending : Option Pending)
    (hpending : ∀ p ∈ pending, 0x80 ≤ p.low) :
    some (Char.ofNat b.toNat) ∈ scan pending bs := by
  induction bs generalizing pending with
  | nil => cases hb
  | cons a as ih =>
    have hfresh : some (Char.ofNat b.toNat) ∈ (start a).1 ++ scan (start a).2 as := by
      rcases List.mem_cons.mp hb with rfl | hb
      · exact List.mem_append_left _ (mem_start hascii)
      · exact List.mem_append_right _ (ih hb _ fun p hp => low_of_start hp)
    cases pending with
    | none => rwa [scan]
    | some p =>
      rw [scan]
      split
      next hin =>
        -- what goes on with the sequence is another byte
        have hlow := hpending p rfl
        have hb : b ∈ as := by
          rcases List.mem_cons.mp hb with rfl | hb
          · omega
          · exact hb
        split
        next => exact List.mem_cons_of_mem _ (ih hb none nofun)
        next =>
          refine ih hb _ fun p hp => ?_
          cases hp
          exact Nat.le_refl _
      next => exact List.mem_cons_of_mem _ hfresh

lemma mem_toStringLossy (hb : b ∈ bs) (hascii : b.toNat < 0x80) :
    Char.ofNat b.toNat ∈ (toStringLossy bs).toList := by
  unfold toStringLossy
  rw [String.toList_ofList]
  exact List.mem_map.mpr ⟨_, mem_scan_of_ascii hb hascii none nofun, rfl⟩

end Ascii

end Courier.Text.Utf8
