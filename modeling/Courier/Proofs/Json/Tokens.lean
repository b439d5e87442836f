import Courier.Json.Printer
import Courier.Json.Reader
import Courier.Proofs.Text.Utf8
import Mathlib.Data.List.Basic

/-!
Tokens of JSON are read as they were written: a string from its escaped characters, whatever they
are, and a natural number of 64 bits from its digits.
-/

namespace Courier.Json

open Text (Bytes)
open Text.Utf8 (byte encode encodeChar encode_cons encode_append)

variable {c : Char} {n : Nat} {b : UInt8} {bs rest : Bytes}

/-! ### Blanks -/

/-- All bytes are blanks. -/
def Blank (bs : Bytes) : Prop := ∀ b ∈ bs, isBlank b = true

lemma skipBlanks_append (h : Blank bs) (rest : Bytes) :
    skipBlanks (bs ++ rest) = skipBlanks rest := by
  unfold skipBlanks
  exact List.dropWhile_append_of_pos h

lemma skipBlanks_of_not (h : isBlank b = false) : skipBlanks (b :: rest) = b :: rest := by
  unfold skipBlanks
  rw [List.dropWhile_cons_of_neg (by rw [h]; exact Bool.false_ne_true)]

/-! ### Strings -/

@[simp] lemma prepend_nil (r : Except Stop (Bytes × Bytes)) : prepend [] r = r := by
  cases r <;> rfl

lemma prepend_append (front bs : Bytes) (r : Except Stop (Bytes × Bytes)) :
    prepend (front ++ bs) r = prepend front (prepend bs r) := by
  cases r with
  | error s => rfl
  | ok p => exact congrArg (fun x => Except.ok (x, p.2)) (List.append_assoc ..)

/-- The byte stands for itself inside a string. -/
def IsPlain (b : UInt8) : Prop := b ≠ quote ∧ b ≠ backslash ∧ ¬b < 32

lemma stringBody_plain (hb : IsPlain b) (rest : Bytes) :
    stringBody (b :: rest) = prepend [b] (stringBody rest) := by
  rw [stringBody.eq_def]
  dsimp only
  rw [if_neg hb.1, if_neg hb.2.1, if_neg hb.2.2]

lemma stringBody_plains (hbs : ∀ b ∈ bs, IsPlain b) (rest : Bytes) :
    stringBody (bs ++ rest) = prepend bs (stringBody rest) := by
  induction bs with
  | nil => exact (prepend_nil _).symm
  | cons b bs ih =>
    have hb := hbs b List.mem_cons_self
    have ih := ih fun b hb => hbs b (List.mem_cons_of_mem _ hb)
    rw [List.cons_append, stringBody_plain hb, ih]
    exact (prepend_append [b] bs _).symm

lemma isPlain_of_le (hb : 128 ≤ b.toNat) : IsPlain b := by
  refine ⟨?_, ?_, ?_⟩
  · rintro rfl
    exact absurd hb (by decide)
  · rintro rfl
    exact absurd hb (by decide)
  · rw [UInt8.lt_iff_toNat_lt]
    exact Nat.not_lt.mpr (Nat.le_trans (by decide) hb)

lemma stringBody_escape {e d : UInt8} (he : e ≠ 117) (hd : simpleEscape? e = some d)
    (rest : Bytes) : stringBody (backslash :: e :: rest) = prepend [d] (stringBody rest) := by
  rw [stringBody.eq_def]
  dsimp only
  rw [if_neg (by decide), if_pos rfl, if_neg he, hd]

lemma stringBody_number {h₁ h₂ h₃ h₄ : UInt8} (hn : hexValue4? h₁ h₂ h₃ h₄ = some n)
    (hsmall : n < 0xD800) (rest : Bytes) :
    stringBody (backslash :: 117 :: h₁ :: h₂ :: h₃ :: h₄ :: rest) =
      prepend (encodeChar (Char.ofNat n)) (stringBody rest) := by
  have hlow : isLowSurrogate n = false := by
    unfold isLowSurrogate
    simp
    omega
  have hhigh : isHighSurrogate n = false := by
    unfold isHighSurrogate
    simp
    omega
  rw [stringBody.eq_def]
  dsimp only
  rw [if_neg (by decide), if_pos rfl, if_pos rfl, hn]
  dsimp only
  rw [hlow, hhigh]
  rfl

/-- A control character that has no short escape is written by its number. -/
lemma escape_control : ∀ n < 32,
    encode ['\\', 'u', '0', '0', hexDigit (n / 16), hexDigit (n % 16)] =
      [backslash, 117, 48, 48, byte (hexDigit (n / 16)).toNat, byte (hexDigit (n % 16)).toNat] ∧
    hexValue4? 48 48 (byte (hexDigit (n / 16)).toNat) (byte (hexDigit (n % 16)).toNat) =
      some n := by
  decide

/-- **A character** inside a string is read from its escaped text. -/
theorem stringBody_escapeChar (c : Char) (rest : Bytes) :
    stringBody (encode (escapeChar c) ++ rest) = prepend (encodeChar c) (stringBody rest) := by
  have short : ∀ e d, e ≠ 117 → simpleEscape? e = some d →
      ∀ rest, stringBody ([backslash, e] ++ rest) = prepend [d] (stringBody rest) :=
    fun e d he hd rest => stringBody_escape he hd rest
  have named : ∀ n, c.toNat = n → c = Char.ofNat n := fun n hn => by rw [← hn, Char.ofNat_toNat]
  unfold escapeChar
  split
  · subst c
    exact short 34 34 (by decide) rfl rest
  split
  · subst c
    exact short 92 92 (by decide) rfl rest
  split
  · subst c
    exact short 110 10 (by decide) rfl rest
  split
  · subst c
    exact short 114 13 (by decide) rfl rest
  split
  · subst c
    exact short 116 9 (by decide) rfl rest
  split
  · rw [named 8 ‹_›]
    exact short 98 8 (by decide) rfl rest
  split
  · rw [named 12 ‹_›]
    exact short 102 12 (by decide) rfl rest
  split
  · rename_i hn
    obtain ⟨htext, hvalue⟩ := escape_control c.toNat hn
    rw [htext]
    refine (stringBody_number hvalue (by omega) rest).trans ?_
    rw [Char.ofNat_toNat]
  · rename_i hquote hbackslash _ _ _ _ _ hcontrol
    have hone : encode [c] = encodeChar c := by
      rw [encode_cons]
      exact List.append_nil _
    rw [hone]
    refine stringBody_plains (fun b hb => ?_) rest
    by_cases hascii : c.toNat < 0x80
    · rw [Text.Utf8.encodeChar_of_ascii hascii, List.mem_singleton] at hb
      subst hb
      have hnat : (byte c.toNat).toNat = c.toNat := Text.Utf8.toNat_byte (by omega)
      refine ⟨fun h => hquote ?_, fun h => hbackslash ?_, fun h => hcontrol ?_⟩
      · rw [h] at hnat
        exact named 34 hnat.symm
      · rw [h] at hnat
        exact named 92 hnat.symm
      · rw [UInt8.lt_iff_toNat_lt, hnat] at h
        exact h
    · exact isPlain_of_le (Text.Utf8.le_of_mem_encodeChar (by omega) hb)

lemma stringBody_escaped (cs : List Char) (rest : Bytes) :
    stringBody (encode (cs.flatMap escapeChar) ++ quote :: rest) = .ok (encode cs, rest) := by
  induction cs with
  | nil =>
    show stringBody (quote :: rest) = .ok ([], rest)
    rw [stringBody.eq_def]
    rfl
  | cons c cs ih =>
    rw [List.flatMap_cons, encode_append, List.append_assoc, stringBody_escapeChar, ih]
    rfl

/-- The text of a string in bytes. -/
lemma encode_quoted (s : String) :
    encode (quoted s) = quote :: (encode (s.toList.flatMap escapeChar) ++ [quote]) := by
  unfold quoted
  rw [List.cons_append, encode_cons, encode_append]
  rfl

/-- **Every string** is read as it was written. -/
theorem string_quoted (s : String) (rest : Bytes) :
    string (encode (s.toList.flatMap escapeChar) ++ quote :: rest) = .ok (s, rest) := by
  have hback : Text.Utf8.toString? (encode s.toList) = some s := Text.Utf8.toString_ofString s
  unfold string
  rw [stringBody_escaped]
  dsimp only [bind, Except.bind]
  rw [hback]
  rfl

/-! ### Natural numbers -/

/-- Nothing follows with which a number would go on. -/
def Fenced (rest : Bytes) : Prop :=
  ∀ b ∈ rest.head?, isDigit b = false ∧ b ≠ point ∧ isExponentMark b = false

lemma le_foldl_digits (n : Nat) (ds : List Nat) : n ≤ ds.foldl (fun n d => n * 10 + d) n := by
  induction ds generalizing n with
  | nil => exact Nat.le_refl n
  | cons d ds ih =>
    have h := ih (n * 10 + d)
    rw [List.foldl_cons]
    omega

/-- Digits whose number has 64 bits are all gathered. -/
lemma gather_eq {ds : List Nat} (h : ds.foldl (fun n d => n * 10 + d) n ≤ maxUnsigned) :
    gather n ds = (ds.foldl (fun n d => n * 10 + d) n, 0) := by
  induction ds generalizing n with
  | nil => rfl
  | cons d ds ih =>
    have hle := le_foldl_digits (n * 10 + d) ds
    rw [List.foldl_cons] at h ⊢
    rw [gather, if_neg (by omega), ih h]

lemma toNat_of_isDigit (hc : c.isDigit = true) : 48 ≤ c.toNat ∧ c.toNat ≤ 57 := by
  simp only [Char.isDigit, Bool.and_eq_true, decide_eq_true_eq, ge_iff_le] at hc
  exact ⟨hc.1, hc.2⟩

lemma encode_digits {cs : List Char} (h : ∀ c ∈ cs, c.isDigit = true) :
    encode cs = cs.map fun c => byte c.toNat := by
  induction cs with
  | nil => rfl
  | cons c cs ih =>
    have hc := toNat_of_isDigit (h c List.mem_cons_self)
    rw [encode_cons, Text.Utf8.encodeChar_of_ascii (by omega),
      ih fun c hc => h c (List.mem_cons_of_mem _ hc)]
    rfl

lemma isDigit_digitsOf : ∀ c ∈ Number.digitsOf n, c.isDigit = true := fun _ hc =>
  Nat.isDigit_of_mem_toDigits (by decide) (by decide) hc

lemma isDigit_byte (hc : c.isDigit = true) : isDigit (byte c.toNat) = true := by
  have h := toNat_of_isDigit hc
  have hnat : (byte c.toNat).toNat = c.toNat := Text.Utf8.toNat_byte (by omega)
  unfold isDigit
  simp only [Bool.and_eq_true, decide_eq_true_eq, UInt8.le_iff_toNat_le, hnat]
  exact h

/-- The digits of a number begin with a zero only if it is zero. -/
lemma digitsOf_cons (n : Nat) : ∃ c cs, Number.digitsOf n = c :: cs ∧ (c = '0' → n = 0) := by
  unfold Number.digitsOf
  induction n using Nat.strongRecOn with
  | ind n ih =>
    by_cases hn : n < 10
    · refine ⟨n.digitChar, [], Nat.toDigits_of_lt_base hn, ?_⟩
      have hzero : ∀ n < 10, n.digitChar = '0' → n = 0 := by decide
      exact hzero n hn
    · obtain ⟨c, cs, hcs, hc⟩ := ih (n / 10) (by omega)
      refine ⟨c, cs ++ [(n % 10).digitChar], ?_, fun h => ?_⟩
      · rw [Nat.toDigits_of_base_le (by decide) (by omega), hcs]
        rfl
      · have := hc h
        omega

/-- A run of digits ends where no digit follows. -/
lemma digitRun_append (hd : ∀ b ∈ bs, isDigit b = true)
    (hr : ∀ b ∈ rest.head?, isDigit b = false) :
    digitRun (bs ++ rest) = (bs.map fun b => b.toNat - 48, rest) := by
  have hstop : rest.takeWhile isDigit = [] ∧ rest.dropWhile isDigit = rest := by
    cases rest with
    | nil => exact ⟨rfl, rfl⟩
    | cons b rest =>
      have hb : ¬ isDigit b = true := by
        rw [hr b rfl]
        exact Bool.false_ne_true
      exact ⟨List.takeWhile_cons_of_neg hb, List.dropWhile_cons_of_neg hb⟩
  unfold digitRun
  rw [List.takeWhile_append_of_pos hd, List.dropWhile_append_of_pos hd, hstop.1, hstop.2,
    List.append_nil]

/-- The values of the digits of a number. -/
def digitValues (n : Nat) : List Nat := (Number.digitsOf n).map fun c => c.toNat - 48

lemma foldl_digitValues (n : Nat) : (digitValues n).foldl (fun n d => n * 10 + d) 0 = n := by
  have h : Nat.ofDigitChars 10 (Nat.toDigits 10 n) 0 = n :=
    Nat.ofDigitChars_toDigits (by decide) (by decide)
  have hstep : (fun (n : Nat) (c : Char) => n * 10 + (c.toNat - 48)) =
      fun n c => 10 * n + (c.toNat - '0'.toNat) := by
    funext n c
    rw [Nat.mul_comm]
    rfl
  unfold digitValues Number.digitsOf
  rw [List.foldl_map, hstep]
  exact h

lemma map_encode_digitsOf (n : Nat) :
    (encode (Number.digitsOf n)).map (fun b => b.toNat - 48) = digitValues n := by
  rw [encode_digits isDigit_digitsOf, List.map_map]
  refine List.map_congr_left fun c hc => ?_
  have hle := toNat_of_isDigit (isDigit_digitsOf c hc)
  show (byte c.toNat).toNat - 48 = c.toNat - 48
  rw [Text.Utf8.toNat_byte (by omega)]

lemma isDigit_of_mem_encode : ∀ b ∈ encode (Number.digitsOf n), isDigit b = true := by
  intro b hb
  rw [encode_digits isDigit_digitsOf] at hb
  obtain ⟨c, hc, rfl⟩ := List.mem_map.mp hb
  exact isDigit_byte (isDigit_digitsOf c hc)

/-- The text of a natural number begins with a digit, and with a zero only if it is zero. -/
lemma encode_digitsOf_cons (n : Nat) : ∃ b bs, encode (Number.digitsOf n) = b :: bs ∧
    isDigit b = true ∧ (b = 48 → n = 0) := by
  obtain ⟨c, cs, hcs, hzero⟩ := digitsOf_cons n
  have hc : c.isDigit = true := isDigit_digitsOf c (by rw [hcs]; exact List.mem_cons_self)
  have hle := toNat_of_isDigit hc
  have hall := encode_digits (isDigit_digitsOf (n := n))
  rw [hcs, List.map_cons] at hall
  refine ⟨_, _, hcs ▸ hall, isDigit_byte hc, fun h => hzero ?_⟩
  have hnat : (byte c.toNat).toNat = c.toNat := Text.Utf8.toNat_byte (by omega)
  rw [h] at hnat
  rw [← Char.ofNat_toNat c, ← hnat]
  rfl

lemma wholePart_digitsOf (n : Nat) (hr : Fenced rest) :
    wholePart (encode (Number.digitsOf n) ++ rest) = .ok (digitValues n, rest) := by
  obtain ⟨b, bs, hbs, hb, hzero⟩ := encode_digitsOf_cons n
  by_cases h48 : b = 48
  · obtain rfl := hzero h48
    show wholePart (48 :: rest) = .ok ([0], rest)
    unfold wholePart
    dsimp only
    rw [if_pos rfl]
    cases rest with
    | nil => rfl
    | cons c rest =>
      dsimp only
      rw [(hr c rfl).1]
      rfl
  · have hrun := digitRun_append (isDigit_of_mem_encode (n := n)) fun b hb => (hr b hb).1
    rw [map_encode_digitsOf] at hrun
    rw [← hrun, hbs, List.cons_append]
    unfold wholePart
    dsimp only
    rw [if_neg h48, if_pos hb]

/-- The digits of a number are read as such, whatever its sign. -/
lemma digits_digitsOf (negative : Bool) (n : Nat) (hr : Fenced rest) :
    digits negative (encode (Number.digitsOf n) ++ rest) =
      .ok (⟨negative, digitValues n, none, none⟩, rest) := by
  have hfraction : fractionPart? rest = .ok (none, rest) := by
    unfold fractionPart?
    cases rest with
    | nil => rfl
    | cons b rest => exact if_neg (hr b rfl).2.1
  have hexponent : exponentPart? rest = .ok (none, rest) := by
    unfold exponentPart?
    cases rest with
    | nil => rfl
    | cons b rest =>
      dsimp only
      rw [(hr b rfl).2.2]
      rfl
  unfold digits
  rw [wholePart_digitsOf n hr]
  show (fractionPart? rest >>= _) = _
  rw [hfraction]
  show (exponentPart? rest >>= _) = _
  rw [hexponent]
  rfl

/-- All digits of a number of 64 bits are gathered. -/
lemma gather_digitValues (hn : n ≤ maxUnsigned) : gather 0 (digitValues n) = (n, 0) := by
  have hfold := foldl_digitValues n
  rw [gather_eq (by rw [hfold]; exact hn), hfold]

/-- **Every natural number** of 64 bits is read as it was written. -/
theorem numeral_digitsOf (hn : n ≤ maxUnsigned) (hr : Fenced rest) :
    numeral false (encode (Number.digitsOf n) ++ rest) = .ok (.int n, rest) := by
  have hvalue : (⟨false, digitValues n, none, none⟩ : Digits).numeral? = some (.int n) := by
    unfold Digits.numeral?
    rw [gather_digitValues hn]
    rfl
  unfold numeral
  rw [digits_digitsOf false n hr]
  dsimp only [bind, Except.bind]
  rw [hvalue]
  rfl

/-- **Every negative number** of 64 bits is read as it was written, the sign being passed. -/
theorem numeral_negative (hne : n ≠ 0) (hn : n ≤ 9223372036854775808) (hr : Fenced rest) :
    numeral true (encode (Number.digitsOf n) ++ rest) = .ok (.int (-n), rest) := by
  have hpow : Nat.pow 2 63 = 9223372036854775808 := rfl
  have hmax : maxUnsigned = 18446744073709551615 := rfl
  have hvalue : (⟨true, digitValues n, none, none⟩ : Digits).numeral? = some (.int (-n)) := by
    unfold Digits.numeral?
    rw [gather_digitValues (by omega)]
    dsimp only
    rw [if_pos ⟨rfl, rfl, rfl⟩, if_neg (fun h => h rfl), if_neg (by rw [hpow]; omega)]
  unfold numeral
  rw [digits_digitsOf true n hr]
  dsimp only [bind, Except.bind]
  rw [hvalue]
  rfl

end Courier.Json
