import Courier.Json.Direct
import Courier.Proofs.Failing
import Courier.Proofs.Json.Canonical
import Mathlib.Data.List.DropRight
import Mathlib.Data.List.TakeWhile

/-!
Values that are passed over.  Nobody keeps what such a value holds, so that it is not read but
skipped, by a machine that has the arrays and objects it entered on a stack.  This machine stops where
reading the value would have stopped, whatever follows.
-/

namespace Courier.Json

open Text (Bytes)
open Direct (skipString skipNumber skipDigits skipFraction? skipExponent? skipExponent)

variable {b : UInt8} {bs rest body : Bytes} {v : Json}

/-! ### Strings -/

lemma prepend_eq_ok {front : Bytes} {r : Except Stop (Bytes × Bytes)}
    (h : prepend front r = .ok (body, rest)) : ∃ more, r = .ok (more, rest) := by
  cases r with
  | error s => cases h
  | ok p =>
    cases h
    exact ⟨p.1, rfl⟩

/-- A number in a string stands for a character or for half of one; either is passed over. -/
lemma skipString_number {h₁ h₂ h₃ h₄ : UInt8} {n : Nat} (hn : hexValue4? h₁ h₂ h₃ h₄ = some n) :
    skipString (backslash :: 117 :: h₁ :: h₂ :: h₃ :: h₄ :: rest) = skipString rest := by
  rw [skipString, if_neg (by decide), if_pos rfl, if_pos rfl, hn]

lemma skipString_of_stringBody (h : stringBody bs = .ok (body, rest)) :
    skipString bs = .ok rest := by
  fun_induction stringBody bs generalizing body with
  | case2 r =>
    cases h
    unfold skipString
    exact if_pos rfl
  | case9 k₁ k₂ k₃ k₄ m hm _ _ k₁' k₂' k₃' k₄' r m' hm' _ _ ih =>
    obtain ⟨more, hmore⟩ := prepend_eq_ok h
    rw [skipString_number hm, skipString_number hm']
    exact ih hmore
  | case14 k₁ k₂ k₃ k₄ r m hm _ _ _ ih =>
    obtain ⟨more, hmore⟩ := prepend_eq_ok h
    rw [skipString_number hm]
    exact ih hmore
  | case16 e r hne c hc _ ih =>
    obtain ⟨more, hmore⟩ := prepend_eq_ok h
    unfold skipString
    dsimp only
    rw [if_neg (by decide), if_pos rfl, if_neg hne, hc]
    exact ih hmore
  | case19 b r hquote hback hlow ih =>
    obtain ⟨more, hmore⟩ := prepend_eq_ok h
    unfold skipString
    rw [if_neg hquote, if_neg hback, if_neg hlow]
    exact ih hmore
  | _ => cases h

lemma skipString_of_string {s : String} (h : string bs = .ok (s, rest)) :
    skipString bs = .ok rest := by
  obtain ⟨⟨body, r⟩, hbody, h⟩ := bind_eq_ok_iff.mp h
  dsimp only at h
  split at h
  next =>
    cases h
    exact skipString_of_stringBody hbody
  next => cases h

/-! ### Numbers -/

/-- The rest of a run of digits is what is left when they are skipped. -/
lemma snd_digitRun_cons (hb : isDigit b = true) : (digitRun (b :: rest)).2 = skipDigits rest := by
  unfold digitRun skipDigits
  exact List.dropWhile_cons_of_pos hb

lemma skipExponent_of_exponentPart {e : Bool × List Nat} (h : exponentPart bs = .ok (e, rest)) :
    skipExponent bs = .ok rest := by
  unfold exponentPart at h
  unfold skipExponent
  cases bs with
  | nil => cases h
  | cons b r =>
    have hsign : (if b = plus then (false, r) else if b = minus then (true, r) else
        (false, b :: r)).2 = if b = plus ∨ b = minus then r else b :: r := by
      by_cases hplus : b = plus
      · rw [if_pos hplus, if_pos (.inl hplus)]
      · by_cases hminus : b = minus
        · rw [if_neg hplus, if_pos hminus, if_pos (.inr hminus)]
        · rw [if_neg hplus, if_neg hminus, if_neg (by simp [hplus, hminus])]
    dsimp only at h ⊢
    rw [hsign] at h
    generalize (if b = plus ∨ b = minus then r else b :: r) = digits at h ⊢
    cases digits with
    | nil => cases h
    | cons c cs =>
      dsimp only at h ⊢
      split at h
      next hc =>
        cases h
        rw [if_pos hc, snd_digitRun_cons hc]
      next => cases h

lemma skipExponent?_of_exponentPart? {e : Option (Bool × List Nat)}
    (h : exponentPart? bs = .ok (e, rest)) : skipExponent? bs = .ok rest := by
  unfold exponentPart? at h
  unfold skipExponent?
  cases bs with
  | nil =>
    cases h
    rfl
  | cons b r =>
    dsimp only at h ⊢
    split at h
    next hmark =>
      rw [if_pos hmark]
      split at h
      next hpart =>
        cases h
        exact skipExponent_of_exponentPart hpart
      next => cases h
    next hmark =>
      cases h
      rw [if_neg hmark]

lemma skipFraction?_of_parts {f : Option (List Nat)} {e : Option (Bool × List Nat)} {r : Bytes}
    (hf : fractionPart? bs = .ok (f, r)) (he : exponentPart? r = .ok (e, rest)) :
    skipFraction? bs = .ok rest := by
  have hskip := skipExponent?_of_exponentPart? he
  unfold fractionPart? at hf
  unfold skipFraction?
  cases bs with
  | nil =>
    cases hf
    exact hskip
  | cons b r' =>
    dsimp only at hf ⊢
    split at hf
    next hpoint =>
      rw [if_pos hpoint]
      cases r' with
      | nil => cases hf
      | cons c cs =>
        dsimp only
        unfold digitRun at hf
        by_cases hc : isDigit c = true
        · rw [List.takeWhile_cons_of_pos hc, List.dropWhile_cons_of_pos hc, List.map_cons] at hf
          cases hf
          rw [if_pos hc]
          exact hskip
        · rw [List.takeWhile_cons_of_neg hc, List.dropWhile_cons_of_neg hc] at hf
          cases hf
    next hpoint =>
      cases hf
      rw [if_neg hpoint]
      exact hskip

lemma skipNumber_of_numeral {negative : Bool} {n : Numeral}
    (h : numeral negative bs = .ok (n, rest)) : skipNumber bs = .ok rest := by
  obtain ⟨⟨d, r⟩, hdigits, h⟩ := bind_eq_ok_iff.mp h
  obtain ⟨⟨whole, r₁⟩, hwhole, hdigits⟩ := bind_eq_ok_iff.mp hdigits
  obtain ⟨⟨fraction, r₂⟩, hfraction, hdigits⟩ := bind_eq_ok_iff.mp hdigits
  obtain ⟨⟨exponent, r₃⟩, hexponent, hdigits⟩ := bind_eq_ok_iff.mp hdigits
  obtain rfl : rest = r₃ := by
    cases hdigits
    dsimp only at h
    split at h <;> cases h
    rfl
  have hskip := skipFraction?_of_parts hfraction hexponent
  unfold wholePart at hwhole
  unfold skipNumber
  cases bs with
  | nil => cases hwhole
  | cons b r =>
    dsimp only at hwhole ⊢
    by_cases hzero : b = 48
    · rw [if_pos hzero] at hwhole ⊢
      cases r with
      | nil =>
        cases hwhole
        exact hskip
      | cons c cs =>
        dsimp only at hwhole ⊢
        by_cases hc : isDigit c = true
        · rw [if_pos hc] at hwhole
          cases hwhole
        · rw [if_neg hc] at hwhole ⊢
          cases hwhole
          exact hskip
    · rw [if_neg hzero] at hwhole ⊢
      by_cases hb : isDigit b = true
      · rw [if_pos hb] at hwhole ⊢
        have hrun : (digitRun (b :: r)).2 = skipDigits r := snd_digitRun_cons hb
        rw [Except.ok.inj hwhole] at hrun
        rw [← hrun]
        exact hskip
      · rw [if_neg hb] at hwhole
        cases hwhole

lemma word_of_wordValue {w : Json} {tail : List UInt8} (h : wordValue w tail bs = .ok (v, rest)) :
    word tail bs = .ok rest := by
  unfold wordValue at h
  split at h
  next hr =>
    cases h
    exact hr
  next => cases h

/-! ### Lengths -/

lemma length_word {ws : List UInt8} (h : word ws bs = .ok rest) : rest.length ≤ bs.length := by
  induction ws generalizing bs with
  | nil =>
    cases h
    exact le_rfl
  | cons w ws ih =>
    cases bs with
    | nil => cases h
    | cons b bs =>
      unfold word at h
      split at h
      next => exact (ih h).trans (Nat.le_succ _)
      next => cases h

lemma length_skipString (h : skipString bs = .ok rest) : rest.length < bs.length := by
  fun_induction skipString bs with
  | case2 r =>
    cases h
    exact Nat.lt_succ_self _
  | case5 _ _ _ _ _ _ _ _ ih | case7 _ _ _ _ _ _ ih | case10 _ _ _ _ _ ih =>
    have hlt := ih h
    simp only [List.length_cons]
    omega
  | _ => cases h

lemma length_skipDigits (bs : Bytes) : (skipDigits bs).length ≤ bs.length :=
  List.length_dropWhile_le _ _

lemma length_skipExponent (h : skipExponent bs = .ok rest) : rest.length < bs.length := by
  unfold skipExponent at h
  cases bs with
  | nil => cases h
  | cons b r =>
    have hle : (if b = plus ∨ b = minus then r else b :: r).length ≤ (b :: r).length := by
      split
      next => exact Nat.le_succ _
      next => exact le_rfl
    dsimp only at h
    generalize (if b = plus ∨ b = minus then r else b :: r) = digits at h hle
    cases digits with
    | nil => cases h
    | cons c cs =>
      dsimp only at h
      split at h
      next =>
        cases h
        exact (Nat.lt_succ_of_le (length_skipDigits cs)).trans_le hle
      next => cases h

lemma length_skipExponent? (h : skipExponent? bs = .ok rest) : rest.length ≤ bs.length := by
  unfold skipExponent? at h
  split at h
  next =>
    split at h
    next => exact (length_skipExponent h).le.trans (Nat.le_succ _)
    next =>
      cases h
      exact le_rfl
  next =>
    cases h
    exact le_rfl

lemma length_skipFraction? (h : skipFraction? bs = .ok rest) : rest.length ≤ bs.length := by
  unfold skipFraction? at h
  split at h
  next =>
    split at h
    next =>
      split at h
      next c cs =>
        split at h
        next =>
          have hle := (length_skipExponent? h).trans (length_skipDigits cs)
          simp only [List.length_cons]
          omega
        next => cases h
      next => cases h
    next => exact length_skipExponent? h
  next =>
    cases h
    exact le_rfl

lemma length_skipNumber (h : skipNumber bs = .ok rest) : rest.length < bs.length := by
  unfold skipNumber at h
  split at h
  next => cases h
  next b r =>
    split at h
    next =>
      split at h
      next =>
        split at h
        next => cases h
        next => exact Nat.lt_succ_of_le (length_skipFraction? h)
      next =>
        cases h
        exact Nat.lt_succ_self _
    next =>
      split at h
      next => exact Nat.lt_succ_of_le ((length_skipFraction? h).trans (length_skipDigits r))
      next => cases h

/-! ### The machine -/

section Machine

open Direct (Skip Frame skip skipKey skipValue)

variable {frames : List Frame} {fuel depth : Nat} {first : Bool}

lemma skipBlanks_skipBlanks (bs : Bytes) : skipBlanks (skipBlanks bs) = skipBlanks bs :=
  List.dropWhile_idempotent _ _

lemma length_skipBlanks {r : Bytes} (h : skipBlanks bs = b :: r) : r.length < bs.length := by
  have hle : (skipBlanks bs).length ≤ bs.length := List.length_dropWhile_le _ _
  rw [h] at hle
  exact hle

lemma skip_openBracket {r : Bytes} (h : skipBlanks bs = openBracket :: r) :
    skip (fuel + 1) .value frames bs = skip fuel .entered (.array :: frames) r := by
  rw [skip, h]
  rfl

lemma skip_openBrace {r : Bytes} (h : skipBlanks bs = openBrace :: r) :
    skip (fuel + 1) .value frames bs = skip fuel .entered (.object :: frames) r := by
  rw [skip, h]
  rfl

/-- A value that is neither array nor object is passed over at once. -/
lemma skip_leaf {r : Bytes} (h : skipBlanks bs = b :: r) (hbracket : b ≠ openBracket)
    (hbrace : b ≠ openBrace) (hleaf : leaf b r = .ok (v, rest)) :
    rest.length ≤ r.length ∧ ∀ fuel frames,
      skip (fuel + 1) .value frames bs = skip fuel .passed frames rest := by
  unfold leaf at hleaf
  split at hleaf
  next hnull =>
    have hword := word_of_wordValue hleaf
    refine ⟨length_word hword, fun fuel frames => ?_⟩
    rw [skip, h]
    dsimp only
    rw [if_neg hbracket, if_neg hbrace, if_pos hnull, hword]
  next hnull =>
  split at hleaf
  next htrue =>
    have hword := word_of_wordValue hleaf
    refine ⟨length_word hword, fun fuel frames => ?_⟩
    rw [skip, h]
    dsimp only
    rw [if_neg hbracket, if_neg hbrace, if_neg hnull, if_pos htrue, hword]
  next htrue =>
  split at hleaf
  next hfalse =>
    have hword := word_of_wordValue hleaf
    refine ⟨length_word hword, fun fuel frames => ?_⟩
    rw [skip, h]
    dsimp only
    rw [if_neg hbracket, if_neg hbrace, if_neg hnull, if_neg htrue, if_pos hfalse, hword]
  next hfalse =>
  split at hleaf
  next hminus =>
    obtain ⟨n, hn, -⟩ := wrap_eq_ok hleaf
    have hnumber := skipNumber_of_numeral hn
    refine ⟨(length_skipNumber hnumber).le, fun fuel frames => ?_⟩
    rw [skip, h]
    dsimp only
    rw [if_neg hbracket, if_neg hbrace, if_neg hnull, if_neg htrue, if_neg hfalse, if_pos hminus,
      hnumber]
  next hminus =>
  split at hleaf
  next hdigit =>
    obtain ⟨n, hn, -⟩ := wrap_eq_ok hleaf
    have hnumber := skipNumber_of_numeral hn
    refine ⟨Nat.le_of_lt_succ (length_skipNumber hnumber), fun fuel frames => ?_⟩
    rw [skip, h]
    dsimp only
    rw [if_neg hbracket, if_neg hbrace, if_neg hnull, if_neg htrue, if_neg hfalse, if_neg hminus,
      if_pos hdigit, hnumber]
  next hdigit =>
  split at hleaf
  next hquote =>
    obtain ⟨s, hs, -⟩ := wrap_eq_ok hleaf
    have hstring := skipString_of_string hs
    refine ⟨(length_skipString hstring).le, fun fuel frames => ?_⟩
    rw [skip, h]
    dsimp only
    rw [if_neg hbracket, if_neg hbrace, if_neg hnull, if_neg htrue, if_neg hfalse, if_neg hminus,
      if_neg hdigit, if_pos hquote, hstring]
  next => cases hleaf

lemma skip_close (step : Skip) (hstep : step ≠ .value) {frame : Frame} {r : Bytes}
    (h : skipBlanks bs = frame.close :: r) :
    skip (fuel + 1) step (frame :: frames) bs = skip fuel .passed frames r := by
  cases step with
  | value => exact absurd rfl hstep
  | entered =>
    rw [skip, h]
    · exact if_pos rfl
    · nofun
  | passed =>
    rw [skip, h]
    · exact if_pos rfl
    · nofun

/-- The step of a machine that has entered an array or object: its first item comes, or another. -/
def inside (first : Bool) : Skip := if first then .entered else .passed

lemma skip_closing (frame : Frame) {r : Bytes} (h : skipBlanks bs = frame.close :: r) :
    skip (fuel + 1) (inside first) (frame :: frames) bs = skip fuel .passed frames r := by
  cases first
  · exact skip_close .passed nofun h
  · exact skip_close .entered nofun h

lemma Led.skip_item {t : Bytes} (h : Led first bs (b :: t)) (hb : b ≠ closeBracket) :
    ∃ u, skipBlanks u = b :: t ∧ u.length ≤ bs.length ∧ ∀ fuel frames,
      skip (fuel + 1) (inside first) (.array :: frames) bs =
        skip fuel .value (.array :: frames) u := by
  cases first with
  | true =>
    have hbs : skipBlanks bs = b :: t := h
    refine ⟨b :: t, hbs ▸ skipBlanks_skipBlanks bs, length_skipBlanks hbs, fun fuel frames => ?_⟩
    show skip (fuel + 1) .entered _ _ = _
    rw [skip, hbs]
    · exact if_neg hb
    · nofun
  | false =>
    obtain ⟨r, hbs, hr⟩ : ∃ r, skipBlanks bs = comma :: r ∧ skipBlanks r = b :: t := h
    refine ⟨r, hr, (length_skipBlanks hbs).le, fun fuel frames => ?_⟩
    show skip (fuel + 1) .passed _ _ = _
    rw [skip, hbs]
    · dsimp only
      rw [if_neg (by decide)]
      exact if_pos rfl
    · nofun

lemma length_afterColon (h : afterColon bs = .ok rest) : rest.length < bs.length := by
  unfold afterColon at h
  split at h
  next => cases h
  next hbs =>
    split at h
    next =>
      cases h
      exact length_skipBlanks hbs
    next => cases h

lemma skipKey_eq_ok {s : String} {t t' : Bytes} (h : skipBlanks bs = quote :: t)
    (hs : string t = .ok (s, t')) (hcolon : afterColon t' = .ok rest) :
    skipKey bs = .ok rest ∧ rest.length < bs.length := by
  have hstring := skipString_of_string hs
  have hlt := length_skipString hstring
  have hlt' := length_afterColon hcolon
  have hlt'' := length_skipBlanks h
  refine ⟨?_, by omega⟩
  unfold skipKey
  rw [h]
  dsimp only
  rw [if_pos rfl, hstring]
  exact hcolon

/-- The key of a member is passed over, and the colon after it. -/
lemma Led.skip_member {s : String} {t t' t'' : Bytes} (h : Led first bs (quote :: t))
    (hs : string t = .ok (s, t')) (hcolon : afterColon t' = .ok t'') :
    t''.length < bs.length ∧ ∀ fuel frames,
      skip (fuel + 1) (inside first) (.object :: frames) bs =
        skip fuel .value (.object :: frames) t'' := by
  cases first with
  | true =>
    have hbs : skipBlanks bs = quote :: t := h
    have hquote : skipBlanks (quote :: t) = quote :: t := hbs ▸ skipBlanks_skipBlanks bs
    obtain ⟨hkey, -⟩ := skipKey_eq_ok hquote hs hcolon
    refine ⟨(skipKey_eq_ok hbs hs hcolon).2, fun fuel frames => ?_⟩
    show skip (fuel + 1) .entered _ _ = _
    rw [skip, hbs]
    · dsimp only
      rw [if_neg (by decide), hkey]
    · nofun
  | false =>
    obtain ⟨r, hbs, hr⟩ : ∃ r, skipBlanks bs = comma :: r ∧ skipBlanks r = quote :: t := h
    obtain ⟨hkey, hlt⟩ := skipKey_eq_ok hr hs hcolon
    have hlt' := length_skipBlanks hbs
    refine ⟨by omega, fun fuel frames => ?_⟩
    show skip (fuel + 1) .passed _ _ = _
    rw [skip, hbs]
    · dsimp only
      rw [if_neg (by decide), if_pos rfl, hkey]
    · nofun

/-- A machine goes from a step to where a text has been passed and what it entered was left, in at
most two turns for each byte. -/
def Passes (step : Skip) (entered : List Frame) (bs rest : Bytes) : Prop :=
  ∃ k, k + 2 * rest.length < 2 * bs.length ∧ ∀ fuel frames,
    skip (k + fuel) step (entered ++ frames) bs = skip fuel .passed frames rest

/-- A value is passed within what was entered, and then the rest of it. -/
lemma Passes.value_cons {entered : List Frame} {r u : Bytes} {step : Skip}
    (h : Passes .value [] u r) (h' : Passes .passed entered r rest) (hle : u.length ≤ bs.length)
    (hstep : ∀ fuel frames, skip (fuel + 1) step (entered ++ frames) bs =
      skip fuel .value (entered ++ frames) u) : Passes step entered bs rest := by
  obtain ⟨k, hk, hskip⟩ := h
  obtain ⟨k', hk', hskip'⟩ := h'
  refine ⟨k + k' + 1, by omega, fun fuel frames => ?_⟩
  have hfuel : k + k' + 1 + fuel = (k + (k' + fuel)) + 1 := by omega
  rw [hfuel, hstep, ← hskip']
  exact hskip (k' + fuel) (entered ++ frames)

lemma value_skipBlanks (bs : Bytes) : value depth (skipBlanks bs) = value depth bs := by
  unfold value
  rw [skipBlanks_skipBlanks]

/-- Each item of an array takes the machine back to where it looks for the next. -/
lemma passes_items
    (hvalue : ∀ {bs v rest}, value depth bs = .ok (v, rest) → Passes .value [] bs rest)
    {vs : List Json} (h : items (value depth) fuel first bs = .ok (vs, rest)) :
    Passes (inside first) [.array] bs rest := by
  induction fuel generalizing first bs vs with
  | zero =>
    unfold items stop at h
    cases h
  | succ fuel ih =>
    obtain ⟨-, hend⟩ | ⟨b, t, v, r, vs', hled, hb, hv, hvs, -⟩ := items_cases h
    · have hlt := length_skipBlanks hend
      refine ⟨1, by omega, fun fuel frames => ?_⟩
      rw [Nat.add_comm]
      exact skip_closing .array hend
    · obtain ⟨u, hu, hle, hskip⟩ := hled.skip_item hb
      rw [← hu, value_skipBlanks] at hv
      exact (hvalue hv).value_cons (ih hvs) hle hskip

lemma passes_members
    (hvalue : ∀ {bs v rest}, value depth bs = .ok (v, rest) → Passes .value [] bs rest)
    {ms : Members} (h : members (value depth) fuel first bs = .ok (ms, rest)) :
    Passes (inside first) [.object] bs rest := by
  induction fuel generalizing first bs ms with
  | zero =>
    unfold members stop at h
    cases h
  | succ fuel ih =>
    obtain ⟨-, hend⟩ | ⟨t, k, t', t'', v, r, ms', hled, hk, hcolon, hv, hms, -⟩ := members_cases h
    · have hlt := length_skipBlanks hend
      refine ⟨1, by omega, fun fuel frames => ?_⟩
      rw [Nat.add_comm]
      exact skip_closing .object hend
    · obtain ⟨hlt, hskip⟩ := hled.skip_member hk hcolon
      exact (hvalue hv).value_cons (ih hms) hlt.le hskip

lemma Passes.enter {frame : Frame} {r : Bytes} (h : Passes .entered [frame] r rest)
    (hlt : r.length < bs.length)
    (hstep : ∀ fuel frames,
      skip (fuel + 1) .value frames bs = skip fuel .entered (frame :: frames) r) :
    Passes .value [] bs rest := by
  obtain ⟨k, hk, hskip⟩ := h
  refine ⟨k + 1, by omega, fun fuel frames => ?_⟩
  have hfuel : k + 1 + fuel = (k + fuel) + 1 := by omega
  rw [hfuel, List.nil_append, hstep]
  exact hskip fuel frames

lemma passes_leaf {r : Bytes} (h : skipBlanks bs = b :: r) (hbracket : b ≠ openBracket)
    (hbrace : b ≠ openBrace) (hleaf : leaf b r = .ok (v, rest)) : Passes .value [] bs rest := by
  obtain ⟨hle, hskip⟩ := skip_leaf h hbracket hbrace hleaf
  have hlt := length_skipBlanks h
  refine ⟨1, by omega, fun fuel frames => ?_⟩
  rw [Nat.add_comm]
  exact hskip fuel frames

theorem passes_value (h : value depth bs = .ok (v, rest)) : Passes .value [] bs rest := by
  induction depth generalizing bs v rest with
  | zero =>
    obtain ⟨b, r, hbs, hbracket, hbrace, hleaf⟩ | ⟨d, r, hd, -⟩ := value_cases h
    · exact passes_leaf hbs hbracket hbrace hleaf
    · cases hd
  | succ depth ih =>
    obtain ⟨b, r, hbs, hbracket, hbrace, hleaf⟩ |
      ⟨d, r, hd, ⟨vs, hbs, hvs, -⟩ | ⟨ms, hbs, hms, -⟩⟩ := value_cases h
    · exact passes_leaf hbs hbracket hbrace hleaf
    · cases hd
      have hitems : Passes (inside true) [.array] r rest := passes_items ih hvs
      exact hitems.enter (length_skipBlanks hbs) fun _ _ => skip_openBracket hbs
    · cases hd
      have hmembers : Passes (inside true) [.object] r rest := passes_members ih hms
      exact hmembers.enter (length_skipBlanks hbs) fun _ _ => skip_openBrace hbs

/-- **A value that can be read** is passed over, up to where reading it ends. -/
theorem skipValue_of_value (h : value depth bs = .ok (v, rest)) : skipValue bs = .ok rest := by
  obtain ⟨k, hk, hskip⟩ := passes_value h
  obtain ⟨n, hn⟩ : ∃ n, 2 * bs.length + 2 = k + (n + 1) := ⟨2 * bs.length + 1 - k, by omega⟩
  unfold skipValue
  rw [hn]
  exact hskip (n + 1) []

end Machine

end Courier.Json
