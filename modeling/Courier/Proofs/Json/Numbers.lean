import Courier.Proofs.Json.Canonical
import Courier.Proofs.Json.Records
import Mathlib.Data.List.Infix

/-!
Where the reading of a number stops.  A number is read from the front of a text, and what it is does
not depend on what stands behind it, as long as that is nothing with which a number goes on.  So a
number that is the whole of a text is read alike wherever its text stands.
-/

namespace Courier.Json

open Text (Bytes)
open Text.Utf8 (encode encode_cons encode_append ofString)

variable {α β : Type} {bs rest : Bytes}

/-! ### Readers of a front -/

/-- A reader reads the front of a text and leaves the rest to others.  It reads the same when more
stands behind, if a number does not go on there. -/
def ReadsFront (f : Bytes → Except Stop (α × Bytes)) : Prop :=
  ∀ bs a r, f bs = .ok (a, r) →
    r <:+ bs ∧ ∀ rest, Fenced rest → f (bs ++ rest) = .ok (a, r ++ rest)

/-- One reader after another. -/
lemma ReadsFront.bind {f : Bytes → Except Stop (α × Bytes)}
    {g : α → Bytes → Except Stop (β × Bytes)} (hf : ReadsFront f) (hg : ∀ a, ReadsFront (g a)) :
    ReadsFront fun bs => f bs >>= fun p => g p.1 p.2 := by
  intro bs b r h
  obtain ⟨⟨a, r'⟩, ha, hb⟩ := bind_eq_ok_iff.mp h
  obtain ⟨suffix, more⟩ := hf bs a r' ha
  obtain ⟨suffix', more'⟩ := hg a r' b r hb
  refine ⟨suffix'.trans suffix, fun rest hrest => ?_⟩
  show (f (bs ++ rest) >>= _) = _
  rw [more rest hrest]
  exact more' rest hrest

lemma readsFront_pure (a : α) : ReadsFront fun bs => .ok (a, bs) := by
  intro bs b r h
  cases h
  exact ⟨List.suffix_rfl, fun _ _ => rfl⟩

/-! ### Parts of a number -/

/-- A run of digits ends where the text ends, if no digit follows. -/
lemma digitRun_fenced (bs : Bytes) (hrest : Fenced rest) :
    digitRun (bs ++ rest) = ((digitRun bs).1, (digitRun bs).2 ++ rest) := by
  induction bs with
  | nil => exact digitRun_append (fun _ => nofun) fun b hb => (hrest b hb).1
  | cons b bs ih =>
    unfold digitRun at ih ⊢
    cases hb : isDigit b with
    | false => simp [hb]
    | true =>
      obtain ⟨run, left⟩ := Prod.mk.inj ih
      simp only [List.cons_append, List.takeWhile_cons, List.dropWhile_cons, hb, if_true,
        List.map_cons, run, left]

lemma suffix_digitRun (bs : Bytes) : (digitRun bs).2 <:+ bs := List.dropWhile_suffix _

lemma readsFront_wholePart : ReadsFront wholePart := by
  intro bs ds r h
  unfold wholePart at h
  split at h
  case h_1 => cases h
  case h_2 b bs =>
    split at h
    case isTrue zero =>
      -- nothing follows a leading zero in a whole part, so the reader looks at one byte more
      subst zero
      cases bs with
      | nil =>
        cases h
        refine ⟨List.suffix_cons _ _, fun rest hrest => ?_⟩
        have none_before : wholePart ([48] ++ rest) = .ok ([0], rest) := by
          cases rest with
          | nil => rfl
          | cons c rest => simp [wholePart, (hrest c rfl).1]
        exact none_before
      | cons c bs =>
        cases hc : isDigit c with
        | true => simp [hc, stopAt] at h
        | false =>
          simp only [hc, Bool.false_eq_true, if_false] at h
          cases h
          exact ⟨List.suffix_cons _ _, fun rest _ => by simp [wholePart, hc]⟩
    case isFalse not_zero =>
      split at h
      case isFalse => cases h
      case isTrue digit =>
        have run := Except.ok.inj h
        refine ⟨?_, fun rest hrest => ?_⟩
        · have suffix := suffix_digitRun (b :: bs)
          rwa [run] at suffix
        · have more := digitRun_fenced (b :: bs) hrest
          rw [run] at more
          simp only [List.cons_append] at more
          simp [wholePart, not_zero, digit, more]

lemma readsFront_fractionPart : ReadsFront fractionPart? := by
  intro bs ds r h
  unfold fractionPart? at h
  split at h
  case h_2 =>
    cases h
    refine ⟨List.suffix_rfl, fun rest hrest => ?_⟩
    cases rest with
    | nil => rfl
    | cons c rest => exact if_neg (hrest c rfl).2.1
  case h_1 b bs =>
    split at h
    case isFalse no_point =>
      cases h
      exact ⟨List.suffix_rfl, fun rest _ => if_neg no_point⟩
    case isTrue is_point =>
      subst is_point
      split at h
      case h_1 => cases h
      case h_2 => cases h
      case h_3 ds r' _ not_cut run =>
        cases h
        have some_digit : ds ≠ [] := by
          rintro rfl
          cases r with
          | nil => simp_all
          | cons c r => exact not_cut c r rfl rfl
        obtain ⟨d, ds, rfl⟩ := List.exists_cons_of_ne_nil some_digit
        refine ⟨?_, fun rest hrest => ?_⟩
        · have suffix := suffix_digitRun bs
          rw [run] at suffix
          exact suffix.trans (List.suffix_cons _ _)
        · have more := digitRun_fenced bs hrest
          rw [run] at more
          simp [fractionPart?, more]

/-- The digits of an exponent whose sign was passed. -/
def exponentDigits (negative : Bool) (bs : Bytes) : Except Stop ((Bool × List Nat) × Bytes) :=
  match bs with
  | [] => stop .endInValue []
  | b :: r => if isDigit b then .ok ((negative, (digitRun bs).1), (digitRun bs).2)
    else stop .invalidNumber r

lemma exponentPart_cons (b : UInt8) (bs : Bytes) : exponentPart (b :: bs) =
    if b = plus then exponentDigits false bs
    else if b = minus then exponentDigits true bs else exponentDigits false (b :: bs) := by
  unfold exponentPart
  dsimp only
  by_cases is_plus : b = plus
  · rw [if_pos is_plus, if_pos is_plus]
    cases bs <;> rfl
  by_cases is_minus : b = minus
  · rw [if_neg is_plus, if_neg is_plus, if_pos is_minus, if_pos is_minus]
    cases bs <;> rfl
  · rw [if_neg is_plus, if_neg is_plus, if_neg is_minus, if_neg is_minus]
    rfl

lemma readsFront_exponentDigits (negative : Bool) : ReadsFront (exponentDigits negative) := by
  intro bs ds r h
  unfold exponentDigits at h
  split at h
  case h_1 => cases h
  case h_2 b bs =>
    split at h
    case isFalse => cases h
    case isTrue digit =>
      cases h
      refine ⟨suffix_digitRun _, fun rest hrest => ?_⟩
      have more := digitRun_fenced (b :: bs) hrest
      rw [List.cons_append] at more ⊢
      simp [exponentDigits, digit, more]

lemma readsFront_exponentPart : ReadsFront exponentPart := by
  intro bs ds r h
  cases bs with
  | nil => cases h
  | cons b bs =>
    rw [exponentPart_cons] at h
    simp only [List.cons_append, exponentPart_cons]
    split at h
    case isTrue is_plus =>
      obtain ⟨suffix, more⟩ := readsFront_exponentDigits _ bs ds r h
      refine ⟨suffix.trans (List.suffix_cons _ _), fun rest hrest => ?_⟩
      rw [if_pos is_plus, more rest hrest]
    case isFalse not_plus =>
      split at h
      case isTrue is_minus =>
        obtain ⟨suffix, more⟩ := readsFront_exponentDigits _ bs ds r h
        refine ⟨suffix.trans (List.suffix_cons _ _), fun rest hrest => ?_⟩
        rw [if_neg not_plus, if_pos is_minus, more rest hrest]
      case isFalse not_minus =>
        obtain ⟨suffix, more⟩ := readsFront_exponentDigits _ (b :: bs) ds r h
        refine ⟨suffix, fun rest hrest => ?_⟩
        rw [if_neg not_plus, if_neg not_minus]
        exact more rest hrest

lemma readsFront_exponentPart? : ReadsFront exponentPart? := by
  intro bs ds r h
  unfold exponentPart? at h
  split at h
  case h_2 =>
    cases h
    refine ⟨List.suffix_rfl, fun rest hrest => ?_⟩
    cases rest with
    | nil => rfl
    | cons c rest => simp [exponentPart?, (hrest c rfl).2.2]
  case h_1 b bs =>
    split at h
    case isFalse no_mark =>
      cases h
      exact ⟨List.suffix_rfl, fun rest _ => if_neg no_mark⟩
    case isTrue mark =>
      split at h
      case h_2 => cases h
      case h_1 e r' read =>
        cases h
        obtain ⟨suffix, more⟩ := readsFront_exponentPart bs e r read
        refine ⟨suffix.trans (List.suffix_cons _ _), fun rest hrest => ?_⟩
        simp [exponentPart?, mark, more rest hrest]

/-! ### Numbers -/

lemma readsFront_digits (negative : Bool) : ReadsFront (digits negative) :=
  readsFront_wholePart.bind fun _ => readsFront_fractionPart.bind fun _ =>
    readsFront_exponentPart?.bind fun _ => readsFront_pure _

lemma readsFront_numeral (negative : Bool) : ReadsFront (numeral negative) := by
  intro bs n r h
  obtain ⟨⟨d, r'⟩, hd, hn⟩ := bind_eq_ok_iff.mp h
  obtain ⟨suffix, more⟩ := readsFront_digits negative bs d r' hd
  cases hvalue : d.numeral? with
  | none =>
    dsimp only at hn
    rw [hvalue] at hn
    cases hn
  | some m =>
    dsimp only at hn
    rw [hvalue] at hn
    cases hn
    refine ⟨suffix, fun rest hrest => ?_⟩
    unfold numeral
    rw [more rest hrest]
    dsimp only [bind, Except.bind]
    rw [hvalue]
    rfl

/-- A number that is read at the front of a text, once its first byte is known. -/
lemma leaf_num {b : UInt8} {n : Numeral} {r : Bytes} (h : leaf b bs = .ok (.num n, r)) :
    r <:+ b :: bs ∧ ∀ rest, Fenced rest → leaf b (bs ++ rest) = .ok (.num n, r ++ rest) := by
  have no_word {w : Json} {tail : List UInt8} (hw : wordValue w tail bs = .ok (.num n, r))
      (other : Json.num n ≠ w) : False := other (wordValue_eq_ok hw)
  unfold leaf at h
  split at h
  · exact (no_word h nofun).elim
  split at h
  · exact (no_word h nofun).elim
  split at h
  · exact (no_word h nofun).elim
  next not_null not_true not_false =>
  split at h
  next is_minus =>
    obtain ⟨m, hm, hn⟩ := wrap_eq_ok h
    cases hn
    obtain ⟨suffix, more⟩ := readsFront_numeral true bs n r hm
    refine ⟨suffix.trans (List.suffix_cons _ _), fun rest hrest => ?_⟩
    unfold leaf
    rw [if_neg not_null, if_neg not_true, if_neg not_false, if_pos is_minus, more rest hrest]
    rfl
  next not_minus =>
  split at h
  next digit =>
    obtain ⟨m, hm, hn⟩ := wrap_eq_ok h
    cases hn
    obtain ⟨suffix, more⟩ := readsFront_numeral false (b :: bs) n r hm
    refine ⟨suffix, fun rest hrest => ?_⟩
    have hmore := more rest hrest
    rw [List.cons_append] at hmore
    unfold leaf
    rw [if_neg not_null, if_neg not_true, if_neg not_false, if_neg not_minus, if_pos digit, hmore]
    rfl
  · split at h
    · obtain ⟨m, -, hn⟩ := wrap_eq_ok h
      cases hn
    · cases h

/-! ### The text of a binary64 number -/

/-- A byte that stands in the text of a number. -/
def InNumber (b : UInt8) : Prop :=
  isDigit b = true ∨ b = minus ∨ b = plus ∨ b = point ∨ isExponentMark b = true

lemma InNumber.not_blank {b : UInt8} (h : InNumber b) : isBlank b = false := by
  obtain hb | rfl | rfl | rfl | hb := h
  · exact (of_isDigit hb).1
  · rfl
  · rfl
  · rfl
  · unfold isExponentMark at hb
    simp only [Bool.or_eq_true, beq_iff_eq] at hb
    obtain rfl | rfl := hb <;> rfl

lemma InNumber.not_bracket {b : UInt8} (h : InNumber b) :
    b ≠ openBracket ∧ b ≠ openBrace ∧ b ≠ closeBracket := by
  obtain hb | rfl | rfl | rfl | hb := h
  · exact ⟨ne_of_isDigit hb rfl, ne_of_isDigit hb rfl, ne_of_isDigit hb rfl⟩
  · decide
  · decide
  · decide
  · unfold isExponentMark at hb
    simp only [Bool.or_eq_true, beq_iff_eq] at hb
    obtain rfl | rfl := hb <;> decide

/-- A character that stands in the text of a number. -/
def Numeric (c : Char) : Prop := c.isDigit = true ∨ c = '-' ∨ c = '+' ∨ c = '.' ∨ c = 'e'

lemma inNumber_of_encode {cs : List Char} (h : ∀ c ∈ cs, Numeric c) :
    ∀ b ∈ encode cs, InNumber b := by
  induction cs with
  | nil => exact fun _ => nofun
  | cons c cs ih =>
    intro b hb
    rw [encode_cons] at hb
    rcases List.mem_append.mp hb with hb | hb
    · have numeric := h c List.mem_cons_self
      have ascii : c.toNat < 0x80 := by
        obtain hc | rfl | rfl | rfl | rfl := numeric
        · have hle := toNat_of_isDigit hc
          omega
        all_goals decide
      rw [Text.Utf8.encodeChar_of_ascii ascii, List.mem_singleton] at hb
      subst hb
      obtain hc | rfl | rfl | rfl | rfl := numeric
      · exact .inl (isDigit_byte hc)
      · exact .inr (.inl rfl)
      · exact .inr (.inr (.inl rfl))
      · exact .inr (.inr (.inr (.inl rfl)))
      · exact .inr (.inr (.inr (.inr rfl)))
    · exact ih (fun c hc => h c (List.mem_cons_of_mem _ hc)) b hb

section Layout

variable {ds : List Char} (hds : ∀ c ∈ ds, c.isDigit = true)
include hds

lemma numeric_positional (power : Int) (pointZero : Bool) :
    ∀ c ∈ Number.positionalText ds power pointZero, Numeric c := by
  have zeros {n : Nat} {c : Char} (hc : c ∈ List.replicate n '0') : Numeric c := by
    rw [List.eq_of_mem_replicate hc]
    exact .inl rfl
  intro c hc
  unfold Number.positionalText at hc
  split at hc
  · rcases List.mem_append.mp hc with hc | hc
    · rcases List.mem_append.mp hc with hc | hc
      · exact .inl (hds c hc)
      · exact zeros hc
    · cases pointZero with
      | false => cases hc
      | true =>
        obtain rfl | rfl : c = '.' ∨ c = '0' := by simpa using hc
        · exact .inr (.inr (.inr (.inl rfl)))
        · exact .inl rfl
  · have padded {n : Nat} {c : Char} (hc : c ∈ List.replicate n '0' ++ ds) : Numeric c :=
      (List.mem_append.mp hc).elim zeros fun hc => .inl (hds c hc)
    rcases List.mem_append.mp hc with hc | hc
    · exact padded (List.mem_of_mem_take hc)
    · rcases List.mem_cons.mp hc with rfl | hc
      · exact .inr (.inr (.inr (.inl rfl)))
      · exact padded (List.mem_of_mem_drop hc)

lemma numeric_scientific (power : Int) :
    ∀ c ∈ Number.scientificText ds power, Numeric c := by
  intro c hc
  unfold Number.scientificText at hc
  dsimp only at hc
  rcases List.mem_append.mp hc with hc | hc
  · rcases List.mem_append.mp hc with hc | hc
    · rcases List.mem_append.mp hc with hc | hc
      · exact .inl (hds c (List.mem_of_mem_take hc))
      · split at hc
        · cases hc
        · rcases List.mem_cons.mp hc with rfl | hc
          · exact .inr (.inr (.inr (.inl rfl)))
          · exact .inl (hds c (List.mem_of_mem_drop hc))
    · split at hc
      · obtain rfl | rfl : c = 'e' ∨ c = '-' := by simpa using hc
        · exact .inr (.inr (.inr (.inr rfl)))
        · exact .inr (.inl rfl)
      · obtain rfl | rfl : c = 'e' ∨ c = '+' := by simpa using hc
        · exact .inr (.inr (.inr (.inr rfl)))
        · exact .inr (.inr (.inl rfl))
  · exact .inl (isDigit_digitsOf c hc)

end Layout

lemma numeric_text (layout : Number.Layout) (x : Number.Binary64) :
    ∀ c ∈ (layout.text x).toList, Numeric c := by
  intro c hc
  unfold Number.Layout.text at hc
  dsimp only at hc
  rw [String.toList_ofList] at hc
  have body {c : Char} (hc : c ∈ if x.significand = 0 ∨ layout.positional
      ((Number.Shortest.decimal x).exponent +
        (Number.digitsOf (Number.Shortest.decimal x).digits).length - 1) then
      Number.positionalText (Number.digitsOf (Number.Shortest.decimal x).digits)
        (Number.Shortest.decimal x).exponent layout.pointZero
      else Number.scientificText (Number.digitsOf (Number.Shortest.decimal x).digits)
        (Number.Shortest.decimal x).exponent) : Numeric c := by
    split at hc
    · exact numeric_positional isDigit_digitsOf _ _ c hc
    · exact numeric_scientific isDigit_digitsOf _ c hc
  split at hc
  · rcases List.mem_cons.mp hc with rfl | hc
    · exact .inr (.inl rfl)
    · exact body hc
  · exact body hc

/-- What is found in a text that is the whole of it. -/
lemma parse_eq_ok_iff {v : Json} :
    parse bs = .ok v ↔ ∃ r, value maxDepth bs = .ok (v, r) ∧ skipBlanks r = [] := by
  unfold parse readWith whole
  rw [mapError_eq_ok_iff, bind_eq_ok_iff]
  constructor
  · rintro ⟨⟨w, r⟩, hw, hend⟩
    dsimp only at hend
    cases hr : skipBlanks r with
    | nil =>
      rw [hr] at hend
      cases hend
      exact ⟨r, hw, hr⟩
    | cons b r' =>
      rw [hr] at hend
      cases hend
  · rintro ⟨r, hv, hr⟩
    refine ⟨(v, r), hv, ?_⟩
    dsimp only
    rw [hr]
    rfl

/-- The text of a number alone is the number to its end. -/
lemma leaf_of_parse {cs : List Char} {n : Numeral} (numeric : ∀ c ∈ cs, Numeric c)
    (h : parse (encode cs) = .ok (.num n)) :
    ∃ b bs, encode cs = b :: bs ∧ InNumber b ∧ leaf b bs = .ok (.num n, []) := by
  have bytes := inNumber_of_encode numeric
  obtain ⟨r, hread, hend⟩ := parse_eq_ok_iff.mp h
  cases hcs : encode cs with
  | nil =>
    rw [hcs] at hread
    cases hread
  | cons b bs =>
    rw [hcs] at hread bytes
    have hb := bytes b List.mem_cons_self
    rw [value_of_leaf (skipBlanks_of_not hb.not_blank) hb.not_bracket.1 hb.not_bracket.2.1] at hread
    refine ⟨b, bs, rfl, hb, ?_⟩
    cases r with
    | nil => exact hread
    | cons c r =>
      have hc := bytes c ((leaf_num hread).1.subset List.mem_cons_self)
      rw [skipBlanks_of_not hc.not_blank] at hend
      cases hend

/-! ### Numbers in values -/

/-- The text of a binary64 number is read as a number. -/
def ReadAs (x : Number.Binary64) (n : Numeral) : Prop :=
  parse (ofString (compact (.num (.real x)))) = .ok (.num n)

lemma readAs_of_numeral {x : Number.Binary64} {n : Numeral} {b : UInt8}
    (htext : ofString (compact (.num (.real x))) = b :: bs) (hb : isDigit b = true)
    (hread : numeral false (b :: bs) = .ok (n, [])) : ReadAs x n := by
  unfold ReadAs
  rw [htext]
  refine parse_eq_ok_iff.mpr ⟨[], ?_, rfl⟩
  rw [value_of_isDigit (skipBlanks_of_not (of_isDigit hb).1) hb, hread]
  rfl

/-- Each binary64 number in a value is read from its own text. -/
def Legible (v : Json) : Prop := ∀ x, Holds (.num (.real x)) v → ReadAs x (.real x)

mutual

/-- The value with other numbers in the place of its binary64 numbers. -/
def mapReals (f : Number.Binary64 → Numeral) : Json → Json
  | .num (.real x) => .num (f x)
  | .arr vs => .arr (mapRealsItems f vs)
  | .obj ms => .obj (mapRealsMembers f ms)
  | v => v

def mapRealsItems (f : Number.Binary64 → Numeral) : List Json → List Json
  | [] => []
  | v :: vs => mapReals f v :: mapRealsItems f vs

def mapRealsMembers (f : Number.Binary64 → Numeral) : List (String × Json) → List (String × Json)
  | [] => []
  | (k, v) :: ms => (k, mapReals f v) :: mapRealsMembers f ms

end

section MapReals

variable {f : Number.Binary64 → Numeral}

@[simp]
lemma mapRealsItems_eq (vs : List Json) : mapRealsItems f vs = vs.map (mapReals f) := by
  induction vs with
  | nil => rfl
  | cons v vs ih => rw [mapRealsItems, ih, List.map_cons]

@[simp]
lemma mapRealsMembers_eq (ms : Members) :
    mapRealsMembers f ms = ms.map fun m => (m.1, mapReals f m.2) := by
  induction ms with
  | nil => rfl
  | cons m ms ih => rw [mapRealsMembers, ih, List.map_cons]

lemma map_eq_self_iff {g : α → α} {as : List α} : as.map g = as ↔ ∀ a ∈ as, g a = a := by
  have same := List.map_inj_left (l := as) (f := g) (g := id)
  rwa [List.map_id] at same

/-- A value stays as it is just where each of its binary64 numbers does. -/
lemma mapReals_eq_self_iff {depth : Nat} {v : Json} (h : Canonical depth v) :
    mapReals f v = v ↔ ∀ x, Holds (.num (.real x)) v → f x = .real x := by
  induction h with
  | null | bool | str => exact iff_of_true (by simp [mapReals]) fun _ => nofun
  | @num depth n sized =>
    cases n with
    | int i =>
      refine iff_of_true (by simp [mapReals]) fun x hx => ?_
      cases hx
    | real x =>
      rw [mapReals]
      constructor
      · intro h y hy
        cases hy
        simpa using h
      · intro h
        rw [h x .self]
  | @arr depth vs items ih =>
    rw [mapReals, mapRealsItems_eq, Json.arr.injEq, map_eq_self_iff]
    constructor
    · intro h x hx
      cases hx with
      | item mem hx => exact (ih _ mem).mp (h _ mem) x hx
    · intro h v hv
      exact (ih v hv).mpr fun x hx => h x (.item hv hx)
  | @obj depth ms ordered members ih =>
    rw [mapReals, mapRealsMembers_eq, Json.obj.injEq, map_eq_self_iff]
    constructor
    · intro h x hx
      cases hx with
      | member mem hx => exact (ih _ mem).mp (congrArg Prod.snd (h _ mem)) x hx
    · intro h m hm
      rw [(ih m hm).mpr fun x hx => h x (.member hm hx)]

end MapReals

end Courier.Json
