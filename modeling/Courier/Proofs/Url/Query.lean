import Courier.Endpoint
import Courier.Proofs.Text.Utf8

/-!
The pairs of a query.  Pairs that are added to a query are read from it after those that were there,
whatever characters they hold: the bytes of a key or a value are written so that neither `&` nor `=`
stands among them, and so that decoding gives them back.
-/

namespace Courier

open Text (Bytes)
open Text.Utf8 (byte encodeChar_of_ascii encode_append encode_cons ofString toNat_byte)

namespace Url

variable {b : UInt8} {n : Nat} {bs rest : Bytes} {cs : List Char}

/-! ### Bytes in a query -/

namespace Percent

/-- The byte of a digit. -/
def digit (n : Nat) : UInt8 := byte (hexDigit n).toNat

/-- A digit is none of the bytes that mean something else, and it is read as its value. -/
lemma digit_spec : ∀ n < 16, (hexDigit n).toNat < 0x80 ∧ digit n ≠ 38 ∧ digit n ≠ 61 ∧
    digit n ≠ 43 ∧ hexValue? (digit n) = some n := by
  decide

lemma encode_hexDigit (h : n < 16) : Text.Utf8.encodeChar (hexDigit n) = [digit n] :=
  encodeChar_of_ascii (digit_spec n h).1

lemma decode_cons (h : b ≠ 37) : decode (b :: rest) = b :: decode rest := by
  unfold decode
  rw [decodeAfter, if_neg h]

/-- Two digits after `%` are read as the byte that they write. -/
lemma decode_encoded {h l : UInt8} {m : Nat} (hh : hexValue? h = some n)
    (hl : hexValue? l = some m) :
    decode (37 :: h :: l :: rest) = UInt8.ofNat (n * 16 + m) :: decode rest := by
  have hpair : pair? (h :: l :: rest) = some (UInt8.ofNat (n * 16 + m)) := by
    show ((hexValue? h).bind fun n => (hexValue? l).bind fun m => some (UInt8.ofNat (n * 16 + m))) = _
    rw [hh, hl]
    rfl
  unfold decode
  rw [decodeAfter, if_pos rfl, hpair]
  rfl

end Percent

namespace Form

/-- The bytes as which a byte of a key or a value is written. -/
def written (b : UInt8) : Bytes := Text.Utf8.encode (encodeByte b)

/-- The bytes with spaces for the signs that stand for them. -/
def spaced (bs : Bytes) : Bytes := bs.map fun b => if b = 43 then 32 else b

lemma spaced_append (as bs : Bytes) : spaced (as ++ bs) = spaced as ++ spaced bs := List.map_append

/-- The byte of a number below 128 is written as its character. -/
lemma encodeChar_ofNat (hn : n < 0x80) : Text.Utf8.encodeChar (Char.ofNat n) = [byte n] := by
  have hback : (Char.ofNat n).toNat = n := by
    have hvalid : n.isValidChar := .inl (by omega)
    unfold Char.ofNat Char.ofNatAux Char.toNat
    rw [dif_pos hvalid]
    exact UInt32.toNat_ofNatLT
  rw [encodeChar_of_ascii (by rwa [hback]), hback]

/-- A byte that stands for itself is none of those that mean something else. -/
lemma written_of_isPlain (h : isPlain b = true) :
    written b = [b] ∧ b ≠ 38 ∧ b ≠ 61 ∧ b ≠ 43 ∧ b ≠ 37 := by
  have hsmall : b.toNat < 0x80 := by
    unfold isPlain at h
    simp only [Bool.or_eq_true, Bool.and_eq_true, decide_eq_true_eq, beq_iff_eq] at h
    omega
  refine ⟨?_, ?_, ?_, ?_, ?_⟩
  · unfold written encodeByte
    rw [if_pos h, encode_cons, encodeChar_ofNat hsmall]
    exact congrArg (· :: []) UInt8.ofNat_toNat
  all_goals
    rintro rfl
    cases h

/-- Any other byte but the space is written in two digits. -/
lemma written_of_encoded (h : isPlain b = false) (hspace : b ≠ 32) :
    written b = [37, Percent.digit (b.toNat / 16), Percent.digit (b.toNat % 16)] := by
  have hb := b.toNat_lt
  unfold written encodeByte
  rw [if_neg (by simp [h]), if_neg hspace]
  unfold Percent.encodeByte
  rw [encode_cons, encode_cons, encode_cons, encodeChar_of_ascii (c := '%') (by decide),
    Percent.encode_hexDigit (by omega), Percent.encode_hexDigit (by omega)]
  rfl

/-- Neither of the two marks of a query stands among the bytes of a key or a value. -/
lemma notMem_written (b : UInt8) : 38 ∉ written b ∧ 61 ∉ written b := by
  cases hplain : isPlain b with
  | true =>
    obtain ⟨hwritten, hamp, heq, -⟩ := written_of_isPlain hplain
    rw [hwritten, List.mem_singleton, List.mem_singleton]
    exact ⟨hamp.symm, heq.symm⟩
  | false =>
    by_cases hspace : b = 32
    · subst hspace
      decide
    · have hb := b.toNat_lt
      obtain ⟨-, hamp, heq, -⟩ := Percent.digit_spec (b.toNat / 16) (by omega)
      obtain ⟨-, hamp', heq', -⟩ := Percent.digit_spec (b.toNat % 16) (by omega)
      rw [written_of_encoded hplain hspace]
      simp [hamp.symm, hamp'.symm, heq.symm, heq'.symm]

/-- **A byte is read back**, whatever follows it. -/
lemma decode_written (b : UInt8) (rest : Bytes) :
    Percent.decode (spaced (written b ++ rest)) = b :: Percent.decode (spaced rest) := by
  rw [spaced_append]
  cases hplain : isPlain b with
  | true =>
    obtain ⟨hwritten, -, -, hplus, hpercent⟩ := written_of_isPlain hplain
    have hkept : spaced [b] = [b] := congrArg (· :: []) (if_neg hplus)
    rw [hwritten, hkept]
    exact Percent.decode_cons hpercent
  | false =>
    by_cases hspace : b = 32
    · subst hspace
      exact Percent.decode_cons (by decide)
    · have hb := b.toNat_lt
      obtain ⟨-, -, -, hplus, hvalue⟩ := Percent.digit_spec (b.toNat / 16) (by omega)
      obtain ⟨-, -, -, hplus', hvalue'⟩ := Percent.digit_spec (b.toNat % 16) (by omega)
      have hbyte : UInt8.ofNat (b.toNat / 16 * 16 + b.toNat % 16) = b := by
        rw [Nat.div_add_mod', UInt8.ofNat_toNat]
      rw [written_of_encoded hplain hspace]
      unfold spaced
      rw [List.map_cons, List.map_cons, List.map_cons, if_neg hplus, if_neg hplus']
      exact (Percent.decode_encoded hvalue hvalue').trans (congrArg (· :: _) hbyte)

/-! ### Keys and values -/

lemma encode_flatMap (bs : Bytes) :
    Text.Utf8.encode (bs.flatMap encodeByte) = bs.flatMap written := by
  induction bs with
  | nil => rfl
  | cons b bs ih => rw [List.flatMap_cons, List.flatMap_cons, encode_append, ih, written]

lemma notMem_encode (s : String) :
    38 ∉ Text.Utf8.encode (encode s) ∧ 61 ∉ Text.Utf8.encode (encode s) := by
  unfold encode
  rw [encode_flatMap]
  constructor
  all_goals
    intro h
    obtain ⟨b, -, hb⟩ := List.mem_flatMap.mp h
  · exact (notMem_written b).1 hb
  · exact (notMem_written b).2 hb

/-- **A key or a value is read back.** -/
theorem decodeText_encode (s : String) : decodeText (Text.Utf8.encode (encode s)) = s := by
  have hbytes : ∀ bs : Bytes, Percent.decode (spaced (bs.flatMap written)) = bs := by
    intro bs
    induction bs with
    | nil => rfl
    | cons b bs ih => rw [List.flatMap_cons, decode_written, ih]
  unfold encode decodeText
  rw [encode_flatMap]
  exact (congrArg Text.Utf8.toStringLossy (hbytes _)).trans (Text.Utf8.toStringLossy_ofString s)

/-! ### Pairs -/

lemma pieces_ne_nil (bs : Bytes) : pieces bs ≠ [] := by
  cases bs with
  | nil => exact List.cons_ne_nil _ _
  | cons b bs =>
    unfold pieces
    split
    · exact List.cons_ne_nil _ _
    · split <;> exact List.cons_ne_nil _ _

/-- What is divided by `&` has the pieces of both sides. -/
lemma pieces_append (as bs : Bytes) : pieces (as ++ 38 :: bs) = pieces as ++ pieces bs := by
  induction as with
  | nil => rfl
  | cons a as ih =>
    rw [List.cons_append, pieces, pieces, ih]
    split
    · rfl
    · cases has : pieces as with
      | nil => exact absurd has (pieces_ne_nil as)
      | cons p ps => rfl

lemma pieces_of_notMem (h : 38 ∉ bs) : pieces bs = [bs] := by
  induction bs with
  | nil => rfl
  | cons b bs ih =>
    rw [List.mem_cons, not_or] at h
    rw [pieces, if_neg (Ne.symm h.1), ih h.2]

/-- The piece that a pair is written as. -/
def piece (p : String × String) : Bytes :=
  Text.Utf8.encode (encode p.1) ++ 61 :: Text.Utf8.encode (encode p.2)

lemma encode_encodePair (p : String × String) : Text.Utf8.encode (encodePair p) = piece p := by
  unfold encodePair piece
  rw [encode_append, encode_cons]
  rfl

lemma notMem_piece (p : String × String) : 38 ∉ piece p := by
  unfold piece
  simp [notMem_encode]

/-- **A pair is read back** from its piece: the first `=` is the one between key and value. -/
lemma decodePair_piece (p : String × String) : decodePair (piece p) = p := by
  have hkey : ∀ b ∈ Text.Utf8.encode (encode p.1), decide (b ≠ 61) = true := by
    intro b hb
    exact decide_eq_true fun h => (notMem_encode p.1).2 (h ▸ hb)
  unfold decodePair piece
  rw [List.takeWhile_append_of_pos hkey, List.dropWhile_append_of_pos hkey]
  simp [decodeText_encode]

lemma decode_pair (p : String × String) : decode (encodePair p) = [p] := by
  have hfull : (piece p).isEmpty = false := by
    unfold piece
    simp
  unfold decode
  rw [encode_encodePair, pieces_of_notMem (notMem_piece p), List.filter_cons_of_pos (by simp [hfull])]
  exact congrArg (· :: []) (decodePair_piece p)

/-- What is divided by `&` has the pairs of both sides. -/
lemma decode_append (cs ds : List Char) : decode (cs ++ '&' :: ds) = decode cs ++ decode ds := by
  unfold decode
  rw [encode_append, encode_cons]
  show ((pieces (Text.Utf8.encode cs ++ 38 :: Text.Utf8.encode ds)).filter _).map _ = _
  rw [pieces_append, List.filter_append, List.map_append]

/-- **Pairs that are added to a query** are read from it after its own. -/
theorem decode_append_pairs (query : List Char) (pairs : List (String × String)) :
    decode (append query pairs) = decode query ++ pairs := by
  induction pairs generalizing query with
  | nil => exact (List.append_nil _).symm
  | cons p ps ih =>
    rw [append, ih]
    cases query with
    | nil =>
      show decode (encodePair p) ++ ps = decode [] ++ p :: ps
      rw [decode_pair]
      rfl
    | cons c cs =>
      have hdivided : (c :: cs) ++ ['&'] ++ encodePair p = (c :: cs) ++ '&' :: encodePair p :=
        List.append_assoc ..
      show decode ((c :: cs) ++ ['&'] ++ encodePair p) ++ ps = _
      rw [hdivided, decode_append, decode_pair, List.append_assoc]
      rfl

end Form

/-! ### Queries of URLs -/

/-- The pairs of the query of a URL. -/
def queryPairs (u : Url) : List (String × String) := Form.decode (u.query.getD "").toList

lemma queryPairs_addPairs (u : Url) (pairs : List (String × String)) :
    (u.addPairs pairs).queryPairs = u.queryPairs ++ pairs := by
  unfold addPairs
  split
  next hnone => rw [List.isEmpty_iff.mp hnone, List.append_nil]
  next =>
    show Form.decode (String.ofList (Form.append (u.query.getD "").toList pairs)).toList = _
    rw [String.toList_ofList]
    exact Form.decode_append_pairs _ _

/-- Two URLs differ in nothing but the query. -/
structure SameButQuery (u v : Url) : Prop where
  scheme : u.scheme = v.scheme
  authority : u.authority = v.authority
  path : u.path = v.path
  fragment : u.fragment = v.fragment

lemma sameButQuery_addPairs (u : Url) (pairs : List (String × String)) :
    SameButQuery (u.addPairs pairs) u := by
  unfold addPairs
  split <;> exact ⟨rfl, rfl, rfl, rfl⟩

end Url

/-! ### Queries of endpoints -/

namespace Endpoint

lemma resolve_of_read {e : Endpoint} {u : Url} (hread : Url.read e.url = .ok (.url u))
    (hweb : u.scheme.isWeb = true) : e.resolve = .ok (u.addPairs e.query) := by
  unfold resolve
  rw [hread]
  exact if_pos hweb

/-- **Queries survive.** An endpoint whose text is a web URL resolves to this URL with the pairs of the
endpoint after those of its own query, in order, and with nothing else changed; without pairs it
resolves to this URL itself. -/
theorem query_survives (e : Endpoint) {u : Url} (hread : Url.read e.url = .ok (.url u))
    (hweb : u.scheme.isWeb = true) :
    ∃ r, e.resolve = .ok r ∧ r.queryPairs = u.queryPairs ++ e.query ∧ r.SameButQuery u ∧
      (e.query = [] → r = u) := by
  refine ⟨_, resolve_of_read hread hweb, u.queryPairs_addPairs e.query,
    u.sameButQuery_addPairs e.query, fun hnone => ?_⟩
  rw [hnone]
  rfl

/-- Marks and doubles in a query, and a URL with a query and a fragment of its own. -/
def marked : Endpoint :=
  { method := .get
    url := "http://a/p?x=1&y#f"
    query := [("k&", "= +%"), ("", ""), ("k&", "é#")] }

theorem query_survives_of_marked : ∃ r, marked.resolve = .ok r ∧ r.fragment = some "f" ∧
    r.queryPairs = [("x", "1"), ("y", ""), ("k&", "= +%"), ("", ""), ("k&", "é#")] := by
  have hread : Url.read "http://a/p?x=1&y#f" = .ok (.url
      ⟨.http, ⟨"", "", .domain "a", none⟩, ["p"], some "x=1&y", some "f"⟩) := rfl
  have hown : Url.queryPairs ⟨.http, ⟨"", "", .domain "a", none⟩, ["p"], some "x=1&y", some "f"⟩ =
      [("x", "1"), ("y", "")] := rfl
  obtain ⟨r, hr, hpairs, hsame, -⟩ := query_survives marked hread rfl
  exact ⟨r, hr, hsame.fragment, by rw [hpairs, hown]; rfl⟩

end Endpoint

end Courier
