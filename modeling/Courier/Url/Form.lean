import Courier.Url.Percent

/-!
Form encoding of pairs of a key and a value, as it stands in the query of a URL: letters, digits
and `*-._` as they are, a space as `+`, and every other byte percent-encoded; `=` between key and
value, `&` between pairs.
-/

namespace Courier.Url.Form

open Text (Bytes)

/-! ### Writing -/

/-- Whether a byte stands for itself. -/
def isPlain (b : UInt8) : Bool :=
  let n := b.toNat
  (48 ≤ n && n ≤ 57) || (65 ≤ n && n ≤ 90) || (97 ≤ n && n ≤ 122) ||
    n == 42 || n == 45 || n == 46 || n == 95

def encodeByte (b : UInt8) : List Char :=
  if isPlain b then [Char.ofNat b.toNat]
  else if b = 32 then ['+']
  else Percent.encodeByte b

def encode (s : String) : List Char := (Text.Utf8.ofString s).flatMap encodeByte

def encodePair (p : String × String) : List Char := encode p.1 ++ '=' :: encode p.2

def append (query : List Char) : List (String × String) → List Char
  | [] => query
  | p :: ps =>
    append ((if query.isEmpty then [] else query ++ ['&']) ++ encodePair p) ps

/-! ### Reading -/

def pieces : Bytes → List Bytes
  | [] => [[]]
  | b :: bs =>
    if b = 38 then [] :: pieces bs
    else
      match pieces bs with
      | p :: ps => (b :: p) :: ps
      | [] => [[b]]

def decodeText (bs : Bytes) : String :=
  Text.Utf8.toStringLossy (Percent.decode (bs.map fun b => if b = 43 then 32 else b))

/-- The pair that a piece denotes; without `=` the value is empty. -/
def decodePair (piece : Bytes) : String × String :=
  (decodeText (piece.takeWhile (· ≠ 61)), decodeText ((piece.dropWhile (· ≠ 61)).drop 1))

/-- The pairs that a query denotes; empty pieces denote none. -/
def decode (query : List Char) : List (String × String) :=
  ((pieces (Text.Utf8.encode query)).filter (! ·.isEmpty)).map decodePair

end Courier.Url.Form
