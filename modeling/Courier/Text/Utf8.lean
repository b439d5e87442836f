/-!
The UTF-8 form of text: the bytes of a character, and the reading of bytes as characters, in
which every maximal part that begins no character is marked.  Strict reading fails on a mark;
lenient reading puts U+FFFD in its place.
-/

namespace Courier.Text

abbrev Bytes := List UInt8

end Courier.Text

namespace Courier.Text.Utf8

/-! ### Writing -/

/-- The byte of a number below 256. -/
def byte (n : Nat) : UInt8 := UInt8.ofNat n

def encodeChar (c : Char) : Bytes :=
  let v := c.toNat
  if v < 0x80 then [byte v]
  else if v < 0x800 then [byte (0xC0 + v / 64), byte (0x80 + v % 64)]
  else if v < 0x10000 then
    [byte (0xE0 + v / 4096), byte (0x80 + v / 64 % 64), byte (0x80 + v % 64)]
  else
    [byte (0xF0 + v / 262144), byte (0x80 + v / 4096 % 64), byte (0x80 + v / 64 % 64),
      byte (0x80 + v % 64)]

/-- The UTF-8 bytes of a run of characters. -/
def encode (cs : List Char) : Bytes := cs.flatMap encodeChar

def ofString (s : String) : Bytes := encode s.toList

/-! ### Reading -/

/-- A sequence that has begun: how many bytes are to follow, the range the next of them has to
lie in, and the bits gathered so far. -/
structure Pending where
  need : Nat
  low : Nat
  high : Nat
  bits : Nat
  deriving DecidableEq, Repr

/-- What a byte begins when no sequence is pending. -/
inductive Lead
  /-- a character of one byte -/
  | single (c : Char)
  /-- a longer sequence -/
  | opens (p : Pending)
  /-- nothing -/
  | broken
  deriving DecidableEq, Repr

/-- What the byte of value `b` begins.  Second bytes are narrowed where an overlong form, a
surrogate or a number above U+10FFFF would follow. -/
def lead (b : Nat) : Lead :=
  if b < 0x80 then .single (Char.ofNat b)
  else if b < 0xC2 then .broken
  else if b < 0xE0 then .opens ⟨1, 0x80, 0xBF, b - 0xC0⟩
  else if b = 0xE0 then .opens ⟨2, 0xA0, 0xBF, 0⟩
  else if b = 0xED then .opens ⟨2, 0x80, 0x9F, 0xD⟩
  else if b < 0xF0 then .opens ⟨2, 0x80, 0xBF, b - 0xE0⟩
  else if b = 0xF0 then .opens ⟨3, 0x90, 0xBF, 0⟩
  else if b < 0xF4 then .opens ⟨3, 0x80, 0xBF, b - 0xF0⟩
  else if b = 0xF4 then .opens ⟨3, 0x80, 0x8F, 4⟩
  else .broken

/-- The characters that a byte completes at once when no sequence is pending (`none` marks a
broken part), and the sequence it leaves pending. -/
def start (b : UInt8) : List (Option Char) × Option Pending :=
  match lead b.toNat with
  | .single c => ([some c], none)
  | .opens p => ([], some p)
  | .broken => ([none], none)

/-- The characters of the bytes, `none` for every maximal part that is no character. -/
def scan : Option Pending → Bytes → List (Option Char)
  | none, [] => []
  | some _, [] => [none]
  | none, b :: bs => (start b).1 ++ scan (start b).2 bs
  | some p, b :: bs =>
    if p.low ≤ b.toNat ∧ b.toNat ≤ p.high then
      if p.need = 1 then some (Char.ofNat (p.bits * 64 + b.toNat % 64)) :: scan none bs
      else scan (some ⟨p.need - 1, 0x80, 0xBF, p.bits * 64 + b.toNat % 64⟩) bs
    else none :: ((start b).1 ++ scan (start b).2 bs)

def decode? (bs : Bytes) : Option (List Char) := (scan none bs).mapM id

def toString? (bs : Bytes) : Option String := (decode? bs).map String.ofList

/-- How many bytes stand before the first that belongs to no character. -/
def soundLength (bs : Bytes) : Nat :=
  (encode (((scan none bs).takeWhile Option.isSome).filterMap id)).length

/-- The string of any bytes, U+FFFD standing for every maximal broken part. -/
def toStringLossy (bs : Bytes) : String :=
  String.ofList ((scan none bs).map (·.getD (Char.ofNat 0xFFFD)))

end Courier.Text.Utf8
