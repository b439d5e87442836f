import Courier.Text.Utf8

/-!
Percent encoding: a byte written as `%` and two hexadecimal digits.  Which characters of a part of
a URL are encoded is a set of that part; characters outside ASCII and controls are always encoded.
-/

namespace Courier.Url.Percent

open Text (Bytes)

/-! ### Sets -/

/-- Controls and all characters outside ASCII. -/
def controls (c : Char) : Bool := c.toNat < 0x20 || 0x7F ≤ c.toNat

def fragment (c : Char) : Bool := controls c || [' ', '"', '<', '>', '`'].contains c

/-- The characters encoded in the query of a URL with a web scheme. -/
def query (c : Char) : Bool := controls c || [' ', '"', '#', '<', '>', '\''].contains c

def path (c : Char) : Bool := fragment c || ['#', '?', '\x7b', '\x7d'].contains c

/-- The characters encoded in a user name or a password. -/
def userinfo (c : Char) : Bool :=
  path c || ['/', ':', ';', '=', '@', '[', '\\', ']', '^', '|'].contains c

/-! ### Encoding -/

def hexDigit (n : Nat) : Char := if n < 10 then Char.ofNat (48 + n) else Char.ofNat (55 + n)

def encodeByte (b : UInt8) : List Char :=
  ['%', hexDigit (b.toNat / 16), hexDigit (b.toNat % 16)]

/-- A character, encoded if it is in the set. -/
def encodeChar (set : Char → Bool) (c : Char) : List Char :=
  if set c then (Text.Utf8.encodeChar c).flatMap encodeByte else [c]

def encode (set : Char → Bool) (cs : List Char) : List Char := cs.flatMap (encodeChar set)

/-! ### Decoding -/

def hexValue? (b : UInt8) : Option Nat :=
  let n := b.toNat
  if 48 ≤ n ∧ n ≤ 57 then some (n - 48)
  else if 97 ≤ n ∧ n ≤ 102 then some (n - 87)
  else if 65 ≤ n ∧ n ≤ 70 then some (n - 55)
  else none

/-- The byte that the two digits at the front write. -/
def pair? : Bytes → Option UInt8
  | h :: l :: _ => do return UInt8.ofNat ((← hexValue? h) * 16 + (← hexValue? l))
  | _ => none

/-- The decoded bytes after the given number of bytes. -/
def decodeAfter : Nat → Bytes → Bytes
  | _, [] => []
  | k + 1, _ :: rest => decodeAfter k rest
  | 0, b :: rest =>
    match if b = 37 then pair? rest else none with
    | some x => x :: decodeAfter 2 rest
    | none => b :: decodeAfter 0 rest

/-- The bytes with encoded ones decoded; a `%` without two digits stands for itself. -/
def decode (bs : Bytes) : Bytes := decodeAfter 0 bs

end Courier.Url.Percent
