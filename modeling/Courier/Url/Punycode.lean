/-!
Punycode: text written with ASCII letters, digits and hyphens.  The ASCII characters come first,
then a number for each other character, which tells how far to go on among all characters and all
places for it.
-/

namespace Courier.Url.Punycode

def base : Nat := 36
def tMin : Nat := 1
def tMax : Nat := 26
def skew : Nat := 38
def damp : Nat := 700
def firstBias : Nat := 72
def firstCode : Nat := 128

/-! ### Bias -/

/-- The quotient after dividing by `base - tMin` until at most the bound is left, and how often
that took `base`.  The number of divisions is at most `fuel`. -/
def reduce : (fuel : Nat) → Nat → Nat → Nat × Nat
  | 0, delta, k => (delta, k)
  | fuel + 1, delta, k =>
    if (base - tMin) * tMax / 2 < delta then reduce fuel (delta / (base - tMin)) (k + base)
    else (delta, k)

/-- The bias after a number, by the count of characters placed. -/
def adapt (delta count : Nat) (first : Bool) : Nat :=
  let delta := if first then delta / damp else delta / 2
  let delta := delta + delta / count
  let (delta, k) := reduce delta delta 0
  k + (base - tMin + 1) * delta / (delta + skew)

def threshold (k bias : Nat) : Nat := if k ≤ bias then tMin else min tMax (k - bias)

/-! ### Encoding -/

/-- The letter or digit of a value below `base`. -/
def digit (n : Nat) : Char := if n < 26 then Char.ofNat (97 + n) else Char.ofNat (22 + n)

/-- The digits of a number from the place `k` on. -/
def encodeNumber : (fuel : Nat) → (q k bias : Nat) → List Char
  | 0, _, _, _ => []
  | fuel + 1, q, k, bias =>
    let t := threshold k bias
    if q < t then [digit q]
    else digit (t + (q - t) % (base - t)) :: encodeNumber fuel ((q - t) / (base - t)) (k + base) bias

/-- What changes while characters are written. -/
structure Writing where
  delta : Nat
  bias : Nat
  handled : Nat
  out : List Char

/-- Writes the occurrences of the code `n` in the text, of which `basic` characters are ASCII. -/
def writeCode (basic n : Nat) : List Nat → Writing → Writing
  | [], w => w
  | c :: cs, w =>
    if c < n then writeCode basic n cs { w with delta := w.delta + 1 }
    else if c = n then
      writeCode basic n cs
        { delta := 0
          bias := adapt w.delta (w.handled + 1) (w.handled = basic)
          handled := w.handled + 1
          out := w.out ++ encodeNumber (w.delta + 1) w.delta base w.bias }
    else writeCode basic n cs w

/-- Writes the codes, ascending, all of them above `n`. -/
def writeCodes (text : List Nat) (basic : Nat) : List Nat → Nat → Writing → Writing
  | [], _, w => w
  | m :: ms, n, w =>
    let w := { w with delta := w.delta + (m - n) * (w.handled + 1) }
    let w := writeCode basic m text w
    writeCodes text basic ms (m + 1) { w with delta := w.delta + 1 }

/-- The codes outside ASCII, ascending, each once. -/
def distinctCodes (text : List Nat) : List Nat :=
  ((text.filter (firstCode ≤ ·)).mergeSort (· ≤ ·)).eraseDups

def encode (cs : List Char) : List Char :=
  let text := cs.map Char.toNat
  let ascii := cs.filter (·.toNat < firstCode)
  let front := if ascii.isEmpty then [] else ascii ++ ['-']
  let w := writeCodes text ascii.length (distinctCodes text) firstCode
    ⟨0, firstBias, ascii.length, []⟩
  front ++ w.out

/-! ### Decoding -/

def digitValue? (c : Char) : Option Nat :=
  let n := c.toNat
  if 97 ≤ n ∧ n ≤ 122 then some (n - 97)
  else if 65 ≤ n ∧ n ≤ 90 then some (n - 65)
  else if 48 ≤ n ∧ n ≤ 57 then some (n - 22)
  else none

/-- The number at the front: its value added to `i`, and the rest. -/
def decodeNumber : List Char → (i w k bias : Nat) → Option (Nat × List Char)
  | [], _, _, _, _ => none
  | c :: cs, i, w, k, bias => do
    let d ← digitValue? c
    let t := threshold k bias
    if d < t then some (i + d * w, cs)
    else decodeNumber cs (i + d * w) (w * (base - t)) (k + base) bias

/-- The characters after placing those that the rest writes. -/
def place : (fuel : Nat) → (out : List Char) → (n i bias : Nat) → List Char → Option (List Char)
  | _, out, _, _, _, [] => some out
  | 0, _, _, _, _, _ :: _ => none
  | fuel + 1, out, n, i, bias, c :: cs => do
    let (j, rest) ← decodeNumber (c :: cs) i 1 base bias
    let count := out.length + 1
    let n := n + j / count
    let at' := j % count
    if ¬n.isValidChar then none
    else
      place fuel (out.take at' ++ Char.ofNat n :: out.drop at') n (at' + 1)
        (adapt (j - i) count (i = 0)) rest

def decode? (cs : List Char) : Option (List Char) :=
  let back := cs.reverse
  let digits := (back.takeWhile (· ≠ '-')).reverse
  let front := (back.dropWhile (· ≠ '-')).drop 1 |>.reverse
  let (front, digits) := if front.isEmpty then ([], cs) else (front, digits)
  if front.any (firstCode ≤ ·.toNat) then none
  else place digits.length front firstCode 0 firstBias digits

end Courier.Url.Punycode
