import Courier.Number.Binary64

/-!
The decimal text of a binary64 number: of all decimals that round to the number, those with the
fewest digits, and of those the one nearest to it.  A `Layout` says how digits and exponent are
written.
-/

namespace Courier.Number

/-- `digits · 10 ^ exponent`. -/
structure Decimal where
  digits : Nat
  exponent : Int
  deriving DecidableEq, Repr

namespace Shortest

/-- The order of `c · 10 ^ g` and `k · 2 ^ e`. -/
def compareScaled (c : Nat) (g : Int) (k : Nat) (e : Int) : Ordering :=
  compare (c * Nat.pow 10 g.toNat * Nat.pow 2 (-e).toNat)
    (k * Nat.pow 2 e.toNat * Nat.pow 10 (-g).toNat)

/-- The decimals that round to a number: between `low · 2 ^ exponent` and `high · 2 ^ exponent`,
the ends included if `closed`; the number itself is `middle · 2 ^ exponent`. -/
structure Interval where
  low : Nat
  middle : Nat
  high : Nat
  exponent : Int
  closed : Bool
  deriving Repr

/-- The interval of a number above zero.  It is narrower below a power of two. -/
def interval (x : Binary64) : Interval :=
  let m := 4 * x.significand
  let narrow := x.significand = Nat.pow 2 (Binary64.precision - 1) ∧ Binary64.minExponent < x.exponent
  { low := if narrow then m - 1 else m - 2
    middle := m
    high := m + 2
    exponent := x.exponent - 2
    closed := x.significand % 2 = 0 }

/-- Whether `c · 10 ^ g` lies in the interval. -/
def Interval.holds (i : Interval) (c : Nat) (g : Int) : Bool :=
  let below := compareScaled c g i.low i.exponent
  let above := compareScaled c g i.high i.exponent
  if i.closed then below != .lt && above != .gt else below == .gt && above == .lt

/-- The greatest `c` for which `c · 10 ^ g` is at most the middle. -/
def Interval.floor (i : Interval) (g : Int) : Nat :=
  (i.middle * Nat.pow 2 i.exponent.toNat * Nat.pow 10 (-g).toNat) /
    (Nat.pow 10 g.toNat * Nat.pow 2 (-i.exponent).toNat)

/-- The point of the grid of step `10 ^ g` that lies in the interval, if one does: of two
neighbours of the middle the nearer, the even one if both are as near. -/
def Interval.point (i : Interval) (g : Int) : Option Nat :=
  let c := i.floor g
  match i.holds c g, i.holds (c + 1) g with
  | false, false => none
  | true, false => some c
  | false, true => some (c + 1)
  | true, true =>
    match compareScaled (2 * c + 1) g (2 * i.middle) i.exponent with
    | .lt => some (c + 1)
    | .gt => some c
    | .eq => some (if c % 2 = 0 then c else c + 1)

/-- A decimal without trailing zeros, `n` of them at most. -/
def trim : Nat → Decimal → Decimal
  | 0, d => d
  | n + 1, d => if d.digits % 10 = 0 ∧ d.digits ≠ 0 then trim n ⟨d.digits / 10, d.exponent + 1⟩ else d

/-- The first grid with a point in the interval, from the step `10 ^ g` downwards. -/
def Interval.search (i : Interval) : Nat → Int → Decimal
  | 0, g => ⟨i.floor g, g⟩
  | n + 1, g =>
    match i.point g with
    | some c => if c = 0 then i.search n (g - 1) else ⟨c, g⟩
    | none => i.search n (g - 1)

/-- A power of ten above the number. -/
def topPower (x : Binary64) : Int :=
  ((x.significand.log2 : Int) + 1 + x.exponent) * 30103 / 100000 + 1

/-- The shortest decimal of the absolute value of a number. -/
def decimal (x : Binary64) : Decimal :=
  if x.significand = 0 then ⟨0, 0⟩
  else trim 20 ((interval x).search 20 (topPower x))

end Shortest

/-! ### Layouts -/

/-- How a number is written: the powers of ten of its first digit for which it is written
positionally, and whether a number without a fraction then ends in `.0`. -/
structure Layout where
  positional : Int → Bool
  pointZero : Bool

def digitsOf (n : Nat) : List Char := Nat.toDigits 10 n

/-- Digits and a power of ten, written positionally. -/
def positionalText (digits : List Char) (exponent : Int) (pointZero : Bool) : List Char :=
  if 0 ≤ exponent then
    digits ++ List.replicate exponent.toNat '0' ++ (if pointZero then ['.', '0'] else [])
  else
    let places := (-exponent).toNat
    let padded := List.replicate (places + 1 - digits.length) '0' ++ digits
    padded.take (padded.length - places) ++ '.' :: padded.drop (padded.length - places)

/-- Digits and a power of ten, written with an exponent and its sign. -/
def scientificText (digits : List Char) (exponent : Int) : List Char :=
  let power : Int := exponent + digits.length - 1
  digits.take 1 ++ (if digits.length ≤ 1 then [] else '.' :: digits.drop 1) ++
    ['e', if power < 0 then '-' else '+'] ++ digitsOf power.natAbs

def Layout.text (layout : Layout) (x : Binary64) : String :=
  let d := Shortest.decimal x
  let digits := digitsOf d.digits
  let body :=
    if x.significand = 0 ∨ layout.positional (d.exponent + digits.length - 1) then
      positionalText digits d.exponent layout.pointZero
    else scientificText digits d.exponent
  String.ofList (if x.negative then '-' :: body else body)

/-- Always positional, integers without a point. -/
def Layout.plain : Layout := ⟨fun _ => true, false⟩

end Courier.Number
