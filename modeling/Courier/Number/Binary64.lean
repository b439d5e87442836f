/-!
Finite binary64 numbers as a sign, a significand and an exponent, and the rounding of a ratio of
natural numbers to the nearest of them, ties to the even significand.  Multiplication and division
by a power of ten are that rounding of the exact result.
-/

namespace Courier.Number

/-- A finite binary64 number: `significand · 2 ^ exponent`, negated if `negative`. -/
structure Binary64 where
  negative : Bool
  significand : Nat
  exponent : Int
  deriving DecidableEq, Repr

namespace Binary64

def minExponent : Int := -1074

def maxExponent : Int := 971

/-- Significands have at most this many binary digits. -/
def precision : Nat := 53

def zero (negative : Bool) : Binary64 := ⟨negative, 0, minExponent⟩

def isZero (x : Binary64) : Bool := x.significand == 0

/-! ### Rounding -/

/-- The natural number nearest to `num / den`, the even one of two. -/
def divNearest (num den : Nat) : Nat :=
  let q := num / den
  let r := num % den
  if 2 * r > den ∨ (2 * r = den ∧ q % 2 = 1) then q + 1 else q

/-- `num / den` divided by `2 ^ e`, as a numerator and a denominator. -/
def scaleDown (num den : Nat) (e : Int) : Nat × Nat :=
  if 0 ≤ e then (num, den * Nat.pow 2 e.toNat) else (num * Nat.pow 2 (-e).toNat, den)

/-- The exponent for which `num / den` has a significand of full length, or the least one. -/
def exponentFor (num den : Nat) : Int :=
  let guess : Int := (num.log2 : Int) - den.log2 - precision
  let (a, b) := scaleDown num den guess
  max minExponent (if a / b < Nat.pow 2 precision then guess else guess + 1)

/-- The number nearest to `num / den`, none if it exceeds all numbers. -/
def ofRatio? (negative : Bool) (num den : Nat) : Option Binary64 :=
  if num = 0 then some (zero negative)
  else
    let e := exponentFor num den
    let (a, b) := scaleDown num den e
    let s := divNearest a b
    let (s, e) := if s = Nat.pow 2 precision then (Nat.pow 2 (precision - 1), e + 1) else (s, e)
    if maxExponent < e then none else some ⟨negative, s, e⟩

/-- The number nearest to an integer of less than a thousand binary digits. -/
def ofInt (i : Int) : Binary64 :=
  (ofRatio? (i < 0) i.natAbs 1).getD (zero false)

/-- The absolute value as a numerator and a denominator. -/
def ratio (x : Binary64) : Nat × Nat :=
  if 0 ≤ x.exponent then (x.significand * Nat.pow 2 x.exponent.toNat, 1)
  else (x.significand, Nat.pow 2 (-x.exponent).toNat)

/-! ### Powers of ten -/

/-- The powers of ten up to this one are finite. -/
def maxTenPower : Nat := 308

/-- The number nearest to `10 ^ k`, for `k` at most `maxTenPower`. -/
def tenPower (k : Nat) : Binary64 := (ofRatio? false (Nat.pow 10 k) 1).getD (zero false)

/-- The rounded product with `tenPower k`, none if it exceeds all numbers. -/
def mulTenPower? (x : Binary64) (k : Nat) : Option Binary64 :=
  let (a, b) := x.ratio
  let (c, d) := (tenPower k).ratio
  ofRatio? x.negative (a * c) (b * d)

def divTenPower (x : Binary64) (k : Nat) : Binary64 :=
  let (a, b) := x.ratio
  let (c, d) := (tenPower k).ratio
  (ofRatio? x.negative (a * d) (b * c)).getD (zero x.negative)

/-- `significand · 10 ^ exponent` in two roundings, that of the significand and that of its
product or quotient with the power of ten; none if the result exceeds all numbers.  A quotient
beyond the greatest power is taken in two steps, and is zero beyond twice that power. -/
def ofDecimal? (negative : Bool) (significand : Nat) (exponent : Int) : Option Binary64 := do
  let x ← ofRatio? negative significand 1
  if 0 ≤ exponent then
    if exponent.toNat ≤ maxTenPower then x.mulTenPower? exponent.toNat
    else if x.isZero then some x
    else none
  else
    let k := (-exponent).toNat
    if k ≤ maxTenPower then some (x.divTenPower k)
    else if k ≤ 2 * maxTenPower then
      some ((x.divTenPower maxTenPower).divTenPower (k - maxTenPower))
    else some (zero negative)

/-! ### Integers -/

/-- The exact value of a number without a fraction. -/
def toInt? (x : Binary64) : Option Int :=
  let (a, b) := x.ratio
  if a % b = 0 then
    let n : Int := a / b
    some (if x.negative then -n else n)
  else none

end Binary64

end Courier.Number
