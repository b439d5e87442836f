/-!
Limiters: how many workers may be at work at once.  Free permits are handed out at once; a worker
that finds none joins the line, and a permit that is given back goes to the first in line.
-/

namespace Courier

/-- Permits and those who wait for one, by their numbers. -/
structure Limiter where
  capacity : Nat
  free : Nat
  line : List Nat
  deriving DecidableEq, Repr

namespace Limiter

def maxCapacity : Nat := Nat.pow 2 61 - 1

/-- A limiter whose permits are all free, if there can be so many. -/
def ofCapacity? (n : Nat) : Option Limiter :=
  if n ≤ maxCapacity then some ⟨n, n, []⟩ else none

/-- The limiter after a free permit is taken, if there is one. -/
def take? (l : Limiter) : Option Limiter :=
  match l.free with
  | 0 => none
  | n + 1 => some { l with free := n }

theorem capacity_of_take {l l' : Limiter} (ht : l.take? = some l') : l'.capacity = l.capacity := by
  unfold take? at ht
  split at ht
  · cases ht
  · cases ht
    rfl

/-- The limiter with one more at the end of the line. -/
def join (l : Limiter) (i : Nat) : Limiter := { l with line := l.line ++ [i] }

def leave (l : Limiter) (i : Nat) : Limiter := { l with line := l.line.erase i }

/-- A permit given back: it goes to the first in line, if there is a line. -/
def release (l : Limiter) : Option Nat × Limiter :=
  match l.line with
  | [] => (none, { l with free := l.free + 1 })
  | i :: rest => (some i, { l with line := rest })

end Limiter

end Courier
