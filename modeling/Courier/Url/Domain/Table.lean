/-!
Tables of numbers as text: entries separated by spaces, the hexadecimal numbers of an entry by
commas.
-/

namespace Courier.Url.Domain.Table

/-- The value of a lower-case hexadecimal digit. -/
def hexDigit (c : Char) : Nat := if c.toNat < 58 then c.toNat - 48 else c.toNat - 87

/-- The entries of a text, after an entry of numbers read so far and a number read so far. -/
def entries : List Char → (entry : List Nat) → (number : Nat) → List (List Nat)
  | [], [], _ => []
  | [], entry, _ => [entry]
  | c :: cs, entry, n =>
    if c = ' ' then (entry ++ [n]) :: entries cs [] 0
    else if c = ',' then entries cs (entry ++ [n]) 0
    else entries cs entry (n * 16 + hexDigit c)

def ofLines (lines : List String) : Array (List Nat) :=
  (lines.flatMap fun l => entries l.toList [] 0).toArray

/-- Whether a number lies in one of the ranges. -/
def inRanges (table : Array (List Nat)) (n : Nat) : Bool :=
  table.any fun
    | [a, b] => a ≤ n && n ≤ b
    | _ => false

/-- The value of the range in which a number lies. -/
def rangeValue? (table : Array (List Nat)) (n : Nat) : Option Nat :=
  (table.find? fun
    | [a, b, _] => a ≤ n && n ≤ b
    | _ => false).bind (·[2]?)

end Courier.Url.Domain.Table
