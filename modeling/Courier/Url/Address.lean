/-!
Numeric addresses: the four-part form of 32 bits, parts of which may be written together and in
three bases, and the eight-part form of 128 bits.
-/

namespace Courier.Url.Address

/-! ### Characters -/

/-- The value of a digit in a base up to sixteen. -/
def digit? (base : Nat) (c : Char) : Option Nat :=
  let n := c.toNat
  let v :=
    if 48 ≤ n ∧ n ≤ 57 then n - 48
    else if 97 ≤ n ∧ n ≤ 102 then n - 87
    else if 65 ≤ n ∧ n ≤ 70 then n - 55
    else base
  if v < base then some v else none

def number? (base : Nat) (cs : List Char) : Option Nat :=
  cs.foldlM (fun n c => (digit? base c).map (n * base + ·)) 0

/-- The texts between occurrences of a character. -/
def splitOn (sep : Char) : List Char → List (List Char)
  | [] => [[]]
  | c :: cs =>
    if c = sep then [] :: splitOn sep cs
    else
      match splitOn sep cs with
      | p :: ps => (c :: p) :: ps
      | [] => [[c]]

/-! ### Four parts -/

/-- A part of an address in four parts: decimal, octal after `0`, hexadecimal after `0x`. -/
def part? (cs : List Char) : Option Nat :=
  match cs with
  | [] => none
  | '0' :: 'x' :: rest => number? 16 rest
  | '0' :: 'X' :: rest => number? 16 rest
  | '0' :: c :: rest => number? 8 (c :: rest)
  | cs => number? 10 cs

/-- The parts of a name, the empty one after a final point left out. -/
def parts (cs : List Char) : List (List Char) :=
  let ps := splitOn '.' cs
  if ps.getLast? = some [] then ps.dropLast else ps

/-- Whether the last part of a name is a number, so that the name can only be an address. -/
def endsInNumber (cs : List Char) : Bool :=
  match (parts cs).getLast? with
  | none => false
  | some last => (!last.isEmpty && last.all Char.isDigit) || (part? last).isSome

/-- The address that a name writes: up to four parts, the last of which fills what the others
leave. -/
def ipv4? (cs : List Char) : Option Nat := do
  let ps := parts cs
  if 4 < ps.length then none
  let ns ← ps.mapM part?
  let last ← ns.getLast?
  let front := ns.dropLast
  if Nat.pow 256 (4 - front.length) ≤ last then none
  if front.any (255 < ·) then none
  return front.foldr (fun n acc => acc / 256 + n * Nat.pow 256 3) 0 + last

def ipv4Text (n : Nat) : List Char :=
  let part (k : Nat) : List Char := Nat.toDigits 10 (n / Nat.pow 256 k % 256)
  part 3 ++ '.' :: part 2 ++ '.' :: part 1 ++ '.' :: part 0

/-! ### Eight parts -/

/-- One to four hexadecimal digits at the front, their value and the rest. -/
def group (cs : List Char) : Nat × Nat × List Char :=
  let ds := (cs.take 4).takeWhile fun c => (digit? 16 c).isSome
  (ds.length, (number? 16 ds).getD 0, cs.drop ds.length)

/-- A decimal part of at most 255, without a leading zero, and the rest. -/
def decimalPart? (cs : List Char) : Option (Nat × List Char) :=
  let ds := cs.takeWhile Char.isDigit
  match ds with
  | [] => none
  | '0' :: _ :: _ => none
  | _ => do
    let n ← number? 10 ds
    if 255 < n then none else some (n, cs.dropWhile Char.isDigit)

/-- The two groups that four decimal parts make. -/
def tail4? (cs : List Char) : Option (Nat × Nat) := do
  let (a, r) ← decimalPart? cs
  let '.' :: r := r | none
  let (b, r) ← decimalPart? r
  let '.' :: r := r | none
  let (c, r) ← decimalPart? r
  let '.' :: r := r | none
  let (d, r) ← decimalPart? r
  if r.isEmpty then some (a * 256 + b, c * 256 + d) else none

/-- The groups of an address after `front`, of which there are at most eight.  `gap` tells how
many groups stand before the place at which zeros were left out. -/
def groups? : (fuel : Nat) → List Nat → (gap : Option Nat) → List Char →
    Option (List Nat × Option Nat)
  | 0, _, _, _ => none
  | _ + 1, front, gap, [] => some (front, gap)
  | fuel + 1, front, gap, c :: cs =>
    if front.length = 8 then none
    else if c = ':' then
      if gap.isSome then none else groups? fuel front (some front.length) cs
    else
      let (n, v, rest) := group (c :: cs)
      match rest with
      | [] => if n = 0 then none else some (front ++ [v], gap)
      | '.' :: _ =>
        if n = 0 ∨ 6 < front.length then none
        else (tail4? (c :: cs)).map fun (a, b) => (front ++ [a, b], gap)
      | ':' :: [] => none
      | ':' :: rest => groups? fuel (front ++ [v]) gap rest
      | _ => none

/-- The eight groups of an address between brackets. -/
def ipv6? (cs : List Char) : Option (List Nat) := do
  let start ← match cs with
    | ':' :: ':' :: rest => some (some 0, rest)
    | ':' :: _ => none
    | cs => some (none, cs)
  let (front, gap) ← groups? (cs.length + 1) [] start.1 start.2
  match gap with
  | none => if front.length = 8 then some front else none
  | some k =>
    if front.length = 8 then none
    else some (front.take k ++ List.replicate (8 - front.length) 0 ++ front.drop k)

/-- The longest run of zeros at the front of every tail: where it starts and how long it is, the
first of several. -/
def zeroRun : Nat → List Nat → Nat × Nat
  | _, [] => (0, 0)
  | k, n :: ns =>
    let here := ((n :: ns).takeWhile (· = 0)).length
    let later := zeroRun (k + 1) ns
    if later.2 ≤ here ∧ 0 < here then (k, here) else later

def colons (ns : List Nat) : List Char :=
  [':'].intercalate (ns.map fun n => Nat.toDigits 16 n)

/-- The text of an address in eight parts: the first longest run of at least two zeros is left
out. -/
def ipv6Text (ns : List Nat) : List Char :=
  let (k, n) := zeroRun 0 ns
  if n < 2 then colons ns
  else colons (ns.take k) ++ ':' :: ':' :: colons (ns.drop (k + n))

end Courier.Url.Address
