/-!
The options of the command line.  A field takes a value, a switch does not.  A field of which
there is one may be given once, and its value has to be one that it can have; a field of which
there are many is given as often as one likes.
-/

namespace Courier.Cli

/-! ### Names -/

/-- An option with a value. -/
inductive Field
  | config
  | baseUrl
  | timeoutMs
  | maxConcurrent
  | successStatus
  | data
  | query
  | header
  deriving DecidableEq, Repr

/-- An option without a value. -/
inductive Switch
  | verbose
  | help
  | version
  deriving DecidableEq, Repr

/-- An option by what follows it. -/
inductive OptionName
  | field (f : Field)
  | switch (s : Switch)
  deriving DecidableEq, Repr

namespace OptionName

def long : List (String × OptionName) :=
  [("config", .field .config), ("base-url", .field .baseUrl), ("timeout-ms", .field .timeoutMs),
    ("max-concurrent", .field .maxConcurrent), ("success-status", .field .successStatus),
    ("data", .field .data), ("query", .field .query), ("header", .field .header),
    ("verbose", .switch .verbose), ("help", .switch .help), ("version", .switch .version)]

/-- The options by their short names, for those that have one. -/
def short : List (Char × OptionName) :=
  [('c', .field .config), ('b', .field .baseUrl), ('d', .field .data), ('q', .field .query),
    ('H', .field .header), ('v', .switch .verbose), ('h', .switch .help), ('V', .switch .version)]

end OptionName

/-! ### Misuse -/

/-- How a command line can be wrong. -/
inductive Misuse
  /-- the method or the target is missing -/
  | missingArgument
  /-- an option that there is not, or an argument too many -/
  | unknownArgument
  /-- a field without the value that it needs -/
  | missingValue
  /-- a value that the field cannot have -/
  | badValue
  /-- a switch with a value -/
  | needlessValue
  /-- an option given twice of which there is one -/
  | repeated
  deriving DecidableEq, Repr

/-! ### Numbers -/

def digits? (cs : List Char) : Option Nat :=
  if cs ≠ [] ∧ cs.all Char.isDigit then some (cs.foldl (fun n c => 10 * n + (c.toNat - 48)) 0)
  else none

/-- The number that digits write, after a plus or none. -/
def unsigned? : List Char → Option Nat
  | '+' :: cs => digits? cs
  | cs => digits? cs

/-- The number that digits write, after a sign or none. -/
def signed? : List Char → Option Int
  | '-' :: cs => (digits? cs).map fun n => -Int.ofNat n
  | cs => (unsigned? cs).map Int.ofNat

/-- The number of 64 bits that a value writes. -/
def number64? (s : String) : Option UInt64 :=
  ((unsigned? s.toList).filter (· < Nat.pow 2 64)).map UInt64.ofNat

/-- The number of 16 bits that a value writes. -/
def number16? (s : String) : Option UInt16 :=
  ((signed? s.toList).filter fun i => 0 ≤ i ∧ i < 65536).map fun i => UInt16.ofNat i.toNat

/-! ### Values -/

/-- The values of the options of a command line. -/
structure Options where
  config : Option String := none
  baseUrl : Option String := none
  timeoutMs : Option UInt64 := none
  maxConcurrent : Option UInt64 := none
  successStatus : Option UInt16 := none
  data : Option String := none
  queries : List String := []
  headers : List String := []
  verbose : Bool := false
  deriving DecidableEq, Repr

namespace Options

/-- A first value, if there is none yet and the field can have it. -/
def first {α : Type} (old new : Option α) : Except Misuse (Option α) :=
  match old, new with
  | some _, _ => .error .repeated
  | none, none => .error .badValue
  | none, some a => .ok (some a)

/-- A path is not empty. -/
def firstPath (old : Option String) (new : String) : Except Misuse (Option String) :=
  match old with
  | some _ => .error .repeated
  | none => if new = "" then .error .missingValue else .ok (some new)

def add (o : Options) : Field → String → Except Misuse Options
  | .config, v => (firstPath o.config v).map fun config => { o with config }
  | .baseUrl, v => (first o.baseUrl (some v)).map fun baseUrl => { o with baseUrl }
  | .timeoutMs, v => (first o.timeoutMs (number64? v)).map fun timeoutMs => { o with timeoutMs }
  | .maxConcurrent, v =>
    (first o.maxConcurrent (number64? v)).map fun maxConcurrent => { o with maxConcurrent }
  | .successStatus, v =>
    (first o.successStatus (number16? v)).map fun successStatus => { o with successStatus }
  | .data, v => (first o.data (some v)).map fun data => { o with data }
  | .query, v => .ok { o with queries := o.queries ++ [v] }
  | .header, v => .ok { o with headers := o.headers ++ [v] }

end Options

end Courier.Cli
