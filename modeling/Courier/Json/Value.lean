import Courier.Number.Binary64

/-!
JSON values.  A number is an integer or a binary64 number.  The members of an object stand in the
order in which they are written; `Members.ofList` puts them by ascending keys, each key once.
-/

namespace Courier.Json

/-- A number: an integer of at most 64 bits, or a binary64 number. -/
inductive Numeral
  | int (i : Int)
  | real (x : Number.Binary64)
  deriving DecidableEq, Repr

end Courier.Json

namespace Courier

/-- A JSON value. -/
inductive Json
  | null
  | bool (b : Bool)
  | num (n : Json.Numeral)
  | str (s : String)
  | arr (items : List Json)
  | obj (members : List (String × Json))
  deriving Repr, Inhabited

namespace Json

abbrev Members := List (String × Json)

/-- The members with one more; a member of the same key gives way to it. -/
def Members.insert (k : String) (v : Json) : Members → Members
  | [] => [(k, v)]
  | (k', v') :: rest =>
    if k < k' then (k, v) :: (k', v') :: rest
    else if k = k' then (k, v) :: rest
    else (k', v') :: Members.insert k v rest

/-- The members given by a list, the last of each key. -/
def Members.ofList (ps : List (String × Json)) : Members :=
  ps.foldl (fun ms p => Members.insert p.1 p.2 ms) []

def Members.get? (ms : Members) (k : String) : Option Json := (ms.find? (·.1 == k)).map (·.2)

/-- Keys ascend strictly. -/
def Members.Ordered (ms : Members) : Prop := ms.Pairwise (fun a b => a.1 < b.1)

def int (i : Int) : Json := .num (.int i)

def nat (n : Nat) : Json := int n

def optStr : Option String → Json
  | none => .null
  | some s => .str s

def object (ps : List (String × Json)) : Json := .obj (Members.ofList ps)

def typeName : Json → String
  | .null => "null"
  | .bool _ => "boolean"
  | .num _ => "number"
  | .str _ => "string"
  | .arr _ => "array"
  | .obj _ => "object"

def members? : Json → Option Members
  | .obj ms => some ms
  | _ => none

def str? : Json → Option String
  | .str s => some s
  | _ => none

def num? : Json → Option Numeral
  | .num n => some n
  | _ => none

/-- How deeply arrays and objects are nested. -/
def depth : Json → Nat
  | .arr items => 1 + depthItems items
  | .obj ms => 1 + depthMembers ms
  | _ => 0
where
  depthItems : List Json → Nat
    | [] => 0
    | v :: vs => max v.depth (depthItems vs)
  depthMembers : List (String × Json) → Nat
    | [] => 0
    | (_, v) :: ms => max v.depth (depthMembers ms)

end Json

end Courier
