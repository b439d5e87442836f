import Courier.Json.Mismatch

/-!
Shapes: what a JSON value is wanted to be.  A value is fitted to a shape: integers become binary64
numbers where those are wanted, and records become objects that have a member for each field and
no other.  A record may be written as an object, where fields that have a default may be left out
and other members do not matter, or as an array of the fields in order.
-/

namespace Courier.Json

/-- What it means that a field of a record is not written. -/
inductive Absence
  /-- the field has to be there -/
  | refused
  /-- a member that is not there is null; an item has to be there -/
  | null
  /-- the value stands for the field -/
  | filled (value : Json)
  deriving Repr

/-- The value of a field of which there is no member. -/
def Absence.member? : Absence → Option Json
  | refused => none
  | null => some .null
  | filled v => some v

/-- The value of a field of which there is no item. -/
def Absence.item? : Absence → Option Json
  | filled v => some v
  | _ => none

/-- What a value is wanted to be. -/
inductive Shape
  | any
  | text
  | flag
  /-- a binary64 number -/
  | real
  /-- an integer between two bounds, and its wording -/
  | integer (low high : Int) (wanted : String)
  /-- the shape or null -/
  | optional (shape : Shape)
  | list (shape : Shape)
  /-- an object whose members have the shape -/
  | dictionary (shape : Shape)
  /-- an object with fields: the name of the type, and for each field its name, what it means that
  it is not written, and its shape -/
  | record (type : String) (fields : List (String × Absence × Shape))
  deriving Repr

namespace Shape

def signed16 : Shape := integer (-32768) 32767 "i16"

def signed64 : Shape := integer (-9223372036854775808) 9223372036854775807 "i64"

def unsigned16 : Shape := integer 0 65535 "u16"

def unsigned32 : Shape := integer 0 4294967295 "u32"

def unsigned64 : Shape := integer 0 18446744073709551615 "u64"

def count : Shape := integer 0 18446744073709551615 "usize"

/-- A field that has to be there. -/
def required (name : String) (shape : Shape) : String × Absence × Shape := (name, .refused, shape)

/-- A field that may be null or missing. -/
def possible (name : String) (shape : Shape) : String × Absence × Shape :=
  (name, .null, .optional shape)

/-- A field that may be missing. -/
def defaulting (name : String) (default : Json) (shape : Shape) : String × Absence × Shape :=
  (name, .filled default, shape)

def bounded (low high : Int) (wanted : String) : Numeral → Except Mismatch Json
  | .int i =>
    if low ≤ i ∧ i ≤ high then .ok (.num (.int i)) else .error (.wrongValue (.num (.int i)) wanted)
  | .real x => .error (.wrongType (.num (.real x)) wanted)

def widened : Numeral → Json
  | .int i => .num (.real (.ofInt i))
  | .real x => .num (.real x)

/-- Too few items for the fields of a record. -/
def tooFew (type : String) (fields items : Nat) : Mismatch :=
  .wrongLength items s!"struct {type} with {fields} {if fields = 1 then elementWord else elementsWord}"
where
  elementWord := "element"
  elementsWord := "elements"

/-! ### Values fitted to a shape -/

/-- A field with what fits a value to it. -/
structure FieldFit where
  name : String
  absence : Absence
  fit : Json → Except Mismatch Json

/-- The members that have a field, fitted, in their order. -/
def fitMembers (fields : List FieldFit) : Members → Except Mismatch Members
  | [] => .ok []
  | (k, v) :: ms =>
    match fields.find? (·.name == k) with
    | none => fitMembers fields ms
    | some f => do
      let v ← f.fit v
      return (k, v) :: (← fitMembers fields ms)

/-- A member for each field, in the order of the fields. -/
def complete (fields : List (String × Absence)) (ms : Members) : Except Mismatch Members :=
  fields.mapM fun (name, absence) =>
    match (ms.get? name).or absence.member? with
    | some v => .ok (name, v)
    | none => .error (.missingField name)

/-- Items as members for the fields in order. -/
def fitItems (type : String) (count : Nat) : List FieldFit → (done : Nat) → List Json →
    Except Mismatch Members
  | [], _, [] => .ok []
  | [], done, rest => .error (.wrongLength (done + rest.length) "fewer elements in array")
  | f :: fs, done, [] =>
    match f.absence.item? with
    | some v => do return (f.name, v) :: (← fitItems type count fs (done + 1) [])
    | none => .error (tooFew type count done)
  | f :: fs, done, v :: vs => do
    let v ← f.fit v
    return (f.name, v) :: (← fitItems type count fs (done + 1) vs)

def fitRecord (type : String) (fields : List FieldFit) : Json → Except Mismatch Json
  | .obj ms => do
    let ms ← fitMembers fields ms
    return .obj (← complete (fields.map fun f => (f.name, f.absence)) ms)
  | .arr vs => do return .obj (← fitItems type fields.length fields 0 vs)
  | v => .error (.wrongType v.found s!"struct {type}")

mutual

def fit : Shape → Json → Except Mismatch Json
  | any, v => .ok v
  | text, v =>
    match v with
    | .str s => .ok (.str s)
    | v => .error (.wrongType v.found "a string")
  | flag, v =>
    match v with
    | .bool b => .ok (.bool b)
    | v => .error (.wrongType v.found "a boolean")
  | real, v =>
    match v with
    | .num n => .ok (widened n)
    | v => .error (.wrongType v.found "f64")
  | integer low high wanted, v =>
    match v with
    | .num n => bounded low high wanted n
    | v => .error (.wrongType v.found wanted)
  | optional shape, v =>
    match v with
    | .null => .ok .null
    | v => shape.fit v
  | list shape, v =>
    match v with
    | .arr vs => (vs.mapM shape.fit).map .arr
    | v => .error (.wrongType v.found "a sequence")
  | dictionary shape, v =>
    match v with
    | .obj ms => (ms.mapM fun (m : String × Json) => (shape.fit m.2).map fun v => (m.1, v)).map .obj
    | v => .error (.wrongType v.found "a map")
  | record type fields, v => fitRecord type (fieldFits fields) v

/-- The fields with what fits values to them. -/
def fieldFits : List (String × Absence × Shape) → List FieldFit
  | [] => []
  | (name, absence, shape) :: fields => ⟨name, absence, shape.fit⟩ :: fieldFits fields

end

end Shape

/-! ### Parts of fitted values -/

def member? (v : Json) (name : String) : Option Json := v.members?.bind (·.get? name)

def int? : Json → Option Int
  | .num (.int i) => some i
  | _ => none

def nat? (v : Json) : Option Nat := v.int?.map Int.toNat

def real? : Json → Option Number.Binary64
  | .num (.real x) => some x
  | _ => none

def bool? : Json → Option Bool
  | .bool b => some b
  | _ => none

def items? : Json → Option (List Json)
  | .arr vs => some vs
  | _ => none

/-- Nothing for null, else what the reader gives. -/
def optional? {α : Type} (read : Json → Option α) : Json → Option (Option α)
  | .null => some none
  | v => (read v).map some

end Courier.Json
