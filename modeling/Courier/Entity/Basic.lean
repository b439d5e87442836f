import Courier.Fault
import Courier.Json.Direct

/-!
Entities: things that a request carries or that a response brings, written as JSON objects and
read from them.
-/

namespace Courier

open Json (Members Shape)

/-- Things written as JSON and read from it. -/
class Entity (α : Type) where
  /-- the name by which faults call the type -/
  label : String
  /-- the shape of what is read -/
  shape : Shape
  toJson : α → Json
  /-- the thing that a value of the shape writes -/
  ofShaped : Json → Option α
  /-- the first field that is missing or wrong, as a fault -/
  validate : α → Except Fault Unit := fun _ => .ok ()

namespace Entity

variable {α : Type} [Entity α]

/-- The thing that a value of the shape writes. -/
def ofFitted (v : Json) : Except Fault α :=
  match ofShaped v with
  | some a => .ok a
  | none => .error (.internal (label α))

def ofJson (v : Json) : Except Fault α := do
  ofFitted (← ((shape α).fit v).mapError .mismatched)

def ofText (bs : Text.Bytes) : Except Fault α := do
  ofFitted (← (Json.readWith (shape α).scan bs).mapError .unreadable)

/-- The members of the object that an entity is written as. -/
def toMapping (a : α) : Except Fault Members :=
  match toJson a with
  | .obj ms => .ok ms
  | v => .error (.validation (label α) s!"객체가 아닌 값으로 직렬화됨: {v.typeName}")

def ofMapping (ms : Members) : Except Fault α := ofJson (.obj ms)

/-- The entity that members write, if it is a valid one. -/
def ofValidMapping (ms : Members) : Except Fault α := do
  let a ← ofMapping ms
  validate a
  return a

end Entity

end Courier
