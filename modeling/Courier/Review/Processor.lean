import Courier.Entity.Basic

/-!
Processors: what makes a value of the object that a response brings.  A processor accepts the
object, refuses it with a fault, or panics, perhaps with a text.
-/

namespace Courier

open Json (Members)

/-- What a processor makes of an object. -/
inductive Processed (α : Type)
  | accepted (value : α)
  | refused (fault : Fault)
  | panicked (text : Option String)
  deriving Repr

namespace Processed

variable {α β : Type}

def ofExcept : Except Fault α → Processed α
  | .ok a => accepted a
  | .error f => refused f

def andThen (p : Processed α) (f : α → Except Fault β) : Processed β :=
  match p with
  | accepted a => ofExcept (f a)
  | refused fault => refused fault
  | panicked text => panicked text

end Processed

abbrev Processor (α : Type) := Members → Processed α

namespace Processor

def object : Processor Members := .accepted

/-- The valid entity that the object writes. -/
def entity (α : Type) [Entity α] : Processor α := fun ms => .ofExcept (Entity.ofValidMapping ms)

end Processor

end Courier
