import Courier.Queue.Snapshot
import Courier.Review.Processor

/-!
Requests as they are handed to a queue.
-/

namespace Courier

/-- How a callback of a request ends. -/
inductive CallbackEnd
  | returns
  | panics
  deriving DecidableEq, Repr

/-- A request to be run. -/
structure Request (α : Type) where
  /-- requests of one kind can exclude each other -/
  kind : String
  endpoint : Except Fault Endpoint
  processor : Processor α
  /-- the processor cancels the request when it is called -/
  cancelsItself : Bool := false
  /-- whether the request is to be admitted -/
  admits : Snapshot → Bool := fun _ => true
  /-- the callback for a value, if there is one -/
  onSuccess : Option CallbackEnd := none
  /-- the callback for a failure, if there is one -/
  onFailure : Option CallbackEnd := none

namespace Request

variable {α : Type}

def method? (r : Request α) : Option Http.Method := r.endpoint.toOption.map (·.method)

/-- The final URL, or the raw one if that cannot be resolved, if there is an endpoint. -/
def url? (r : Request α) : Option String := r.endpoint.toOption.map (·.finalUrl)

/-! ### Admission -/

/-- Admitted if no other of its kind is active. -/
def aloneOfKind (kind : String) (s : Snapshot) : Bool := !s.hasKind kind

/-- Admitted if no other to the same endpoint is active; without an endpoint always. -/
def aloneAtEndpoint (endpoint : Except Fault Endpoint) (s : Snapshot) : Bool :=
  match endpoint with
  | .ok e => !s.hasRequestTo e
  | .error _ => true

/-- Admitted if fewer than `n` are active. -/
def below (n : Nat) (s : Snapshot) : Bool := s.inFlight < n

/-- Admitted if fewer are active than may be at work. -/
def belowCap (s : Snapshot) : Bool :=
  match s.maxConcurrent with
  | none => true
  | some n => s.inFlight < n

end Request

end Courier
