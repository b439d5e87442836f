import Courier.Endpoint

/-!
Snapshots: what a queue shows of the requests that were admitted and have not ended.  A request
decides by the snapshot whether it is admitted.
-/

namespace Courier

/-- A request that was admitted and has not ended, by its number.  Method and URL are missing if
it has no endpoint. -/
structure ActiveRequest where
  id : Nat
  kind : String
  method : Option Http.Method
  url : Option String
  deriving DecidableEq, Repr

/-- The active requests and the cap on those at work. -/
structure Snapshot where
  active : List ActiveRequest
  maxConcurrent : Option Nat
  deriving DecidableEq, Repr

namespace Snapshot

def inFlight (s : Snapshot) : Nat := s.active.length

def hasKind (s : Snapshot) (kind : String) : Bool := s.active.any (·.kind == kind)

/-- A request of a method to a URL is active. -/
def hasEndpoint (s : Snapshot) (method : Http.Method) (url : String) : Bool :=
  s.active.any fun a => a.method == some method && a.url == some url

def hasRequestTo (s : Snapshot) (e : Endpoint) : Bool := s.hasEndpoint e.method e.finalUrl

def shownNumber : Option Nat → String
  | none => "None"
  | some n => s!"Some({n})"

/-- The queue of a snapshot as it is shown. -/
def shown (s : Snapshot) : String :=
  s!"RequestQueue \x7b max_concurrent: {shownNumber s.maxConcurrent}, in_flight: {s.inFlight} \x7d"

end Snapshot

end Courier
