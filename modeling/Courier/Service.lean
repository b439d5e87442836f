import Courier.Http.Exchange
import Courier.Queue.Operations

/-!
Services: a queue of requests and the client that exchanges them.  What the queue gives to its
transport waits there until the client's answer is handed in; callbacks run in a task of their own.
-/

namespace Courier

/-- A queue and the client that it sends its requests with. -/
structure Service (α : Type) where
  client : Http.Client
  queue : Queue α

namespace Service

variable {α : Type}

/-- The service of settings, if the client can be made; it has no queue if the cap on requests at
work is too large to be kept. -/
def build (s : Settings) (hooks : List Hook) : Except Fault (Option (Service α)) := do
  let client ← Http.Client.ofSettings s
  return (Queue.ofSettings? s hooks fun _ => none).map fun q => ⟨client, q.spawnReader⟩

/-- The service of settings that have no flaw, without hooks. -/
def ofSettings (s : Settings) : Except Fault (Option (Service α)) := do
  s.validate
  build s []

end Service

end Courier
