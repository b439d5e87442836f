import Courier.Log

/-!
Traces: what happens in the course of some work, in order.  What happens is a log record or an
event of the work's own kind.
-/

namespace Courier

/-- One thing that happens. -/
inductive Happening (ε : Type)
  | log (r : LogRecord)
  | event (e : ε)
  deriving Repr

abbrev Trace (ε : Type) := List (Happening ε)

namespace Happening

variable {ε δ : Type}

def record? : Happening ε → Option LogRecord
  | log r => some r
  | event _ => none

def event? : Happening ε → Option ε
  | log _ => none
  | event e => some e

def map (f : ε → δ) : Happening ε → Happening δ
  | log r => .log r
  | event e => .event (f e)

end Happening

namespace Trace

variable {ε δ : Type}

def records (t : Trace ε) : List LogRecord := t.filterMap Happening.record?

def events (t : Trace ε) : List ε := t.filterMap Happening.event?

/-- The trace with its events of another kind. -/
def mapEvents (f : ε → δ) (t : Trace ε) : Trace δ := t.map (Happening.map f)

theorem events_append (t t' : Trace ε) : (t ++ t').events = t.events ++ t'.events :=
  List.filterMap_append ..

theorem events_logs (rs : List LogRecord) : Trace.events (rs.map .log : Trace ε) = [] := by
  induction rs with
  | nil => rfl
  | cons r rs ih => exact ih

theorem events_mapEvents (f : ε → δ) (t : Trace ε) : (t.mapEvents f).events = t.events.map f := by
  induction t with
  | nil => rfl
  | cons happening t ih =>
    cases happening with
    | log r => exact ih
    | event ev => exact congrArg (f ev :: ·) ih

end Trace

end Courier
