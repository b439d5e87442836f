import Courier.Json.Value

/-!
Log records: what a client tells about its work.
-/

namespace Courier

/-- How much a record matters. -/
inductive Level
  | error
  | warn
  | info
  | debug
  deriving DecidableEq, Repr

/-- A record: its level, its text, and the values it names. -/
structure LogRecord where
  level : Level
  text : String
  fields : List (String × Json) := []
  deriving Repr

namespace LogRecord

def error (text : String) : LogRecord := ⟨.error, text, []⟩
def warn (text : String) : LogRecord := ⟨.warn, text, []⟩
def info (text : String) : LogRecord := ⟨.info, text, []⟩
def debug (text : String) : LogRecord := ⟨.debug, text, []⟩

def having (r : LogRecord) (name : String) (value : Json) : LogRecord :=
  { r with fields := r.fields ++ [(name, value)] }

end LogRecord

end Courier
