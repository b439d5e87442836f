import Courier.Json.Printer
import Courier.Text.Quoted

/-!
JSON that is not of the wanted shape: what was found, what was wanted, and the wording.
-/

namespace Courier.Json

/-- What stands where something else was wanted. -/
inductive Found
  | null
  | bool (b : Bool)
  | num (n : Numeral)
  | str (s : String)
  | arr
  | obj
  deriving DecidableEq, Repr

def found : Json → Found
  | .null => .null
  | .bool b => .bool b
  | .num n => .num n
  | .str s => .str s
  | .arr _ => .arr
  | .obj _ => .obj

def Found.text : Found → String
  | null => "null"
  | bool b => s!"boolean `{b}`"
  | num (.int i) => s!"integer `{i}`"
  | num (.real x) => s!"floating point `{numberLayout.text x}`"
  | str s => s!"string {Text.quotedText s}"
  | arr => "sequence"
  | obj => "map"

/-- How a value misses its shape. -/
inductive Mismatch
  /-- of another kind than wanted -/
  | wrongType (found : Found) (wanted : String)
  /-- of the wanted kind, and out of range -/
  | wrongValue (found : Found) (wanted : String)
  | wrongLength (length : Nat) (wanted : String)
  | missingField (name : String)
  | duplicateField (name : String)
  | unknownName (name : String) (known : List String)
  deriving DecidableEq, Repr

/-- Names between backticks, separated by commas. -/
def nameList (names : List String) : String :=
  String.intercalate ", " (names.map fun n => s!"`{n}`")

def Mismatch.message : Mismatch → String
  | wrongType f wanted => s!"invalid type: {f.text}, expected {wanted}"
  | wrongValue f wanted => s!"invalid value: {f.text}, expected {wanted}"
  | wrongLength n wanted => s!"invalid length {n}, expected {wanted}"
  | missingField name => s!"missing field `{name}`"
  | duplicateField name => s!"duplicate field `{name}`"
  | unknownName name known => s!"unknown variant `{name}`, expected one of {nameList known}"

end Courier.Json
