import Courier.Endpoint
import Courier.Text.Quoted

/-!
Endpoints, and requests to them, as they are shown to a programmer: the fields by name, texts
between quotes, and bodies as numbers.
-/

namespace Courier

namespace Endpoint

open Text (quotedText)

def shownList (items : List String) : String := "[" ++ String.intercalate ", " items ++ "]"

def shownPairs (ps : List (String × String)) : String :=
  shownList (ps.map fun p => "(" ++ quotedText p.1 ++ ", " ++ quotedText p.2 ++ ")")

def shownBody : Option Text.Bytes → String
  | none => "None"
  | some bs => "Some(" ++ shownList (bs.map fun b => toString b.toNat) ++ ")"

def shownFields (name : String) (fields : List (String × String)) : String :=
  name ++ " \x7b " ++ String.intercalate ", " (fields.map fun f => f.1 ++ ": " ++ f.2) ++ " \x7d"

def shown (e : Endpoint) : String :=
  shownFields "Endpoint"
    [("method", e.method.shown), ("url", quotedText e.url), ("query", shownPairs e.query),
      ("headers", shownPairs e.headers), ("body", shownBody e.body)]

/-- A request for an object as it is shown. -/
def shownObjectRequest (e : Endpoint) : String := shownFields "JsonRequest" [("endpoint", e.shown)]

/-- A request for an entity, by the name of its type, as it is shown. -/
def shownEntityRequest (e : Endpoint) (label : String) : String :=
  shownFields "ModelRequest" [("endpoint", e.shown), ("model", quotedText label)]

end Endpoint

end Courier
