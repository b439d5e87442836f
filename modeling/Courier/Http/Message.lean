import Courier.Http.Method
import Courier.Text.Utf8

/-!
Requests as they are sent and responses as they come back.
-/

namespace Courier.Http

open Text (Bytes)

/-- Header fields in order, names as written. -/
abbrev Headers := List (String × String)

/-- A request to be sent. -/
structure Request where
  method : Method
  url : String
  headers : Headers
  body : Option Bytes
  deriving DecidableEq, Repr

/-- A response that came back. -/
structure Response where
  status : UInt16
  headers : Headers
  body : Bytes
  deriving DecidableEq, Repr

/-- The letters `A` to `Z` as `a` to `z`, all other characters as they are. -/
def lower (s : String) : String := String.ofList (s.toList.map Char.toLower)

/-- Whether two header names are the same but for the case of ASCII letters. -/
def sameName (a b : String) : Bool := lower a == lower b

/-- The name of the header that tells the type of a body. -/
def contentTypeName : String := "Content-Type"

def jsonType : String := "application/json"

/-- The value of the first header of a name. -/
def Headers.get? (hs : Headers) (name : String) : Option String :=
  (hs.find? fun h => sameName h.1 name).map (·.2)

/-- The value of the first header of a name. -/
def Response.header? (r : Response) (name : String) : Option String := r.headers.get? name

/-- The type that the response gives for its body. -/
def Response.contentType? (r : Response) : Option String := r.header? contentTypeName

def Response.text (r : Response) : String := Text.Utf8.toStringLossy r.body

end Courier.Http
