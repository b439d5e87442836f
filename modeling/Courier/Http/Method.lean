import Courier.Fault
import Courier.Json.Direct

/-!
The methods of HTTP requests and their names.
-/

namespace Courier.Http

/-- The method of a request. -/
inductive Method
  | get
  | post
  | put
  | patch
  | delete
  | head
  | options
  deriving DecidableEq, Repr

namespace Method

def name : Method → String
  | get => "GET"
  | post => "POST"
  | put => "PUT"
  | patch => "PATCH"
  | delete => "DELETE"
  | head => "HEAD"
  | options => "OPTIONS"

def shown : Method → String
  | get => "Get"
  | post => "Post"
  | put => "Put"
  | patch => "Patch"
  | delete => "Delete"
  | head => "Head"
  | options => "Options"

def all : List Method := [get, post, put, patch, delete, head, options]

/-- The letters `a` to `z` as `A` to `Z`, all other characters as they are. -/
def upper (s : String) : String := String.ofList (s.toList.map Char.toUpper)

def parse (s : String) : Except Fault Method :=
  match all.find? (·.name == upper s) with
  | some m => .ok m
  | none => .error (.invalidEndpoint s!"지원하지 않는 HTTP 메서드: {upper s}")

def toJson (m : Method) : Json := .str m.name

def ofJsonText (text : String) : Except Fault Method :=
  (Json.readWith (Json.Direct.name (all.map fun m => (m.name, m))) (Text.Utf8.ofString text)).mapError
    .unreadable

end Method

end Courier.Http
