import Courier.Entity.Basic
import Courier.Http.Message
import Courier.Number.Shortest
import Courier.Url.Parser

/-!
Endpoints: where a request goes and what it carries.  The URL of an endpoint is text until it is
resolved; then the pairs of the query are added to it, and it has to be a web URL.
-/

namespace Courier

open Http (Headers Method)
open Text (Bytes)

/-- Where a request goes and what it carries. -/
structure Endpoint where
  method : Method
  url : String
  query : List (String × String) := []
  headers : Headers := []
  body : Option Bytes := none
  deriving DecidableEq, Repr

/-- A value in a query. -/
inductive QueryValue
  | text (s : String)
  | flag (b : Bool)
  | integer (i : Int)
  | real (x : Number.Binary64)
  deriving DecidableEq, Repr

/-- The text of a value in a query; numbers have no exponent. -/
def QueryValue.toText : QueryValue → String
  | text s => s
  | flag b => if b then "true" else "false"
  | integer i => toString i
  | real x => Number.Layout.plain.text x

namespace Endpoint

/-! ### Building -/

def trimEnd (s : String) : List Char := (s.toList.reverse.dropWhile (· == '/')).reverse

def trimFront (s : String) : List Char := s.toList.dropWhile (· == '/')

/-- A base and a path with one slash between them. -/
def join (base path : String) : String := String.ofList (trimEnd base ++ '/' :: trimFront path)

def under (method : Method) (base path : String) : Endpoint := { method, url := join base path }

/-- The endpoint with a pair at the end of its query. -/
def withQuery (e : Endpoint) (key value : String) : Endpoint :=
  { e with query := e.query ++ [(key, value)] }

/-- The endpoint with a header after the others. -/
def withHeader (e : Endpoint) (name value : String) : Endpoint :=
  { e with headers := e.headers ++ [(name, value)] }

def withBody (e : Endpoint) (body : Bytes) : Endpoint := { e with body := some body }

/-- The endpoint with JSON text as its body, and a header that says so. -/
def withJsonText (e : Endpoint) (text : Bytes) : Endpoint :=
  (e.withHeader Http.contentTypeName Http.jsonType).withBody text

/-- The endpoint with an entity as its body. -/
def withEntity {α : Type} [Entity α] (e : Endpoint) (a : α) : Except Fault Endpoint := do
  let ms ← Entity.toMapping a
  return e.withJsonText (Text.Utf8.ofString (Json.compact (.obj ms)))

/-! ### Resolving -/

def resolve (e : Endpoint) : Except Fault Url :=
  match Url.read e.url with
  | .error r => .error (.invalidEndpoint s!"{e.url}: {r.message}")
  | .ok (.other _) => .error (.invalidEndpoint s!"지원하지 않는 스킴: {e.url}")
  | .ok (.url u) =>
    if u.scheme.isWeb then .ok (u.addPairs e.query)
    else .error (.invalidEndpoint s!"지원하지 않는 스킴: {e.url}")

def toRequest (e : Endpoint) : Except Fault Http.Request := do
  let u ← e.resolve
  return ⟨e.method, u.text, e.headers, e.body⟩

/-- The text of the URL that is asked for, or the URL as written if it cannot be resolved. -/
def finalUrl (e : Endpoint) : String :=
  match e.resolve with
  | .ok u => u.text
  | .error _ => e.url

end Endpoint

end Courier
