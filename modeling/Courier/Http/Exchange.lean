import Courier.Failure
import Courier.Fault
import Courier.Http.Message
import Courier.Log
import Courier.Settings.Basic
import Courier.Text.Base64
import Courier.Url.Parser

/-!
Exchanges: one request sent to a server, which answers or does something else.  Before anything is
sent the URL and the header fields are checked.  A response is passed on as it is, whatever its
status.
-/

namespace Courier.Http

open Text (Bytes)

/-! ### Header fields -/

/-- A character of a token, of which names of header fields consist. -/
def isTokenChar (c : Char) : Bool :=
  c.isAlphanum || ['!', '#', '$', '%', '&', '\'', '*', '+', '-', '.', '^', '_', '`', '|',
    '~'].contains c

/-- How many characters a name of a header field may have. -/
def maxNameLength : Nat := 65535

def isHeaderName (s : String) : Bool :=
  s != "" && s.toList.all isTokenChar && s.length ≤ maxNameLength

/-- A value that a header field can have: no controls but tabs. -/
def isHeaderValue (s : String) : Bool :=
  s.toList.all fun c => (32 ≤ c.toNat && c.toNat != 127) || c == '\t'

/-- A byte that a value of a header field can have in a response, where it need not be text. -/
def isValueByte (b : UInt8) : Bool := (32 ≤ b && b != 127) || b == 9

/-- A blank or a tab. -/
def isGap (b : UInt8) : Bool := b == 32 || b == 9

/-- A value as the other side reads it: blanks and tabs at its ends do not belong to it. -/
def received (value : Bytes) : Bytes := ((value.dropWhile isGap).reverse.dropWhile isGap).reverse

/-- A value of text as the other side reads it. -/
def receivedText (value : String) : String :=
  Text.Utf8.toStringLossy (received (Text.Utf8.ofString value))

/-- The names of the fields that an exchange itself is in charge of. -/
def managedNames : List String :=
  ["host", "accept", "accept-encoding", "content-length", "connection"]

/-- Header fields with small letters in their names, by name, those of one name in their order;
the fields that an exchange is in charge of are left out. -/
def Headers.listed (hs : Headers) : Headers :=
  ((hs.map fun h => (lower h.1, h.2)).filter fun h => !managedNames.contains h.1).mergeSort
    fun a b => decide (a.1 ≤ b.1)

/-! ### Servers -/

/-- A response as a server sends it. -/
structure RawResponse where
  status : UInt16
  headers : List (String × Bytes)
  body : Bytes
  deriving DecidableEq, Repr

/-- Whether a status announces another response, which is to follow. -/
def isInterim (status : UInt16) : Bool := 100 ≤ status && status < 200 && status != 101

/-- A response that a client can read to its end: its status has three digits and is not only
interim, and its header fields are such. -/
def RawResponse.isReadable (r : RawResponse) : Bool :=
  100 ≤ r.status && r.status ≤ 999 && !isInterim r.status &&
    r.headers.all fun h => isHeaderName h.1 && h.2.all isValueByte

/-- What a server does. -/
inductive Peer
  /-- it answers, but for as many bytes of the body as are missing -/
  | answers (response : RawResponse) (missing : Nat)
  /-- it reads the request and closes -/
  | closes
  /-- it reads the request and never answers -/
  | hangs
  /-- there is none -/
  | refuses
  deriving DecidableEq, Repr

/-- A request as a server sees it. -/
structure SeenRequest where
  method : Method
  target : String
  headers : Headers
  body : Bytes
  deriving DecidableEq, Repr

/-! ### Clients -/

/-- What sends requests, and what it calls itself. -/
structure Client where
  userAgent : Option String
  deriving DecidableEq, Repr

/-- The client of settings, whose name for itself has to be a value of a header field. -/
def Client.ofSettings (s : Settings) : Except Fault Client :=
  if isHeaderValue s.userAgent then .ok ⟨some s.userAgent⟩
  else .error (.config "HTTP 클라이언트 빌드 실패: builder error")

namespace Client

/-- Why a request cannot be sent. -/
inductive Unsendable
  /-- the URL or a header field is none -/
  | malformed
  /-- a URL of a scheme that is not of the web -/
  | scheme (url : String)
  deriving DecidableEq, Repr

/-- The reason of a request that cannot be sent. -/
def Unsendable.reason : Unsendable → String
  | malformed => "builder error"
  | scheme url => s!"builder error for url ({url})"

/-- The text that percent encoding writes, if it is text. -/
def decoded? (s : String) : Option String :=
  Text.Utf8.toString? (Url.Percent.decode (Text.Utf8.ofString s))

/-- The user and the password named in a URL, if one of them is. -/
def credentials? (a : Url.Authority) : Option (String × Option String) :=
  match decoded? a.username with
  | none => none
  | some user =>
    let password := if a.password = "" then none else decoded? a.password
    if user = "" ∧ password = none then none else some (user, password)

/-- The field that tells a user and a password. -/
def authorization (user : String) (password : Option String) : String × String :=
  let text := Text.Utf8.ofString (user ++ ":" ++ password.getD "")
  ("authorization", "Basic " ++ String.ofList (Text.Base64.encode text))

/-- The URL that is asked, and the user's field: a user named in the URL is told in a field. -/
def address (u : Url) : Url × Headers :=
  match credentials? u.authority with
  | none => (u, [])
  | some (user, password) =>
    let authority := { u.authority with username := "", password := "" }
    ({ u with authority }, [authorization user password])

def sendable (hs : Headers) : Bool := hs.all fun h => isHeaderName h.1 && isHeaderValue h.2

/-- The URL that is asked and the user's field, if the request can be sent. -/
def check (r : Request) : Except Unsendable (Url × Headers) :=
  match Url.read r.url with
  | .error _ => .error .malformed
  | .ok (.other u) =>
    if u.hasHost ∧ ¬sendable r.headers then .error .malformed
    else .error (.scheme u.withoutUser.text)
  | .ok (.url u) =>
    if ¬sendable r.headers then .error .malformed
    else if u.scheme.isWeb then .ok (address u)
    else .error (.scheme (address u).1.text)

/-- The header fields that are sent: those of the user and of the request, and the client's name
for itself unless the request gives one. -/
def fields (c : Client) (user : Headers) (hs : Headers) : Headers :=
  let all := user ++ hs
  match c.userAgent with
  | some name => if (all.get? "user-agent").isSome then all else all ++ [("user-agent", name)]
  | none => all

/-! ### Exchanges -/

/-- A response that has no body, whatever the server says. -/
def isBodiless (m : Method) (status : UInt16) : Bool :=
  m == .head || status == 101 || status == 204 || status == 304

/-- What an exchange comes to: the response or the error, and what the server saw. -/
structure Exchanged where
  result : Except TransportError Response
  seen : List SeenRequest
  records : List LogRecord

def arrival (m : Method) (url : String) (r : Response) : LogRecord :=
  .debug s!"응답 수신: {m.name} {url} → {r.status.toNat} ({r.body.length} bytes)"

/-- What the server's doing comes to, for the request to a URL. -/
def outcome (r : Request) (u : Url) : Peer → Except String Response
  | .refuses => .error s!"연결 실패: error sending request for url ({u.text})"
  | .hangs => .error s!"타임아웃: error sending request for url ({u.text})"
  | .closes => .error s!"error sending request for url ({u.text})"
  | .answers raw missing =>
    let headers := raw.headers.map fun h => (lower h.1, Text.Utf8.toStringLossy (received h.2))
    if !raw.isReadable then .error s!"error sending request for url ({u.text})"
    else if isBodiless r.method raw.status then .ok ⟨raw.status, headers, []⟩
    else if 0 < missing then
      .error s!"응답 본문 수신 실패: error decoding response body for url ({u.text})"
    else .ok ⟨raw.status, headers, raw.body⟩

/-- The URL that is asked, and the request as its server is to see it. -/
def prepare (c : Client) (r : Request) : Except TransportError (Url × SeenRequest) :=
  match check r with
  | .error e => .error ⟨r.url, e.reason⟩
  | .ok (u, user) =>
    let headers := (c.fields user r.headers).map fun h => (h.1, receivedText h.2)
    .ok (u, ⟨r.method, u.target, headers, r.body.getD []⟩)

/-- A request sent to the server that its URL leads to. -/
def exchange (c : Client) (peer : Url → Peer) (r : Request) : Exchanged :=
  match c.prepare r with
  | .error e => ⟨.error e, [], []⟩
  | .ok (u, request) =>
    let seen := if peer u = .refuses then [] else [request]
    match outcome r u (peer u) with
    | .error reason => ⟨.error ⟨r.url, reason⟩, seen, []⟩
    | .ok response => ⟨.ok response, seen, [arrival r.method r.url response]⟩

end Client

end Courier.Http
