import Courier.Url.Address
import Courier.Url.Form

/-!
URLs of the schemes that have an authority and a path of segments, in the parts that reading gives
them, and their text.
-/

namespace Courier

namespace Url

/-! ### Parts -/

/-- The schemes whose URLs have a host and a path of segments. -/
inductive Scheme
  | http
  | https
  | ws
  | wss
  | ftp
  deriving DecidableEq, Repr

namespace Scheme

def name : Scheme → String
  | http => "http"
  | https => "https"
  | ws => "ws"
  | wss => "wss"
  | ftp => "ftp"

/-- The port that is meant if none is given. -/
def defaultPort : Scheme → Nat
  | http => 80
  | https => 443
  | ws => 80
  | wss => 443
  | ftp => 21

def all : List Scheme := [http, https, ws, wss, ftp]

def ofName? (s : String) : Option Scheme := all.find? (·.name == s)

def isWeb : Scheme → Bool
  | http | https => true
  | _ => false

end Scheme

/-- A host: a name in its ASCII form, or a numeric address. -/
inductive Host
  | domain (name : String)
  | ipv4 (n : Nat)
  | ipv6 (groups : List Nat)
  deriving DecidableEq, Repr

def Host.text : Host → List Char
  | domain name => name.toList
  | ipv4 n => Address.ipv4Text n
  | ipv6 gs => '[' :: Address.ipv6Text gs ++ [']']

/-- Why a text is no URL. -/
inductive Refusal
  | emptyHost
  | invalidName
  | invalidPort
  | invalidIpv4
  | invalidIpv6
  | invalidHostCharacter
  | relative
  deriving DecidableEq, Repr

def Refusal.message : Refusal → String
  | emptyHost => "empty host"
  | invalidName => "invalid international domain name"
  | invalidPort => "invalid port number"
  | invalidIpv4 => "invalid IPv4 address"
  | invalidIpv6 => "invalid IPv6 address"
  | invalidHostCharacter => "invalid domain character"
  | relative => "relative URL without a base"

/-- Who is asked: the name and password of the user, the host, and the port unless it is the one
of the scheme. -/
structure Authority where
  username : String
  password : String
  host : Host
  port : Option Nat
  deriving DecidableEq, Repr

end Url

open Url in
/-- A URL.  Its parts are percent-encoded, and its path has at least one segment. -/
structure Url where
  scheme : Scheme
  authority : Authority
  path : List String
  query : Option String
  fragment : Option String
  deriving DecidableEq, Repr

namespace Url

/-! ### Text -/

/-- The name and password of the user before the host. -/
def Authority.userText (a : Authority) : List Char :=
  if a.username = "" ∧ a.password = "" then []
  else
    a.username.toList ++ (if a.password = "" then [] else ':' :: a.password.toList) ++ ['@']

def Authority.text (a : Authority) : List Char :=
  a.userText ++ a.host.text ++
    match a.port with
    | none => []
    | some p => ':' :: Nat.toDigits 10 p

/-- The text of a path: a slash before each segment. -/
def pathText (segments : List String) : List Char := segments.flatMap fun s => '/' :: s.toList

def partText (mark : Char) : Option String → List Char
  | none => []
  | some s => mark :: s.toList

/-- The path and the query: what a server is asked for. -/
def target (u : Url) : String := String.ofList (pathText u.path ++ partText '?' u.query)

def text (u : Url) : String :=
  String.ofList (u.scheme.name.toList ++ [':', '/', '/'] ++ u.authority.text ++ pathText u.path ++
    partText '?' u.query ++ partText '#' u.fragment)

/-- The URL with pairs added at the end of its query; without pairs it stays as it is. -/
def addPairs (u : Url) (pairs : List (String × String)) : Url :=
  if pairs.isEmpty then u
  else { u with query := some (String.ofList (Form.append ((u.query.getD "").toList) pairs)) }

end Url

end Courier
