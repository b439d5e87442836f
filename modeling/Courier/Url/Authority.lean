import Courier.Url.Basic
import Courier.Url.Domain

/-!
The authority of a URL read from text: the user before the last `@`, the host, and the port after
its colon.
-/

namespace Courier.Url

/-! ### Ends and parts -/

/-- Whether a character ends the authority or a segment of a path. -/
def isSlash (c : Char) : Bool := c == '/' || c == '\\'

/-- Whether a character ends the authority. -/
def endsAuthority (c : Char) : Bool := isSlash c || c == '?' || c == '#'

/-- What stands before the last `@`, if there is one, and what stands after it. -/
def splitUser (cs : List Char) : Option (List Char) × List Char :=
  let back := cs.reverse
  if cs.contains '@' then
    (some ((back.dropWhile (· ≠ '@')).drop 1).reverse, (back.takeWhile (· ≠ '@')).reverse)
  else (none, cs)

/-- The host and what follows it: a colon between brackets is part of the host. -/
def splitHost : (bracket : Bool) → List Char → List Char × List Char
  | _, [] => ([], [])
  | bracket, c :: cs =>
    if c = ':' ∧ ¬bracket then ([], c :: cs)
    else
      let bracket := if c = '[' then true else if c = ']' then false else bracket
      let (host, rest) := splitHost bracket cs
      (c :: host, rest)

def bracketHost (cs : List Char) : Except Refusal Host :=
  if cs.getLast? = some ']' then
    match Address.ipv6? (cs.drop 1).dropLast with
    | some gs => .ok (.ipv6 gs)
    | none => .error .invalidIpv6
  else .error .invalidIpv6

def readHost (cs : List Char) : Except Refusal Host :=
  if cs.head? = some '[' then bracketHost cs
  else
    let decoded := Text.Utf8.toStringLossy (Percent.decode (Text.Utf8.encode cs))
    match Domain.toAscii? decoded.toList with
    | none => .error .invalidName
    | some [] => .error .emptyHost
    | some name =>
      if Address.endsInNumber name then
        match Address.ipv4? name with
        | some n => .ok (.ipv4 n)
        | none => .error .invalidIpv4
      else .ok (.domain (String.ofList name))

/-- The port after its colon, none if it is left out or the default. -/
def readPort (default : Option Nat) (cs : List Char) : Except Refusal (Option Nat) :=
  if !cs.all Char.isDigit then .error .invalidPort
  else
    match cs with
    | [] => .ok none
    | _ =>
      let n := cs.foldl (fun n c => n * 10 + (c.toNat - 48)) 0
      if 65535 < n then .error .invalidPort
      else .ok (if default = some n then none else some n)

/-- The user name and the password, parted by the first colon. -/
def readUser (cs : List Char) : String × String :=
  let part (cs : List Char) : String := String.ofList (Percent.encode Percent.userinfo cs)
  (part (cs.takeWhile (· ≠ ':')), part ((cs.dropWhile (· ≠ ':')).drop 1))

def readAuthority (scheme : Scheme) (cs : List Char) : Except Refusal Authority := do
  let (user, hostPort) := splitUser cs
  let (hostText, rest) := splitHost false hostPort
  if hostText.isEmpty then throw .emptyHost
  let host ← readHost hostText
  let port ← readPort (some scheme.defaultPort) (rest.drop 1)
  let (username, password) := readUser (user.getD [])
  return ⟨username, password, host, port⟩

end Courier.Url
