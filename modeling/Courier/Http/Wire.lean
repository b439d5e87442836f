import Courier.Http.Exchange

/-!
Messages on the wire: the bytes that ask a server for something, and what the bytes that come back
tell of it.  A response is whole when its body is as long as its header says, or when the last
chunk has come, or else when the server closes.
-/

namespace Courier.Http.Wire

open Text (Bytes)
open Text.Utf8 (ofString toStringLossy)

/-! ### Requests -/

def lineEnd : Bytes := [13, 10]

def line (s : String) : Bytes := ofString s ++ lineEnd

/-- The header fields that belong to the exchange itself. -/
def ownFields (host : String) (r : SeenRequest) : Headers :=
  [("accept", "*/*"), ("host", host), ("connection", "close")] ++
    if r.body = [] then [] else [("content-length", toString r.body.length)]

def request (host : String) (r : SeenRequest) : Bytes :=
  let first := line s!"{r.method.name} {r.target} HTTP/1.1"
  let fields := (r.headers ++ ownFields host r).flatMap fun h => line s!"{h.1}: {h.2}"
  first ++ fields ++ lineEnd ++ r.body

/-! ### Heads of responses -/

/-- The bytes before the first empty line, and those after it. -/
def splitHead : Bytes → Option (Bytes × Bytes)
  | 13 :: 10 :: 13 :: 10 :: rest => some ([], rest)
  | b :: rest => (splitHead rest).map fun p => (b :: p.1, p.2)
  | [] => none

def lines : Bytes → List Bytes
  | [] => [[]]
  | 13 :: 10 :: rest => [] :: lines rest
  | b :: rest =>
    match lines rest with
    | l :: ls => (b :: l) :: ls
    | [] => [[b]]

/-- The number that digits of a base write. -/
def number? (digit : Char → Option Nat) (base : Nat) (cs : List Char) : Option Nat :=
  if cs = [] then none
  else cs.foldlM (fun n c => (digit c).map (base * n + ·)) 0

def decimalDigit (c : Char) : Option Nat := if c.isDigit then some (c.toNat - 48) else none

def hexadecimalDigit (c : Char) : Option Nat :=
  let c := c.toLower
  if c.isDigit then some (c.toNat - 48)
  else if 'a' ≤ c ∧ c ≤ 'f' then some (c.toNat - 87)
  else none

/-- The status that the first line of a head tells. -/
def status? (l : Bytes) : Option UInt16 :=
  match (toStringLossy l).toList with
  | 'H' :: 'T' :: 'T' :: 'P' :: '/' :: '1' :: '.' :: _ :: ' ' :: a :: b :: c :: _ =>
    (number? decimalDigit 10 [a, b, c]).map UInt16.ofNat
  | _ => none

def field? (l : Bytes) : Option (String × Bytes) :=
  match l.span (· != 58) with
  | (name, _ :: value) => some (toStringLossy name, received value)
  | (_, []) => none

/-- The status and the header fields of a head. -/
def head? (bs : Bytes) : Option (UInt16 × List (String × Bytes)) :=
  match lines bs with
  | [] => none
  | l :: ls => do return (← status? l, ← ls.mapM field?)

/-! ### Bodies of responses -/

/-- How the end of a body is found. -/
inductive Framing
  | length (n : Nat)
  | chunks
  | untilClosed
  deriving DecidableEq, Repr

/-- How the end of the body is found after some header fields. -/
def framing (hs : List (String × Bytes)) : Framing :=
  let texts := hs.map fun h => (h.1, toStringLossy h.2)
  match Headers.get? texts "transfer-encoding", Headers.get? texts "content-length" with
  | some _, _ => .chunks
  | none, some s => (number? decimalDigit 10 s.toList).elim .untilClosed .length
  | none, none => .untilClosed

/-- The size that the first line of a chunk tells. -/
def chunkSize? (l : Bytes) : Option Nat :=
  number? hexadecimalDigit 16 ((toStringLossy (received (l.takeWhile (· != 59)))).toList)

/-- The bytes before the first end of a line, and those after it. -/
def splitLine : Bytes → Option (Bytes × Bytes)
  | 13 :: 10 :: rest => some ([], rest)
  | b :: rest => (splitLine rest).map fun p => (b :: p.1, p.2)
  | [] => none

/-- The body that chunks make, if the last one is there; there are at most `fuel` of them. -/
def chunksUpTo? : (fuel : Nat) → Bytes → Option Bytes
  | 0, _ => none
  | fuel + 1, bs => do
    let (l, rest) ← splitLine bs
    let n ← chunkSize? l
    if n = 0 then return []
    else if rest.length < n then none
    else return rest.take n ++ (← chunksUpTo? fuel (rest.drop (n + lineEnd.length)))

/-- The body that chunks make, if the last one is there.  No chunk is empty. -/
def chunked? (bs : Bytes) : Option Bytes := chunksUpTo? bs.length bs

/-- What a server did, as far as the bytes that it sent tell; nothing if more has to come. -/
def heard? (m : Method) (closed : Bool) (bs : Bytes) : Option Peer :=
  match splitHead bs with
  | none => if closed then some .closes else none
  | some (start, rest) =>
    match head? start with
    | none => some .closes
    | some (status, headers) =>
      let whole (body : Bytes) : Option Peer := some (.answers ⟨status, headers, body⟩ 0)
      let cut (missing : Nat) : Option Peer :=
        if closed then some (.answers ⟨status, headers, rest⟩ missing) else none
      if Client.isBodiless m status then whole []
      else match framing headers with
        | .length n => if n ≤ rest.length then whole (rest.take n) else cut (n - rest.length)
        | .chunks => (chunked? rest).elim (cut 1) whole
        | .untilClosed => cut 0

end Courier.Http.Wire
