import Courier.Http.Wire
import Std.Async.DNS
import Std.Async.Signal
import Std.Async.TCP
import Std.Async.Timer

/-!
The network: what a real server does with a request.  Only plain connections are made; a server
that wants secrecy counts as refusing.
-/

namespace Courier.Cli.Network

open Http (Method Peer SeenRequest)
open Std.Async Std.Net

def packed (bs : Text.Bytes) : ByteArray := ⟨bs.toArray⟩

/-- The name by which the host is looked up. -/
def hostName : Url.Host → String
  | .ipv6 gs => String.ofList (Url.Address.ipv6Text gs)
  | h => String.ofList h.text

/-- The host and the port as the request names them. -/
def hostField (a : Url.Authority) : String :=
  String.ofList { a with username := "", password := "" }.text

def place (port : UInt16) : IPAddr → SocketAddress
  | .v4 addr => .v4 ⟨addr, port⟩
  | .v6 addr => .v6 ⟨addr, port⟩

/-- A connection to the first address that takes one. -/
def connect (port : UInt16) : List IPAddr → Async (Option TCP.Socket.Client)
  | [] => return none
  | a :: rest => do
    let socket ← TCP.Socket.Client.mk
    try
      socket.connect (place port a)
      return some socket
    catch _ => connect port rest

def blockSize : UInt64 := 65536

/-- What the server on the other side does, after some of its bytes were read. -/
partial def listen (socket : TCP.Socket.Client) (m : Method) (heard : Text.Bytes) : Async Peer := do
  let block ← try socket.recv? blockSize catch _ => pure none
  let heard := heard ++ (block.elim [] fun b => b.toList)
  match Http.Wire.heard? m block.isNone heard with
  | some peer => return peer
  | none => listen socket m heard

def contact (u : Url) (r : SeenRequest) : Async Peer := do
  if u.scheme != .http then return .refuses
  let port := UInt16.ofNat (u.authority.port.getD u.scheme.defaultPort)
  let addresses ← try DNS.getAddrInfo (hostName u.authority.host) "" catch _ => pure #[]
  match ← connect port addresses.toList with
  | none => return .refuses
  | some socket =>
    try
      socket.send (packed (Http.Wire.request (hostField u.authority) r))
      listen socket r.method []
    catch _ => return .closes

/-- What a server does with a request within some milliseconds; nothing if the user interrupts. -/
def ask (u : Url) (r : SeenRequest) (timeoutMs : UInt64) : Async (Option Peer) := do
  let interrupt ← Signal.Waiter.mk .sigint false
  let answer : Async (Option Peer) := do return some (← contact u r)
  let timeout : Async (Option Peer) := do
    sleep (.ofNat timeoutMs.toNat)
    return some .hangs
  let interruption : Async (Option Peer) := do
    discard <| await (← interrupt.wait)
    return none
  Async.race answer (Async.race timeout interruption)

end Courier.Cli.Network
