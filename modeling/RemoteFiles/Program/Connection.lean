import RemoteFiles.Stream
import Std.Async.DNS
import Std.Async.TCP
import Std.Async.Timer

/-!
# Connections

Every request goes over a connection of its own. Connecting, sending and each piece that is
received have to be done within the time that the user allows.

* `exchange` -- sends a frame, and takes what comes back until a whole frame is there.
-/

namespace RemoteFiles.Program

open Std.Async Std.Net

/-- The longest time that the clock is set to, in milliseconds. -/
def longest : Nat := UInt64.size / 4

/-- The result of `x`, or a failure when the time is over. -/
def within {α : Type} [Inhabited α] (seconds : UInt64) (x : Async α) : Async α :=
  Async.race x do
    sleep (.ofNat (min (seconds.toNat * 1000) longest))
    throw (IO.userError "timed out")

/-- An address with a port. -/
def socketAddress (port : UInt16) : IPAddr → SocketAddress
  | .v4 addr => .v4 { addr, port }
  | .v6 addr => .v6 { addr, port }

/-- A connection to the first of the addresses that accepts one, `failure` being why there is none
    so far. -/
def connectAny (seconds : UInt64) (failure : IO.Error) :
    List SocketAddress → Async TCP.Socket.Client
  | [] => throw failure
  | address :: later => do
    try
      let client ← TCP.Socket.Client.mk
      within seconds (client.connect address)
      return client
    catch failure => connectAny seconds failure later

/-- Receives pieces until there are at least `n` bytes, or until the other side has no more. -/
partial def receive (seconds : UInt64) (client : TCP.Socket.Client) (n : Nat) :
    Async Source := do
  if n = 0 then return []
  match ← within seconds (client.recv? (UInt64.ofNat (min n 65536))) with
  | none => return []
  | some piece => return piece.toList :: (← receive seconds client (n - piece.size))

/-- Receives the pieces of a frame: its header, and what the header promises. -/
def receiveFrame (seconds : UInt64) (client : TCP.Socket.Client) : Async Source := do
  let header ← receive seconds client ResponseHeader.length
  match expectedLength header.flatten with
  | .ok total =>
    return header ++ (← receive seconds client (total - ResponseHeader.length))
  | .error _ => return header

/-- Sends a frame to a server, and receives the pieces of its answer. -/
def exchange (host : String) (port : UInt16) (seconds : UInt64) (frame : Bytes) : IO Source :=
  Async.block do
    let addresses ← DNS.getAddrInfo host port.toNat.repr
    let client ← connectAny seconds (IO.userError ("No addresses for " ++ host))
      (addresses.toList.map (socketAddress port))
    within seconds (client.send frame.toByteArray)
    receiveFrame seconds client

end RemoteFiles.Program
