import CatalogBridge.Net.Message
import CatalogBridge.Net.Url
import Std.Async.DNS
import Std.Async.TCP
import Std.Async.Timer

/-!
# Connections

The outer layer of what goes over the network: one request over one connection, and a listener
that answers one request over each. What is sent and how answers are read is said elsewhere
(`Message`); this module only moves octets.
-/

namespace CatalogBridge.Connection

open Std.Async

/-- An address as the system takes it. -/
def systemAddress? : IpAddress → Option Std.Net.IPAddr
  | .v4 [a, b, c, d] => some (.v4 (.ofParts (.ofNat a) (.ofNat b) (.ofNat c) (.ofNat d)))
  | .v6 [a, b, c, d, e, f, g, h] =>
    some (.v6
      (.ofParts (.ofNat a) (.ofNat b) (.ofNat c) (.ofNat d) (.ofNat e) (.ofNat f) (.ofNat g)
        (.ofNat h)))
  | _ => none

/-- An address and a port as the system takes them. -/
def socketAddress (address : Std.Net.IPAddr) (port : Nat) : Std.Net.SocketAddress :=
  match address with
  | .v4 address => .v4 ⟨address, .ofNat port⟩
  | .v6 address => .v6 ⟨address, .ofNat port⟩

/-- The addresses of a host. -/
def resolve : Host → Async (List Std.Net.IPAddr)
  | .address ip => return (systemAddress? ip).toList
  | .name text => return (← DNS.getAddrInfo text "").toList

/-- Read until the message is complete or the connection ends; each read is given up after so many
milliseconds. -/
partial def receive (socket : TCP.Socket.Client) (patience : Nat) (sofar : List UInt8) :
    Async (Option (Message × List UInt8)) := do
  let complete (closed : Bool) : Option (Message × List UInt8) := do
    let message ← Message.parse? sofar
    return (message, ← message.body? closed)
  match complete false with
  | some found => return some found
  | none =>
    let pause ← Selector.sleep (Std.Time.Millisecond.Offset.ofNat patience)
    let octets ← Selectable.one #[
      .case (socket.recvSelector 65536) fun octets => return octets,
      .case pause fun _ => return none]
    match octets with
    | some octets => receive socket patience (sofar ++ octets.toList)
    | none => return complete true

/-- Send a message to the host of an address and wait for the answer; `none` if there is none. -/
def exchange (url : Url) (patience : Nat) (message : List UInt8) :
    Async (Option (Message × List UInt8)) := do
  try
    if url.scheme ≠ "http" then return none
    let some host := url.host | return none
    let some address := (← resolve host).head? | return none
    let socket ← TCP.Socket.Client.mk
    socket.connect (socketAddress address (url.port.getD 80))
    socket.send ⟨message.toArray⟩
    let answer ← receive socket patience []
    socket.shutdown
    return answer
  catch _ => return none

/-- Answer one request over a connection. -/
def answer (socket : TCP.Socket.Client) (respond : Message → IO (List UInt8)) : Async Unit := do
  try
    let some (message, _) ← receive socket 10000 [] | return
    socket.send ⟨(← respond message).toArray⟩
    socket.shutdown
  catch _ => return

/-- Answer connections one after the other. -/
partial def serve (server : TCP.Socket.Server) (respond : Message → IO (List UInt8)) :
    Async Unit := do
  let socket ← server.accept
  answer socket respond
  serve server respond

/-- A listener on an endpoint, or why there is none. -/
def listen (endpoint : Endpoint) : IO (Except String TCP.Socket.Server) := do
  try
    let some address := systemAddress? endpoint.ip | return .error "invalid address"
    let server ← TCP.Socket.Server.mk
    server.bind (socketAddress address endpoint.port)
    server.listen 128
    return .ok server
  catch failure => return .error (toString failure)

end CatalogBridge.Connection
