import Mailwire.Link

/-!
# Platforms

What a program needs of the machine it runs on to reach a server: the addresses of a name, sockets,
and connections. A platform has a state, so an answer may depend on all that was asked before.
-/

namespace Mailwire

/-- A step on a state that leaves no trace and may fail with an input or output error. -/
abbrev Step (ω α : Type) : Type := ω → Except IoError α × ω

/-- An unconnected socket. -/
structure Socket where
  family : Family
  /-- The local address that it is bound to. -/
  boundTo : Option IpAddress
deriving DecidableEq, Repr

/-- How an attempt to connect goes. -/
inductive Arrival
  | failed (e : IoError)
  /-- A server accepts the connection. -/
  | accepted (client : IpAddress) (server : Server)
  /-- Nothing comes back. -/
  | silent
deriving DecidableEq, Repr

/-- The services of a machine. -/
structure Platform (ω : Type) where
  /-- The addresses of a host. -/
  lookup : String → Step ω (List IpAddress)
  /-- A socket of a family that is bound to nothing. -/
  createSocket : Family → Step ω Socket
  /-- Binds a socket to a local address. -/
  bind : Socket → IpAddress → Step ω Socket
  /-- Connects a socket, which is used up. -/
  connect : Socket → SocketAddress → ω → Arrival × ω

/-- A socket for an address by the platform's own means. -/
def Platform.defaultSocket {ω : Type} (p : Platform ω) (address : SocketAddress) :
    Step ω Socket :=
  p.createSocket address.family

end Mailwire
