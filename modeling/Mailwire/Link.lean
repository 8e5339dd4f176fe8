import Mailwire.Tls.Handshake
import Mailwire.Wire.Basic

/-!
# Links

A link is a connected wire together with both its ends. It is plain at first and can be upgraded
to TLS once; whether the host fits the certificate is for others to verify.
-/

namespace Mailwire

/-- What waits at an address: a wire, and how a handshake over it would go. -/
structure Server where
  wire : Wire
  handshake : Handshake
deriving DecidableEq, Repr

/-- Both ends of a connection, and the session that secures it. -/
structure Endpoints where
  /-- The address that was connected to. -/
  peer : SocketAddress
  /-- The address that the connection comes from. -/
  client : IpAddress
  /-- How the far end answers a handshake. -/
  handshake : Handshake
  /-- The TLS session; there is none while the connection is plain. -/
  session : Option Session
deriving DecidableEq, Repr

def Endpoints.isTls (e : Endpoints) : Bool := e.session.isSome

/-- A connected stream, plain or encrypted. -/
structure Link extends Endpoints where
  wire : Wire
deriving DecidableEq, Repr

namespace Link

def plain (peer : SocketAddress) (client : IpAddress) (server : Server) : Link where
  peer := peer
  client := client
  handshake := server.handshake
  session := none
  wire := server.wire

/-- Upgrades a plain link. A link is upgraded only once, and only for the name of a server. -/
def upgrade (connector : TlsConnector) (host : String) (link : Link) : Except Error Link :=
  if link.isTls then .error (.ssl "stream is already TLS")
  else
    match ServerName.parse? host with
    | none => .error .invalidDnsName
    | some _ =>
      match link.handshake.perform connector with
      | .error e => .error (.io e)
      | .ok session => .ok { link with session := some session }

end Link

end Mailwire
