import Mailwire.Network.Designated
import Mailwire.Rehearsal.Server

/-!
# An internet to rehearse in

A machine, what it owns and what it reaches, and the servers that wait at addresses. The machine
knows address literals, and it knows no name.
-/

namespace Mailwire.Rehearsal

/-- What waits at an address. -/
inductive Listener
  /-- No connection is accepted. -/
  | refusing
  /-- Attempts to connect are not answered. -/
  | silent
  /-- Each connection is accepted by the next server; the last one accepts all that follow. -/
  | serving (next : Server) (later : List Server)
deriving DecidableEq, Repr

def Listener.accept (l : Listener) (client : IpAddress) : Arrival × Listener :=
  match l with
  | .refusing => (.failed .connectionRefused, .refusing)
  | .silent => (.silent, .silent)
  | .serving server [] => (.accepted client server, .serving server [])
  | .serving server (next :: later) => (.accepted client server, .serving next later)

/-- A machine and the listeners that there are. -/
structure Internet where
  /-- Whether a local address is one that sockets can be bound to. -/
  owns : IpAddress → Bool
  /-- Whether there is a route to an address. -/
  reaches : IpAddress → Bool
  listeners : List (IpAddress × Listener)

namespace Internet

/-- A machine without routes. Any address will do for its sockets, none can be connected to. -/
def isolated : Internet := ⟨fun _ => true, fun _ => false, []⟩

/-- An address that a machine has for talking to itself. -/
def isLoopback : IpAddress → Bool
  | .v4 127 _ _ _ => true
  | .v4 0 0 0 0 => true
  | _ => false

/-- A machine that reaches nothing but itself. -/
def loopback : Internet := ⟨isLoopback, isLoopback, []⟩

def listen (ip : IpAddress) (l : Listener) (net : Internet) : Internet :=
  { net with listeners := net.listeners ++ [(ip, l)] }

def silence (ip : IpAddress) (net : Internet) : Internet :=
  { net with listeners := net.listeners.filter (·.1 != ip) }

/-! ### Services -/

/-- What a host with a NUL character is refused with. -/
def nulInHost : IoError :=
  .described .invalidInput "file name contained an unexpected NUL byte"

/-- What a name is given up with that nobody knows. -/
def unknownHost : IoError :=
  .described .uncategorized
    "failed to lookup address information: Name or service not known"

/-- The addresses of a host: a literal stands for itself. -/
def lookup (host : String) : Except IoError (List IpAddress) :=
  if host.toList.contains '\x00' then .error nulInHost
  else
    match IpAddress.parse? host with
    | some ip => .ok [ip]
    | none => .error unknownHost

def bind (socket : Socket) (ip : IpAddress) (net : Internet) : Except IoError Socket :=
  if net.owns ip then .ok { socket with boundTo := some ip } else .error .addressNotOwned

/-- Lets the listener at an address accept a connection. Where there is none, it is refused. -/
def knock (client ip : IpAddress) :
    List (IpAddress × Listener) → Arrival × List (IpAddress × Listener)
  | [] => (.failed .connectionRefused, [])
  | (place, l) :: more =>
    if place = ip then
      let (arrival, l) := l.accept client
      (arrival, (place, l) :: more)
    else
      let (arrival, more) := knock client ip more
      (arrival, (place, l) :: more)

def connect (socket : Socket) (address : SocketAddress) (net : Internet) : Arrival × Internet :=
  if socket.family ≠ address.family then (.failed .familyNotSupported, net)
  else if !net.reaches address.ip then (.failed .networkUnreachable, net)
  else
    let client := socket.boundTo.getD .loopback
    let (arrival, listeners) := knock client address.ip net.listeners
    (arrival, { net with listeners := listeners })

def platform : Platform Internet where
  lookup host := fun net => (lookup host, net)
  createSocket family := fun net => (.ok ⟨family, none⟩, net)
  bind socket ip := fun net => (net.bind socket ip, net)
  connect := connect

end Internet

/-! ### Scripted collaborators -/

/-- A source of sockets that fails for some addresses. -/
structure SocketScript where
  /-- The addresses for which there is no socket. -/
  failing : List (IpAddress × IoError)
  /-- What all other sockets fail with. -/
  otherwise : Option IoError
  /-- The family of all sockets; without one it is that of the address. -/
  family : Option Family
deriving DecidableEq, Repr

def SocketScript.create {ω : Type} (script : SocketScript) (address : SocketAddress) :
    Step ω Socket := fun world =>
  match (script.failing.lookup address.ip).or script.otherwise with
  | some e => (.error e, world)
  | none => (.ok ⟨script.family.getD address.family, none⟩, world)

/-- A network that resolves every host alike. -/
def scriptedNetwork {ω : Type} (answer : Except IoError (List IpAddress))
    (script : SocketScript) : Network ω where
  resolve _ := fun world => (answer, world)
  createSocket := script.create

end Mailwire.Rehearsal
