import Mailwire.Connection
import Mailwire.Network.Designated
import Mailwire.Tls.Verification

/-!
# Connectors

A connector opens connections to one configured server. The candidates, which are the addresses
that the designated network reports or else the host itself, are tried in order until one is
connected and, if the configuration says so, encrypted. Only an input or output error lets the next
candidate be tried; any other error ends the run. Listeners are told before an error is returned.
-/

namespace Mailwire

/-- One address to try. -/
inductive Candidate
  /-- The host itself, whose address is looked up when it is tried. -/
  | host (name : String) (port : UInt16)
  /-- An address that the designated network has reported. -/
  | address (address : SocketAddress)
deriving DecidableEq, Repr

def Candidate.text : Candidate → String
  | .host name port => name ++ ":" ++ toString port.toNat
  | .address a => a.text

/-- What it takes to open connections to a server: its configuration and where sockets come
from. -/
structure Connector (ω : Type) where
  platform : Platform ω
  config : Config
  /-- The designated network. -/
  network : Option (Network ω)
  /-- What creates sockets instead of the network and the platform. -/
  creator : Option (SocketAddress → Step ω Socket)

namespace Connector

variable {ω α : Type}

/-- A connector that uses the platform only. -/
def ofConfig (platform : Platform ω) (config : Config) : Connector ω where
  platform := platform
  config := config
  network := none
  creator := none

/-! ### Candidates -/

/-- The candidates in the order in which they are tried. -/
def candidates (c : Connector ω) : Task ω Error (List Candidate) :=
  match c.network with
  | none => pure [.host c.config.host c.config.port]
  | some network => do
    Task.emit (.resolving c.config.host)
    match ← Task.attempt (Task.step (network.resolve c.config.host)) with
    | .error cause =>
      Task.log (.resolutionFailed c.config.host cause.message)
      Task.notify .serverConnectionError
      Task.fail (.resolve c.config.host cause)
    | .ok addresses =>
      if addresses.isEmpty then
        Task.log (.noAddresses c.config.host)
        Task.notify .serverConnectionError
        Task.fail (.unresolved c.config.host)
      else return addresses.map fun ip => .address ⟨ip, c.config.port⟩

/-- What a host that has no address is given up with. -/
def noAddress (host : String) : IoError := .described .notFound ("no address for " ++ host)

def addressOf (c : Connector ω) : Candidate → Task ω Error SocketAddress
  | .address address => pure address
  | .host name port => do
    match ← Task.mapError Error.io (Task.step (c.platform.lookup name)) with
    | ip :: _ => return ⟨ip, port⟩
    | [] => Task.fail (.io (noAddress name))

/-! ### One attempt -/

/-- Where the sockets of a connector come from, and what creates them. -/
def socketSource (c : Connector ω) : SocketSource × (SocketAddress → Step ω Socket) :=
  match c.creator, c.network with
  | some create, _ => (.creator, create)
  | none, some network => (.network, network.createSocket)
  | none, none => (.system, c.platform.defaultSocket)

/-- What the log says about a source of sockets; nothing about one that was put in. -/
def sourceLine? : SocketSource → Option LogEvent
  | .creator => none
  | .network => some .socketOnDesignatedNetwork
  | .system => some .socketOnDefaultNetwork

def createSocket (c : Connector ω) (address : SocketAddress) : Task ω Error Socket := do
  let (source, create) := c.socketSource
  (sourceLine? source).forM Task.log
  Task.emit (.socketRequested source address)
  match ← Task.attempt (Task.step (create address)) with
  | .ok socket => return socket
  | .error cause =>
    Task.log (.socketCreationFailed cause.message)
    Task.fail (.socketCreation cause)

/-- What an address that does not answer is given up with. -/
def connectTimedOut (address : SocketAddress) (limit : Duration) : IoError :=
  .described .timedOut ("connect to " ++ address.text ++ " timed out after " ++ limit.text)

/-- Connects a socket within the limit for connecting. -/
def connectSocket (c : Connector ω) (socket : Socket) (address : SocketAddress) :
    Task ω Error Link :=
  Task.step fun world =>
    match c.platform.connect socket address world with
    | (.failed e, world) => (.error (.io e), world)
    | (.silent, world) => (.error (.io (connectTimedOut address c.config.connectTimeout)), world)
    | (.accepted client server, world) => (.ok (.plain address client server), world)

/-- Upgrades a link to TLS and verifies the server. The connector is made anew from the
configuration, so no candidate is treated less strictly for what happened to another. -/
def secure (config : Config) (link : Link) : Task ω Error Link := do
  Task.log .convertingToTls
  let tls ← Task.ofExcept (TlsConnector.ofConfig config)
  let link ← Task.ofExcept (link.upgrade tls config.host)
  if config.trustsAll then Task.log .skippingHostVerification
  else verifyPeer (link.session.map Session.chain) config.host
  return link

def attempt (c : Connector ω) (candidate : Candidate) : Task ω Error Link := do
  let address ← c.addressOf candidate
  let socket ← c.createSocket address
  let link ← c.connectSocket socket address
  if c.config.encrypts then secure c.config link else return link

/-! ### All attempts -/

/-- Tries candidates in order until one does not end in an input or output error. `done` is how
many were tried before. -/
def failover (host : String) (attempt : Candidate → Task ω Error α) (done : Nat) :
    List Candidate → Task ω Error α
  | [] => Task.fail (.unresolved host)
  | candidate :: rest => do
    match ← Task.attempt (attempt candidate) with
    | .ok a => return a
    | .error (.io cause) =>
      Task.log (.attemptFailed candidate.text cause.message)
      if rest.isEmpty then
        Task.log (.noMoreAddresses (done + 1))
        Task.notify .serverConnectionError
        Task.fail (.connect candidate.text (done + 1) cause)
      else failover host attempt (done + 1) rest
    | .error e => Task.fail e

def connect (c : Connector ω) : Task ω Error Connection := do
  Task.log (.opening c.config.host c.config.port)
  let candidates ← c.candidates
  let link ← failover c.config.host c.attempt 0 candidates
  return .ofLink c.config link

end Connector

end Mailwire
