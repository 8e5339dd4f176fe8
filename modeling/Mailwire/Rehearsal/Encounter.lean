import Mailwire.Rehearsal.FarEnd
import Mailwire.Rehearsal.Internet

/-!
# Encounters

A client holds a bare link to one server. It gives the link up when it drops it, and an upgrade
that fails uses it up.
-/

namespace Mailwire.Rehearsal

/-- A link that a client may hold, and its far end. -/
structure Encounter where
  link : Option Link
  peer : Peer
deriving DecidableEq, Repr

namespace Encounter

/-- Meets a server at an address of the internet, if it can be reached there. -/
def begin? (net : Internet) (address : SocketAddress) : Option Encounter :=
  match (net.connect ⟨address.family, none⟩ address).1 with
  | .accepted client server => some ⟨some (.plain address client server), .fresh⟩
  | _ => none

def drop (e : Encounter) : Encounter :=
  match e.link with
  | some link => ⟨none, { e.peer with released := some link.wire }⟩
  | none => e

/-- Upgrades the link under a connector for a configuration. -/
def upgrade (config : Config) (host : String) (link : Link) (e : Encounter) :
    Except Error Unit × Encounter :=
  match (TlsConnector.ofConfig config).bind fun tls => link.upgrade tls host with
  | .ok link => (.ok (), { e with link := some link })
  | .error cause => (.error cause, e.drop)

def onWire {α : Type} (f : Wire → α × Wire) (link : Link) (e : Encounter) : α × Encounter :=
  let (a, wire) := f link.wire
  (a, { e with link := some { link with wire := wire } })

/-- Writes octets and asks the far end to take note of them. -/
def send (octets : Octets) (wire : Wire) : Except (Fault IoError) Unit × Wire :=
  match wire.writeAll none Wire.stuck octets with
  | (.ok (), _, wire) => wire.flush none
  | (.error f, _, wire) => (.error f, wire)

def atPeer {α : Type} (f : Bool → Nat → Wire → α × Nat × Wire) (e : Encounter) :
    Option (α × Encounter) := do
  let (a, wire, peer) ← e.peer.act f (e.link.map fun link => (link.isTls, link.wire))
  let link := e.link.map fun link => { link with wire := wire.getD link.wire }
  return (a, ⟨link, peer⟩)

end Encounter

end Mailwire.Rehearsal
