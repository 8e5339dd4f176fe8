import Mailwire.Rehearsal.FarEnd
import Mailwire.Rehearsal.Internet
import Mailwire.Transport

/-!
# A stage for transports

Two transports of one connector, of which one is active, and the far end of each one's latest
connection. A far end stays on stage when its connection is closed, until the next opening.
-/

namespace Mailwire.Rehearsal

/-- A transport and the far end of its latest connection. -/
structure Seat where
  transport : Transport Internet
  peer : Option Peer

/-- Two transports in one internet. -/
structure Stage where
  active : Seat
  resting : Seat
  internet : Internet

namespace Stage

/-- A transport of the connector and its clone. -/
def ofConnector (connector : Connector Internet) (internet : Internet) : Stage :=
  let transport := Transport.ofConnector connector
  ⟨⟨transport, none⟩, ⟨transport.clone, none⟩, internet⟩

/-- Makes the other transport the active one. -/
def swap (s : Stage) : Stage := { s with active := s.resting, resting := s.active }

variable {α : Type}

/-- Lets a task work on the active transport. -/
def onTransport (task : Task (Transport Internet) (Fault Error) α) :
    Task Stage (Fault Error) α := fun s =>
  let r := task.run s.active.transport
  ⟨r.result, { s with active.transport := r.state }, r.trace⟩

/-- Opens the active transport, and answers the address that the connection comes from. -/
def «open» : Task Stage Error IpAddress := fun s =>
  let r := Transport.open.run (s.active.transport, s.internet)
  let client := (r.state.1.connection.map (·.client)).getD .loopback
  ⟨r.result.map fun _ => client,
    { s with
      active := ⟨r.state.1, r.state.1.connection.map fun _ => .fresh⟩
      internet := r.state.2 },
    r.trace⟩

def close : Task Stage Error Unit := fun s =>
  let r := (Transport.close (ε := Error)).run s.active.transport
  let peer :=
    match r.result with
    | .ok (some connection) =>
      s.active.peer.map fun p => { p with released := some connection.lines.wire }
    | _ => s.active.peer
  ⟨r.result.map fun _ => (), { s with active := ⟨r.state, peer⟩ }, r.trace⟩

/-- Puts a wire in the place of that of the active connection. -/
def rewire (wire : Option Wire) (s : Stage) : Stage :=
  match s.active.transport.connection, wire with
  | some c, some wire =>
    { s with active.transport.connection := some { c with lines.wire := wire } }
  | _, _ => s

/-- Lets the far end of the active transport act. Answers nothing if there is none. -/
def atPeer (f : Bool → Nat → Wire → α × Nat × Wire) (s : Stage) : Option (α × Stage) := do
  let peer ← s.active.peer
  let held := s.active.transport.connection.map fun c => (c.isTls, c.lines.wire)
  let (a, wire, peer) ← peer.act f held
  return (a, { s.rewire wire with active.peer := some peer })

end Stage

end Mailwire.Rehearsal
