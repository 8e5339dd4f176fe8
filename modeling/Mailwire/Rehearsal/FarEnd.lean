import Mailwire.Rehearsal.Server

/-!
# The far end of a wire

What a far end can do that acts of its own accord. All that it sends has arrived at once. The far
end stays when the client lets go of the wire: then it goes on with the wire as it was left.
-/

namespace Mailwire.Rehearsal

namespace FarEnd

/-! ### Acts -/

def send (octets : Octets) (w : Wire) : Wire := { w with arrived := w.arrived ++ octets }

/-- Takes octets that were sent to it, at most `count` beyond those that it took before. -/
def receive (taken count : Nat) (w : Wire) : Octets := (w.sent.toList.drop taken).take count

def receiveAll (taken : Nat) (w : Wire) : Octets := w.sent.toList.drop taken

def finish (w : Wire) : Wire := { w with afterDeliveries := .eof }

/-- What reads see of a far end that has left. -/
def absence (secure : Bool) : Ending := if secure then .noFarewell else .eof

def leave (secure : Bool) (w : Wire) : Wire :=
  { w with afterDeliveries := absence secure, afterReceptions := .leaving }

def cut (secure : Bool) (w : Wire) : Wire :=
  { w with
    cut := true
    connected := false
    afterDeliveries := absence secure
    afterReceptions := .gone }

def stall (w : Wire) : Wire := { w with afterReceptions := .full }

end FarEnd

/-! ### Whose wire it is -/

/-- The far end of a connection. -/
structure Peer where
  /-- How many octets it has taken. -/
  taken : Nat
  /-- The wire as the client has left it. -/
  released : Option Wire
deriving DecidableEq, Repr

namespace Peer

def fresh : Peer := ⟨0, none⟩

/-- Lets the far end act on a wire, `held` by the client and then perhaps secure, or released.
Answers what came of it, the wire if it is held, and the far end. -/
def act {α : Type} (f : Bool → Nat → Wire → α × Nat × Wire) (held : Option (Bool × Wire))
    (p : Peer) : Option (α × Option Wire × Peer) :=
  match held, p.released with
  | some (secure, wire), _ =>
    let (a, taken, wire) := f secure p.taken wire
    some (a, some wire, { p with taken := taken })
  | none, some wire =>
    let (a, taken, wire) := f false p.taken wire
    some (a, none, ⟨taken, some wire⟩)
  | none, none => none

def command (f : Bool → Wire → Wire) : Bool → Nat → Wire → Octets × Nat × Wire :=
  fun secure taken wire => ([], taken, f secure wire)

def receive (f : Nat → Wire → Octets) : Bool → Nat → Wire → Octets × Nat × Wire :=
  fun _ taken wire => (f taken wire, taken + (f taken wire).length, wire)

end Peer

end Mailwire.Rehearsal
