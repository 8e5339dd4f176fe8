import Mailwire.LineStream.Lines
import Mailwire.Link

/-!
# Connections

A connection is a link with buffers, set up as a configuration says. Closing it sends what is
pending and ends the sending side, for a limited time; nothing that goes wrong then is an error.
-/

namespace Mailwire

/-- An open connection. -/
structure Connection extends Endpoints where
  lines : LineStream
  /-- The configuration that it was opened with. -/
  config : Config
deriving DecidableEq, Repr

namespace Connection

/-- The connection over a link, with buffers of the configured sizes. A size of 0 leaves no room. A size
beyond `LineStream.maxCapacity` cannot be had, and to ask for it ends the program: that is no error which
could be answered here. -/
def ofLink (config : Config) (link : Link) : Connection where
  toEndpoints := link.toEndpoints
  config := config
  lines :=
    { LineStream.ofWire config.readBufferSize.toNat config.writeBufferSize.toNat link.wire with
      readTimeout := some config.readTimeout
      maxLineLength := config.maxLineLength.toNat }

def isOpen (c : Connection) : Bool := c.lines.wire.connected

/-- The address that was connected to, as the socket knows it. -/
def peerAddress (c : Connection) : Except IoError SocketAddress :=
  if c.isOpen then .ok c.peer else .error .notConnected

/-- Lets a task work on the lines of a connection. -/
def onLines {ε α : Type} (task : Task LineStream ε α) : Task Connection ε α := fun c =>
  let r := task.run c.lines
  ⟨r.result, { c with lines := r.state }, r.trace⟩

def writeLine (line : String) (replacement : Option String) :
    Task Connection (Fault IoError) Unit :=
  onLines (LineStream.writeLine line replacement)

def readLine (loggable : Bool) : Task Connection (Fault IoError) String :=
  onLines (LineStream.readLine loggable)

def readLineOctets (loggable : Bool) : Task Connection (Fault IoError) Octets :=
  onLines (LineStream.readLineOctets loggable)

/-- The moment by which closing has to be done. -/
def closeDeadline (c : Connection) : Nat := Clock.after c.lines.wire.now c.config.readTimeout.ticks

/-- Closes a connection. It must not be used any more. -/
def close {ε : Type} : Task Connection ε Unit := do
  let c ← Task.state
  match ← Task.attempt (onLines (Task.step (LineStream.shutdown (some c.closeDeadline)))) with
  | .ok () => pure ()
  | .error (.failed e) => Task.log (.closingFailed e.message)
  | .error .unanswered => Task.log (.closingTimedOut c.config.readTimeout)
  Task.log .closed

end Connection

end Mailwire
