import Mailwire.Connector

/-!
# Transports

A transport is opened and closed any number of times and holds at most one connection. Opening
closes what is open first. While it is closed, operations on lines fail and do nothing else.
-/

namespace Mailwire

/-- A line transport to one server. -/
structure Transport (ω : Type) where
  connector : Connector ω
  /-- The connection that is held. -/
  connection : Option Connection

namespace Transport

variable {ω ε α : Type}

def ofConnector (connector : Connector ω) : Transport ω := ⟨connector, none⟩

/-- A closed transport of the same connector. -/
def clone (t : Transport ω) : Transport ω := ofConnector t.connector

def encrypts (t : Transport ω) : Bool := t.connector.config.encrypts

def trustsAll (t : Transport ω) : Bool := t.connector.config.trustsAll

/-- Whether a connection is held whose socket is connected. -/
def isOpen (t : Transport ω) : Bool := t.connection.any Connection.isOpen

/-! ### Opening and closing -/

/-- Closes a transport. Never fails. Answers what has become of the connection that was held. -/
def close : Task (Transport ω) ε (Option Connection) := fun t =>
  match t.connection with
  | none => ⟨.ok none, t, [.log .closeWithoutConnection]⟩
  | some connection =>
    let r := (Connection.close (ε := ε)).run connection
    ⟨r.result.map fun _ => some r.state, { t with connection := none }, r.trace⟩

/-- Opens a connection on a transport that was closed. -/
def establish : Task (Transport ω × ω) Error Unit := fun (t, world) =>
  let r := t.connector.connect.run world
  ⟨r.result.map fun _ => (), ({ t with connection := r.result.toOption }, r.state), r.trace⟩

/-- Lets a task work on the transport and leave the world alone. -/
def onTransport (task : Task (Transport ω) ε α) : Task (Transport ω × ω) ε α := fun (t, world) =>
  let r := task.run t
  ⟨r.result, (r.state, world), r.trace⟩

/-- Opens a transport; a connection that is held is closed first. On failure the transport stays
closed. -/
def «open» : Task (Transport ω × ω) Error Unit := do
  let _ ← onTransport close
  establish

/-! ### Lines -/

/-- Lets a task work on the connection that is held. -/
def onConnection (task : Task Connection (Fault IoError) α) :
    Task (Transport ω) (Fault Error) α := fun t =>
  match t.connection with
  | none => ⟨.error (.failed .notConnected), t, []⟩
  | some connection =>
    let r := (Task.mapError (Fault.map Error.io) task).run connection
    ⟨r.result, { t with connection := some r.state }, r.trace⟩

def writeLine (line : String) (replacement : Option String) :
    Task (Transport ω) (Fault Error) Unit :=
  onConnection (Connection.writeLine line replacement)

def readLine (loggable : Bool) : Task (Transport ω) (Fault Error) String :=
  onConnection (Connection.readLine loggable)

def readLineOctets (loggable : Bool) : Task (Transport ω) (Fault Error) Octets :=
  onConnection (Connection.readLineOctets loggable)

end Transport

end Mailwire
