import Mailwire.Connector
import Mailwire.Proofs.Tls.Verification

/-!
# A ledger of the sockets that are made

A request for a socket is an event of the trace. Here the makers of sockets keep a ledger of their own:
every call of one of them, and nothing else, adds an entry (`Connector.recorded`). The ledger does not
change what a connector does, and it comes to agree with the requests of the trace, one entry for each
(`Connector.run_recorded_connect`). So what the trace says of sockets holds of the calls.

This is kept by a row of tasks whose members keep it (`Task.Records.bind`).
-/

namespace Mailwire

/-- A call of a maker of sockets. The system is told only the family. -/
inductive SocketCall
  | creator (address : SocketAddress)
  | network (address : SocketAddress)
  | system (family : Family)
deriving DecidableEq, Repr

/-- The call that a request stands for. -/
def SocketCall.ofRequest : SocketSource × SocketAddress → SocketCall
  | (.creator, address) => .creator address
  | (.network, address) => .network address
  | (.system, address) => .system address.family

/-- The calls that the requests of a trace stand for. -/
def SocketCall.ofTrace (trace : List Event) : List SocketCall :=
  (Event.socketsOf trace).map SocketCall.ofRequest

@[simp] lemma SocketCall.ofTrace_append (trace more : List Event) :
    ofTrace (trace ++ more) = ofTrace trace ++ ofTrace more := by
  simp [ofTrace]

/-- A state with the calls that were made in it so far. -/
abbrev Ledger (ω : Type) : Type := ω × List SocketCall

namespace Ledger

variable {ω α : Type}

/-- A step that makes no socket. -/
def pass (f : ω → α × ω) (l : Ledger ω) : α × Ledger ω := ((f l.1).1, (f l.1).2, l.2)

/-- A step that enters a call. -/
def enter (call : SocketCall) (f : ω → α × ω) (l : Ledger ω) : α × Ledger ω :=
  ((f l.1).1, (f l.1).2, l.2 ++ [call])

end Ledger

variable {ω ε α β : Type}

def Platform.recorded (p : Platform ω) : Platform (Ledger ω) where
  lookup name := Ledger.pass (p.lookup name)
  createSocket family := Ledger.enter (.system family) (p.createSocket family)
  bind socket ip := Ledger.pass (p.bind socket ip)
  connect socket address := Ledger.pass (p.connect socket address)

def Network.recorded (n : Network ω) : Network (Ledger ω) where
  resolve host := Ledger.pass (n.resolve host)
  createSocket address := Ledger.enter (.network address) (n.createSocket address)

/-- The same connector, whose makers of sockets keep a ledger. -/
def Connector.recorded (c : Connector ω) : Connector (Ledger ω) where
  platform := c.platform.recorded
  config := c.config
  network := c.network.map Network.recorded
  creator := c.creator.map fun create address => Ledger.enter (.creator address) (create address)

/-! ### Tasks with a ledger -/

/-- The second task is the first with a ledger, to which it adds what the trace has requests for. -/
def Task.Records (t : Task ω ε α) (t' : Task (Ledger ω) ε α) : Prop :=
  ∀ w calls, t'.run (w, calls)
    = ⟨(t.run w).result, ((t.run w).state, calls ++ SocketCall.ofTrace (t.run w).trace),
      (t.run w).trace⟩

namespace Task.Records

/-- A task that neither looks at the state nor asks for sockets. -/
protected lemma of_stateless {t : Task ω ε α} {t' : Task (Ledger ω) ε α} {result : Except ε α}
    {trace : List Event} (ht : ∀ w, t.run w = ⟨result, w, trace⟩)
    (ht' : ∀ l, t'.run l = ⟨result, l, trace⟩) (htrace : Event.socketsOf trace = []) :
    Records t t' := by
  intro w calls
  simp [ht, ht', SocketCall.ofTrace, htrace]

protected lemma pure (a : α) : Records (pure a : Task ω ε α) (pure a) :=
  .of_stateless (run_pure a) (run_pure a) rfl

protected lemma fail (e : ε) : Records (fail e : Task ω ε α) (fail e) :=
  .of_stateless (run_fail e) (run_fail e) rfl

protected lemma emit {e : Event} (he : Event.socketsOf [e] = []) :
    Records (emit e : Task ω ε Unit) (emit e) :=
  .of_stateless (run_emit e) (run_emit e) he

protected lemma log (line : LogEvent) : Records (log line : Task ω ε Unit) (log line) :=
  .emit rfl

protected lemma ofExcept (result : Except ε α) :
    Records (ofExcept result : Task ω ε α) (ofExcept result) := by
  cases result with
  | ok a => exact .pure a
  | error e => exact .fail e

protected lemma step (f : ω → Except ε α × ω) : Records (step f) (step (Ledger.pass f)) := by
  intro w calls
  simp [Ledger.pass, SocketCall.ofTrace, Event.socketsOf]

protected lemma attempt {ε' : Type} {t : Task ω ε α} {t' : Task (Ledger ω) ε α}
    (ht : Records t t') :
    Records (attempt t : Task ω ε' (Except ε α)) (attempt t') := by
  intro w calls
  simp only [run_attempt, ht w calls]

protected lemma mapError {ε' : Type} {t : Task ω ε α} {t' : Task (Ledger ω) ε α}
    (ht : Records t t') (f : ε → ε') : Records (mapError f t) (mapError f t') := by
  intro w calls
  simp only [run_mapError, ht w calls]

/-- A row has a ledger if its members have. -/
protected lemma bind {t : Task ω ε α} {t' : Task (Ledger ω) ε α} {f : α → Task ω ε β}
    {f' : α → Task (Ledger ω) ε β} (ht : Records t t') (hf : ∀ a, Records (f a) (f' a)) :
    Records (t >>= f) (t' >>= f') := by
  intro w calls
  rw [run_bind, run_bind, ht w calls]
  cases (t.run w).result with
  | ok a => simp [hf a (t.run w).state]
  | error e => rfl

end Task.Records

namespace Connector

/-! ### Sockets -/

/-- Whatever makes the sockets enters just those calls that it is asked for. -/
lemma socketSource_recorded (c : Connector ω) :
    c.recorded.socketSource = (c.socketSource.1, fun address =>
      Ledger.enter (.ofRequest (c.socketSource.1, address)) (c.socketSource.2 address)) := by
  cases hcreator : c.creator with
  | some create =>
    simp only [socketSource, recorded, hcreator, Option.map_some]
    rfl
  | none =>
    cases hnetwork : c.network with
    | some network =>
      simp only [socketSource, recorded, hcreator, hnetwork, Option.map_some, Option.map_none]
      rfl
    | none =>
      simp only [socketSource, recorded, hcreator, hnetwork, Option.map_none]
      rfl

/-- A request and the call that it stands for. -/
lemma records_request {ε' : Type} (source : SocketSource) (address : SocketAddress)
    (create : ω → Except ε' Socket × ω) :
    Task.Records
      (do Task.emit (.socketRequested source address); Task.attempt (Task.step create) :
        Task ω ε (Except ε' Socket))
      (do Task.emit (.socketRequested source address)
          Task.attempt (Task.step (Ledger.enter (.ofRequest (source, address)) create))) := by
  intro w calls
  simp [Task.run_bind, Task.run_attempt, Ledger.enter, SocketCall.ofTrace, Event.socketsOf]

lemma records_createSocket (c : Connector ω) (address : SocketAddress) :
    Task.Records (c.createSocket address) (c.recorded.createSocket address) := by
  rw [createSocket, createSocket, socketSource_recorded]
  rcases c.socketSource with ⟨source, create⟩
  dsimp only
  have hline : Task.Records ((sourceLine? source).forM Task.log : Task ω Error Unit)
      ((sourceLine? source).forM Task.log) := by
    cases source with
    | creator => exact .pure ()
    | network => exact .log _
    | system => exact .log _
  refine hline.bind fun _ => ?_
  rw [← bind_assoc, ← bind_assoc]
  refine (records_request source address (create address)).bind fun created => ?_
  cases created with
  | ok socket => exact .pure socket
  | error cause => exact (Task.Records.log _).bind fun _ => .fail _

/-! ### The stages of an attempt -/

lemma records_addressOf (c : Connector ω) (candidate : Candidate) :
    Task.Records (c.addressOf candidate) (c.recorded.addressOf candidate) := by
  cases candidate with
  | address address => exact .pure address
  | host name port =>
    refine ((Task.Records.step (c.platform.lookup name)).mapError Error.io).bind fun ips => ?_
    cases ips with
    | nil => exact .fail _
    | cons ip more => exact .pure _

lemma records_connectSocket (c : Connector ω) (socket : Socket) (address : SocketAddress) :
    Task.Records (c.connectSocket socket address) (c.recorded.connectSocket socket address) := by
  intro w calls
  simp only [connectSocket, Task.run_step, recorded, Platform.recorded, Ledger.pass]
  rcases c.platform.connect socket address w with ⟨arrival, w'⟩
  cases arrival <;> simp [SocketCall.ofTrace, Event.socketsOf]

lemma records_verifyPeer (chain : Option (List Octets)) (host : String) :
    Task.Records (verifyPeer chain host : Task ω Error Unit) (verifyPeer chain host) := by
  obtain ⟨result, trace, hverify, hrun⟩ := verifyPeer_run chain host
  apply Task.Records.of_stateless hrun hrun
  cases hverify <;> rfl

lemma records_secure (config : Config) (link : Link) :
    Task.Records (secure config link : Task ω Error Link) (secure config link) := by
  refine (Task.Records.log _).bind fun _ => ?_
  refine (Task.Records.ofExcept _).bind fun tls => ?_
  refine (Task.Records.ofExcept _).bind fun upgraded => ?_
  dsimp only
  split_ifs
  · exact (Task.Records.log _).bind fun _ => .pure _
  · exact (records_verifyPeer _ _).bind fun _ => .pure _

lemma records_attempt (c : Connector ω) (candidate : Candidate) :
    Task.Records (c.attempt candidate) (c.recorded.attempt candidate) := by
  refine (c.records_addressOf candidate).bind fun address => ?_
  refine (c.records_createSocket address).bind fun socket => ?_
  refine (c.records_connectSocket socket address).bind fun link => ?_
  show Task.Records (if c.config.encrypts then secure c.config link else return link)
    (if c.config.encrypts then secure c.config link else return link)
  split_ifs
  · exact records_secure c.config link
  · exact .pure link

/-! ### Opening a connection -/

lemma records_failover (host : String) {attempt : Candidate → Task ω Error α}
    {attempt' : Candidate → Task (Ledger ω) Error α}
    (hattempt : ∀ candidate, Task.Records (attempt candidate) (attempt' candidate))
    (candidates : List Candidate) (done : Nat) :
    Task.Records (failover host attempt done candidates) (failover host attempt' done candidates) := by
  induction candidates generalizing done with
  | nil => exact .fail _
  | cons candidate rest ih =>
    refine (hattempt candidate).attempt.bind fun result => ?_
    rcases result with e | a
    · cases e with
      | io cause =>
        refine (Task.Records.log _).bind fun _ => ?_
        split_ifs
        · refine (Task.Records.log _).bind fun _ => ?_
          exact (Task.Records.emit rfl).bind fun _ => .fail _
        · exact ih _
      | _ => exact .fail _
    · exact .pure a

lemma records_candidates (c : Connector ω) :
    Task.Records c.candidates c.recorded.candidates := by
  cases hnetwork : c.network with
  | none =>
    simp only [candidates, recorded, hnetwork, Option.map_none]
    exact .pure _
  | some network =>
    simp only [candidates, recorded, hnetwork, Option.map_some]
    refine (Task.Records.emit rfl).bind fun _ => ?_
    refine (Task.Records.step (network.resolve c.config.host)).attempt.bind fun answer => ?_
    rcases answer with cause | addresses
    · refine (Task.Records.log _).bind fun _ => ?_
      exact (Task.Records.emit rfl).bind fun _ => .fail _
    · dsimp only
      split_ifs
      · refine (Task.Records.log _).bind fun _ => ?_
        exact (Task.Records.emit rfl).bind fun _ => .fail _
      · exact .pure _

/-- With a ledger a connector does the same, and the calls that it makes are those for which its trace
has requests, in their order. -/
theorem run_recorded_connect (c : Connector ω) (w : ω) (calls : List SocketCall) :
    c.recorded.connect.run (w, calls)
      = ⟨(c.connect.run w).result,
          ((c.connect.run w).state, calls ++ SocketCall.ofTrace (c.connect.run w).trace),
          (c.connect.run w).trace⟩ := by
  have hconnect : Task.Records c.connect c.recorded.connect := by
    refine (Task.Records.log _).bind fun _ => ?_
    refine c.records_candidates.bind fun listed => ?_
    refine (records_failover _ c.records_attempt listed 0).bind fun link => ?_
    exact .pure _
  exact hconnect w calls

end Connector

end Mailwire
