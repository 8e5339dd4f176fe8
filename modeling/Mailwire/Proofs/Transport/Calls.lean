import Mailwire.Proofs.Connection
import Mailwire.Proofs.Connector.Events
import Mailwire.Transport

/-!
# What one call does to a transport

A log tells when a connection is going to be opened and when one is closed, and that a connection is
established is told by the call that opens it (`Milestone`). In an orderly life a connection is opened
only while none is held, and it is closed once, which ends its being held (`Lifeline`).

Each call goes on with an orderly life (`Transport.Call.effect`). Opening closes what is held before
it begins to connect, and nothing else is closed while a connection is opened
(`Connector.connect_milestones`). Calls on the connection have no part in this, and on a closed
transport they do nothing (`Transport.Call.OnConnection.run_closed`).
-/

namespace Mailwire

/-! ### The life of a transport -/

/-- A point in the life of the connections of a transport. -/
inductive Milestone
  /-- A connection is going to be opened. -/
  | opening
  | established
  | closed
deriving DecidableEq, Repr

/-- The milestone that an event is. Nothing but the end of closing a connection logs `closed`. -/
def Event.milestone? : Event → Option Milestone
  | .log (.opening ..) => some .opening
  | .log .closed => some .closed
  | _ => none

/-- The milestones that a trace shows. -/
def Event.milestonesOf (trace : List Event) : List Milestone := trace.filterMap Event.milestone?

/-- An orderly life, and whether a connection is held at its end. A connection is opened while none is
held. It is held as soon as it is established, and closed only while it is held. -/
inductive Lifeline : List Milestone → Bool → Prop
  | fresh : Lifeline [] false
  | opening {past : List Milestone} (h : Lifeline past false) : Lifeline (past ++ [.opening]) false
  | established {past : List Milestone} (h : Lifeline (past ++ [.opening]) false) :
      Lifeline (past ++ [.opening] ++ [.established]) true
  | closed {past : List Milestone} (h : Lifeline past true) : Lifeline (past ++ [.closed]) false

/-- Of the established connections all but the one that is held were closed, each once. -/
lemma Lifeline.count_established {past : List Milestone} {held : Bool} (h : Lifeline past held) :
    past.count .established = past.count .closed + held.toNat := by
  induction h with
  | fresh => rfl
  | opening _ ih => simpa [List.count_append] using ih
  | established _ ih =>
    simp only [List.count_append, Bool.toNat_false] at ih ⊢
    simpa using ih
  | closed _ ih => simpa [List.count_append] using ih

namespace Event

@[simp] lemma milestonesOf_append (trace more : List Event) :
    milestonesOf (trace ++ more) = milestonesOf trace ++ milestonesOf more := by
  simp [milestonesOf]

lemma milestonesOf_eq_nil {trace : List Event} (h : ∀ e ∈ trace, e.milestone? = none) :
    milestonesOf trace = [] := List.filterMap_eq_nil_iff.mpr h

end Event

/-! ### Connecting and closing -/

/-- Opening a connection begins once, and it closes none. -/
lemma Connector.connect_milestones {ω : Type} (c : Connector ω) (w : ω) :
    Event.milestonesOf (c.connect.run w).trace = [.opening] := by
  have hnone : Event.milestonesOf (c.pursue.run w).trace = [] := by
    apply Event.milestonesOf_eq_nil
    intro e he
    rcases (c.pursue_within c.attempt_stages).trace w e he with htrying | hreaching | hsecuring
    · cases htrying <;> rfl
    · cases hreaching <;> rfl
    · cases hsecuring <;> rfl
  rw [run_connect]
  exact congrArg (Milestone.opening :: ·) hnone

lemma Connection.farewell_milestones (c : Connection) :
    Event.milestonesOf c.farewell = [.closed] := by
  rw [farewell]
  rcases (c.lines.shutdown (some c.closeDeadline)).1 with (e | _) | _
  · rfl
  · rfl
  · rfl

namespace Transport

variable {ω ε α : Type}

/-- Whether a connection is held. -/
def holds (t : Transport ω) : Bool := t.connection.isSome

/-- What closing a transport is seen to do. -/
def farewell (t : Transport ω) : List Event :=
  t.connection.elim [.log .closeWithoutConnection] Connection.farewell

/-- Closing never fails, and it leaves nothing but the connector. -/
lemma run_close (t : Transport ω) :
    (close : Task (Transport ω) ε (Option Connection)).run t
      = ⟨.ok (t.connection.map Connection.released), t.clone, t.farewell⟩ := by
  rcases t with ⟨connector, _ | connection⟩
  · rfl
  · show (⟨((Connection.close (ε := ε)).run connection).result.map
        fun _ => some ((Connection.close (ε := ε)).run connection).state, _, _⟩ : Run _ _ _) = _
    rw [Connection.run_close]
    rfl

lemma run_onTransport_close (t : Transport ω) (w : ω) :
    (onTransport close : Task (Transport ω × ω) ε (Option Connection)).run (t, w)
      = ⟨.ok (t.connection.map Connection.released), (t.clone, w), t.farewell⟩ := by
  show (⟨_, (_, w), _⟩ : Run _ _ _) = _
  rw [run_close]

/-- Opening closes what is held, and then it connects. -/
lemma run_open (t : Transport ω) (w : ω) :
    «open».run (t, w) =
      ⟨(t.connector.connect.run w).result.map fun _ => (),
        (⟨t.connector, (t.connector.connect.run w).result.toOption⟩,
          (t.connector.connect.run w).state),
        t.farewell ++ (t.connector.connect.run w).trace⟩ := by
  rw [«open», Task.run_bind_ok (run_onTransport_close t w)]
  rfl

lemma farewell_milestones (t : Transport ω) :
    Event.milestonesOf t.farewell = if t.holds then [.closed] else [] := by
  rcases t with ⟨connector, _ | connection⟩
  · rfl
  · exact connection.farewell_milestones

/-- A transport that is closed goes on with an orderly life, whether it has held a connection or
not. -/
lemma lifeline_farewell {past : List Milestone} {t : Transport ω}
    (h : Lifeline past t.holds) : Lifeline (past ++ Event.milestonesOf t.farewell) false := by
  rw [farewell_milestones]
  cases hholds : t.holds with
  | true =>
    rw [hholds] at h
    exact h.closed
  | false =>
    rw [hholds] at h
    simpa using h

/-! ### Calls -/

/-- A call on a transport. -/
inductive Call
  | «open»
  | close
  | writeLine (line : String) (replacement : Option String)
  | readLine (loggable : Bool)
  | readLineOctets (loggable : Bool)
  /-- The connection is handed out, and something is done with it. -/
  | access (use : Connection → Connection)

namespace Call

/-- A call that asks for a connection. -/
inductive OnConnection : Call → Prop
  | writeLine (line : String) (replacement : Option String) :
      OnConnection (.writeLine line replacement)
  | readLine (loggable : Bool) : OnConnection (.readLine loggable)
  | readLineOctets (loggable : Bool) : OnConnection (.readLineOctets loggable)
  | access (use : Connection → Connection) : OnConnection (.access use)

/-- What a call does. The line that it may answer is left out. -/
def task : Call → Task (Transport ω × ω) (Fault Error) Unit
  | .open => Task.mapError Fault.failed Transport.open
  | .close => (fun _ => ()) <$> onTransport Transport.close
  | .writeLine line replacement =>
    (fun _ => ()) <$> onTransport (Transport.writeLine line replacement)
  | .readLine loggable => (fun _ => ()) <$> onTransport (Transport.readLine loggable)
  | .readLineOctets loggable => (fun _ => ()) <$> onTransport (Transport.readLineOctets loggable)
  | .access use => (fun _ => ()) <$> onTransport (Transport.onConnection (Task.update use))

/-- The milestones of a call that has gone in such a way. A connection is established when the call
that opens it succeeds. -/
def milestones {σ : Type} (call : Call) (r : Run σ (Fault Error) Unit) : List Milestone :=
  Event.milestonesOf r.trace ++
    match call, r.result with
    | .open, .ok _ => [.established]
    | _, _ => []

/-- Whether a connection is held after a call, if the call decides on that. -/
def turn? : Call → Except (Fault Error) Unit → Option Bool
  | .open, result => some result.isOk
  | .close, _ => some false
  | _, _ => none

/-! ### Calls on the connection -/

/-- What is done with a connection has only events of talking. -/
lemma OnConnection.task_eq {call : Call} (h : call.OnConnection) :
    ∃ (β : Type) (inner : Task Connection (Fault IoError) β),
      Task.Within Event.Talking (fun _ => True) inner ∧
      ∀ {ω : Type}, (call.task : Task (Transport ω × ω) (Fault Error) Unit)
        = (fun _ => ()) <$> onTransport (onConnection inner) := by
  cases h with
  | writeLine line replacement =>
    exact ⟨_, _, Connection.onLines_within (LineStream.writeLine_within line replacement), rfl⟩
  | readLine loggable =>
    exact ⟨_, _, Connection.onLines_within (LineStream.readLine_within loggable), rfl⟩
  | readLineOctets loggable =>
    exact ⟨_, _, Connection.onLines_within (LineStream.readLineOctets_within loggable), rfl⟩
  | access use =>
    refine ⟨_, Task.update use, ⟨?_, ?_⟩, rfl⟩
    · intro c e he
      cases he
    · intro c e _
      trivial

/-- On a closed transport a call that asks for a connection only says that there is none. -/
theorem OnConnection.run_closed {call : Call} (h : call.OnConnection) {t : Transport ω}
    (ht : t.connection = none) (w : ω) :
    call.task.run (t, w) = ⟨.error (.failed .notConnected), (t, w), []⟩ := by
  obtain ⟨β, inner, -, htask⟩ := h.task_eq
  rcases t with ⟨connector, connection⟩
  obtain rfl : connection = none := ht
  rw [htask]
  rfl

/-- A transport still holds its connection after a call on it, and the call shows no milestones. -/
lemma OnConnection.run_open {call : Call} (h : call.OnConnection) {t : Transport ω}
    {connection : Connection} (ht : t.connection = some connection) (w : ω) :
    ∃ connection', (call.task.run (t, w)).state = (⟨t.connector, some connection'⟩, w) ∧
      Event.milestonesOf (call.task.run (t, w)).trace = [] := by
  obtain ⟨β, inner, hwithin, htask⟩ := h.task_eq
  rcases t with ⟨connector, held⟩
  obtain rfl : held = some connection := ht
  rw [htask, Task.run_map]
  refine ⟨(inner.run connection).state, rfl, ?_⟩
  apply Event.milestonesOf_eq_nil
  intro e he
  have htalking : e.Talking := hwithin.trace connection e he
  cases htalking <;> rfl

/-! ### Any call -/

/-- What a call does to a transport. -/
structure Effect (call : Call) (t : Transport ω) (r : Run (Transport ω × ω) (Fault Error) Unit) :
    Prop where
  holds : r.state.1.holds = (call.turn? r.result).getD t.holds
  lifeline : ∀ past, Lifeline past t.holds → Lifeline (past ++ call.milestones r) r.state.1.holds

lemma OnConnection.effect {call : Call} (h : call.OnConnection) (t : Transport ω) (w : ω) :
    call.Effect t (call.task.run (t, w)) := by
  have hturn : ∀ result, call.turn? result = none := by
    intro result
    cases h <;> rfl
  have hmilestones : ∀ r : Run (Transport ω × ω) (Fault Error) Unit,
      call.milestones r = Event.milestonesOf r.trace := by
    intro r
    cases h <;> exact List.append_nil _
  cases ht : t.connection with
  | none =>
    rw [h.run_closed ht]
    constructor
    · rw [hturn]
      rfl
    · intro past hpast
      rw [hmilestones]
      simpa [Event.milestonesOf] using hpast
  | some connection =>
    obtain ⟨connection', hstate, hnone⟩ := h.run_open ht w
    have hholds : t.holds = true := by rw [Transport.holds, ht]; rfl
    constructor
    · rw [hstate, hturn, hholds]
      rfl
    · intro past hpast
      rw [hmilestones, hnone, hstate, List.append_nil]
      rw [hholds] at hpast
      exact hpast

lemma run_close (t : Transport ω) (w : ω) :
    (task .close).run (t, w) = ⟨.ok (), (t.clone, w), t.farewell⟩ := by
  rw [task, Task.run_map, run_onTransport_close]
  rfl

lemma run_open (t : Transport ω) (w : ω) :
    (task .open).run (t, w) =
      ⟨((t.connector.connect.run w).result.map fun _ => ()).mapError Fault.failed,
        (⟨t.connector, (t.connector.connect.run w).result.toOption⟩,
          (t.connector.connect.run w).state),
        t.farewell ++ (t.connector.connect.run w).trace⟩ := by
  rw [task, Task.run_mapError, Transport.run_open]

lemma effect_close (t : Transport ω) (w : ω) :
    Effect .close t ((task .close).run (t, w)) := by
  rw [run_close]
  refine ⟨rfl, ?_⟩
  intro past hpast
  show Lifeline (past ++ (Event.milestonesOf t.farewell ++ [])) false
  rw [List.append_nil]
  exact lifeline_farewell hpast

lemma effect_open (t : Transport ω) (w : ω) :
    Effect .open t ((task .open).run (t, w)) := by
  have hmilestones : Event.milestonesOf (t.farewell ++ (t.connector.connect.run w).trace)
      = Event.milestonesOf t.farewell ++ [.opening] := by
    rw [Event.milestonesOf_append, t.connector.connect_milestones w]
  rw [run_open]
  rcases hrun : t.connector.connect.run w with ⟨e | connection, w', trace⟩
  · rw [hrun] at hmilestones
    refine ⟨rfl, ?_⟩
    intro past hpast
    show Lifeline (past ++ (Event.milestonesOf (t.farewell ++ trace) ++ [])) false
    rw [hmilestones, List.append_nil, ← List.append_assoc]
    exact (lifeline_farewell hpast).opening
  · rw [hrun] at hmilestones
    refine ⟨rfl, ?_⟩
    intro past hpast
    show Lifeline (past ++ (Event.milestonesOf (t.farewell ++ trace) ++ [.established])) true
    rw [hmilestones, ← List.append_assoc, ← List.append_assoc]
    exact (lifeline_farewell hpast).opening.established

/-- Every call goes on with an orderly life. -/
theorem effect (call : Call) (t : Transport ω) (w : ω) : call.Effect t (call.task.run (t, w)) := by
  cases call with
  | «open» => exact effect_open t w
  | close => exact effect_close t w
  | writeLine line replacement => exact (OnConnection.writeLine line replacement).effect t w
  | readLine loggable => exact (OnConnection.readLine loggable).effect t w
  | readLineOctets loggable => exact (OnConnection.readLineOctets loggable).effect t w
  | access use => exact (OnConnection.access use).effect t w

end Call

end Transport

end Mailwire
