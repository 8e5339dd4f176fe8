import Mailwire.Proofs.Connector.Encryption
import Mailwire.Proofs.Transport.Calls

/-!
# Transports over whole runs

A fleet is a transport together with its clones, in one world. Calls are made on them in any order, and
each goes as the world lets it go. For each transport, the calls on it make up its history
(`Fleet.history`).

What one call does is known (`Transport.Call.effect`), and a call on one transport does not touch the
others (`Fleet.Call.frame`). By induction on the calls, every history is an orderly life: what was
established and is not held any more was closed once, and the last call that decides on it says whether
a connection is held (`Fleet.lifecycle`).
-/

namespace Mailwire

/-- Transports in one world. -/
structure Fleet (ω : Type) where
  transports : List (Transport ω)
  world : ω

namespace Fleet

variable {ω : Type}

/-- One transport, which is closed. -/
def ofConnector (c : Connector ω) (w : ω) : Fleet ω := ⟨[.ofConnector c], w⟩

/-- Whether the transport with a number holds a connection. -/
def holds (f : Fleet ω) (i : Nat) : Bool := f.transports[i]?.any Transport.holds

lemma holds_eq {f : Fleet ω} {i : Nat} {t : Transport ω} (h : f.transports[i]? = some t) :
    f.holds i = t.holds := by
  rw [holds, h]
  rfl

/-- A call in a fleet. -/
inductive Call
  /-- A call on the transport with this number. -/
  | on (i : Nat) (call : Transport.Call)
  /-- The transport with this number is cloned. The clone becomes the last one. -/
  | clone (i : Nat)

namespace Call

/-- Where there is no transport with the number, nothing is done. -/
def task : Call → Task (Fleet ω) (Fault Error) Unit
  | .on i call => fun f =>
    match f.transports[i]? with
    | none => ⟨.error (.failed .notConnected), f, []⟩
    | some t =>
      let r := call.task.run (t, f.world)
      ⟨r.result, ⟨f.transports.set i r.state.1, r.state.2⟩, r.trace⟩
  | .clone i => fun f =>
    match f.transports[i]? with
    | none => ⟨.error (.failed .notConnected), f, []⟩
    | some t => ⟨.ok (), { f with transports := f.transports ++ [t.clone] }, []⟩

/-- The call on the transport with this number, if it is one. -/
def at? (i : Nat) : Call → Option Transport.Call
  | .on j call => if j = i then some call else none
  | .clone _ => none

variable {f : Fleet ω} {i : Nat} {t : Transport ω}

lemma run_on (h : f.transports[i]? = some t) (call : Transport.Call) :
    (on i call).task.run f =
      ⟨(call.task.run (t, f.world)).result,
        ⟨f.transports.set i (call.task.run (t, f.world)).state.1,
          (call.task.run (t, f.world)).state.2⟩,
        (call.task.run (t, f.world)).trace⟩ := by
  show task (on i call) f = _
  simp only [task, h]

lemma run_on_none (h : f.transports[i]? = none) (call : Transport.Call) :
    (on i call).task.run f = ⟨.error (.failed .notConnected), f, []⟩ := by
  show task (on i call) f = _
  simp only [task, h]

lemma run_clone (h : f.transports[i]? = some t) :
    (clone i).task.run f = ⟨.ok (), { f with transports := f.transports ++ [t.clone] }, []⟩ := by
  show task (clone i) f = _
  simp only [task, h]

lemma run_clone_none (h : f.transports[i]? = none) :
    (clone i).task.run f = ⟨.error (.failed .notConnected), f, []⟩ := by
  show task (clone i) f = _
  simp only [task, h]

lemma getElem?_run_on (h : f.transports[i]? = some t) (call : Transport.Call) :
    ((on i call).task.run f).state.transports[i]? = some (call.task.run (t, f.world)).state.1 := by
  obtain ⟨hi, -⟩ := List.getElem?_eq_some_iff.mp h
  rw [run_on h]
  exact List.getElem?_set_self hi

/-- A transport is not changed by calls that are not made on it, by those on its clones neither. -/
lemma frame (call : Call) (hcall : call.at? i = none) (h : f.transports[i]? = some t) :
    (call.task.run f).state.transports[i]? = some t := by
  cases call with
  | on j call =>
    have hji : j ≠ i := by
      rintro rfl
      simp [at?] at hcall
    cases hj : f.transports[j]? with
    | none => rw [run_on_none hj, h]
    | some t' =>
      rw [run_on hj]
      exact (List.getElem?_set_ne hji).trans h
  | clone j =>
    obtain ⟨hi, -⟩ := List.getElem?_eq_some_iff.mp h
    cases hj : f.transports[j]? with
    | none => rw [run_clone_none hj, h]
    | some t' =>
      rw [run_clone hj]
      exact (List.getElem?_append_left hi).trans h

/-- A number that has no transport gets at most one that is closed. -/
lemma frame_none (call : Call) (h : f.transports[i]? = none) :
    (call.task.run f).state.holds i = false := by
  have hi : f.transports.length ≤ i := List.getElem?_eq_none_iff.mp h
  cases call with
  | on j call =>
    cases hj : f.transports[j]? with
    | none =>
      rw [run_on_none hj, holds, h]
      rfl
    | some t' =>
      rw [run_on hj, holds, List.getElem?_eq_none (by simpa using hi)]
      rfl
  | clone j =>
    cases hj : f.transports[j]? with
    | none =>
      rw [run_clone_none hj, holds, h]
      rfl
    | some t' =>
      rw [run_clone hj, holds, List.getElem?_append_right hi]
      cases i - f.transports.length with
      | zero => rfl
      | succ _ => rfl

/-- A call that is not made on a transport makes no difference to whether it holds a connection. -/
lemma holds_frame (call : Call) (hcall : call.at? i = none) :
    (call.task.run f).state.holds i = f.holds i := by
  cases h : f.transports[i]? with
  | some t => rw [holds_eq h, holds_eq (call.frame hcall h)]
  | none =>
    rw [call.frame_none h, holds, h]
    rfl

/-- A call on a transport goes on with its orderly life. -/
lemma effect_on (call : Transport.Call) (f : Fleet ω) (i : Nat) :
    ((on i call).task.run f).state.holds i
        = (call.turn? ((on i call).task.run f).result).getD (f.holds i) ∧
      ∀ past, Lifeline past (f.holds i) →
        Lifeline (past ++ call.milestones ((on i call).task.run f))
          (((on i call).task.run f).state.holds i) := by
  cases h : f.transports[i]? with
  | some t =>
    obtain ⟨hholds, hlife⟩ := call.effect t f.world
    rw [holds_eq h, holds_eq (getElem?_run_on h call), run_on h]
    exact ⟨hholds, hlife⟩
  | none =>
    have hclosed : f.holds i = false := by
      rw [holds, h]
      rfl
    rw [run_on_none h, hclosed]
    constructor
    · cases call <;> rfl
    · intro past hpast
      have hnone : call.milestones
          (⟨.error (.failed .notConnected), f, []⟩ : Run (Fleet ω) (Fault Error) Unit) = [] := by
        cases call <;> rfl
      rw [hnone, List.append_nil]
      exact hpast

end Call

/-! ### Calls in a row -/

/-- The fleet after calls, whatever became of them. -/
def after : List Call → Fleet ω → Fleet ω
  | [], f => f
  | call :: more, f => after more (call.task.run f).state

/-- The calls that are made on the transport with a number, and how each goes. -/
def history (i : Nat) :
    List Call → Fleet ω → List (Transport.Call × Run (Fleet ω) (Fault Error) Unit)
  | [], _ => []
  | call :: more, f =>
    (call.at? i).toList.map (·, call.task.run f) ++ history i more (call.task.run f).state

/-- What the calls of a history have decided on, in turn. -/
def turns {σ : Type} (past : List (Transport.Call × Run σ (Fault Error) Unit)) : List Bool :=
  past.filterMap fun (call, r) => call.turn? r.result

/-- The milestones of a history. -/
def milestones {σ : Type} (past : List (Transport.Call × Run σ (Fault Error) Unit)) :
    List Milestone :=
  past.flatMap fun (call, r) => call.milestones r

lemma history_cons_on (i : Nat) (call : Transport.Call) (more : List Call) (f : Fleet ω) :
    history i (.on i call :: more) f
      = (call, (Call.on i call).task.run f)
        :: history i more ((Call.on i call).task.run f).state := by
  simp [history, Call.at?]

lemma history_cons_of_none {i : Nat} {call : Call} (h : call.at? i = none) (more : List Call)
    (f : Fleet ω) : history i (call :: more) f = history i more (call.task.run f).state := by
  simp [history, h]

lemma turns_cons {σ : Type} (call : Transport.Call) (r : Run σ (Fault Error) Unit)
    (past : List (Transport.Call × Run σ (Fault Error) Unit)) :
    turns ((call, r) :: past) = (call.turn? r.result).toList ++ turns past := by
  cases h : call.turn? r.result <;> simp [turns, h]

lemma milestones_cons {σ : Type} (call : Transport.Call) (r : Run σ (Fault Error) Unit)
    (past : List (Transport.Call × Run σ (Fault Error) Unit)) :
    milestones ((call, r) :: past) = call.milestones r ++ milestones past := List.flatMap_cons

lemma Call.eq_on_of_at? {i : Nat} {call : Call} {call' : Transport.Call}
    (h : call.at? i = some call') : call = .on i call' := by
  cases call with
  | on j call =>
    by_cases hji : j = i
    · simp [at?, hji] at h
      rw [h, hji]
    · simp [at?, hji] at h
  | clone j => simp [at?] at h

/-- The last call that decides on it says whether a connection is held. -/
lemma holds_after (i : Nat) (calls : List Call) (f : Fleet ω) :
    (after calls f).holds i = (turns (history i calls f)).getLast?.getD (f.holds i) := by
  induction calls generalizing f with
  | nil => rfl
  | cons call more ih =>
    rw [after, ih]
    cases hcall : call.at? i with
    | none => rw [history_cons_of_none hcall, call.holds_frame hcall]
    | some call' =>
      obtain rfl := Call.eq_on_of_at? hcall
      obtain ⟨hholds, -⟩ := Call.effect_on call' f i
      rw [history_cons_on, turns_cons, List.getLast?_append, hholds]
      generalize (turns (history i more ((Call.on i call').task.run f).state)).getLast? = later
      cases call'.turn? ((Call.on i call').task.run f).result <;> cases later <;> rfl

/-- Calls go on with an orderly life. -/
lemma lifeline_after (i : Nat) (calls : List Call) {f : Fleet ω} {past : List Milestone}
    (h : Lifeline past (f.holds i)) :
    Lifeline (past ++ milestones (history i calls f)) ((after calls f).holds i) := by
  induction calls generalizing f past with
  | nil =>
    show Lifeline (past ++ []) (f.holds i)
    rw [List.append_nil]
    exact h
  | cons call more ih =>
    rw [after]
    cases hcall : call.at? i with
    | none =>
      rw [history_cons_of_none hcall]
      apply ih
      rw [call.holds_frame hcall]
      exact h
    | some call' =>
      obtain rfl := Call.eq_on_of_at? hcall
      obtain ⟨-, hlife⟩ := Call.effect_on call' f i
      rw [history_cons_on, milestones_cons, ← List.append_assoc]
      exact ih (hlife past h)

/-! ### The next call -/

/-- How a transport of a fleet takes the next call. -/
structure Poised (f : Fleet ω) (i : Nat) (t : Transport ω) : Prop where
  /-- Calls on other transports do not change it, and neither does being cloned. -/
  frame : ∀ call : Call, call.at? i = none → (call.task.run f).state.transports[i]? = some t
  /-- A clone is closed. -/
  clone : (Call.clone i).task.run f
      = ⟨.ok (), { f with transports := f.transports ++ [t.clone] }, []⟩ ∧
    t.clone.connection = none
  /-- Closing never fails, and closing again changes nothing. -/
  close : ∃ closed, (Call.on i .close).task.run f = ⟨.ok (), closed, t.farewell⟩ ∧
    closed.holds i = false ∧
    (Call.on i .close).task.run closed = ⟨.ok (), closed, [.log .closeWithoutConnection]⟩
  /-- What is closed is the connection that is held. -/
  release : ∀ connection, t.connection = some connection →
    t.farewell = ((Connection.close : Task Connection Error Unit).run connection).trace
  /-- Opening closes first, and then it connects. -/
  reopen : ((Call.on i .open).task.run f).trace
    = t.farewell ++ (t.connector.connect.run f.world).trace
  /-- Opening that fails leaves it closed. -/
  refused : ∀ e, ((Call.on i .open).task.run f).result = .error e →
    ((Call.on i .open).task.run f).state.holds i = false
  /-- While it is closed, calls that ask for a connection say so, and do nothing else. -/
  idle : t.connection = none → ∀ call : Transport.Call, call.OnConnection →
    (Call.on i call).task.run f = ⟨.error (.failed .notConnected), f, []⟩

lemma run_close {f : Fleet ω} {i : Nat} {t : Transport ω} (h : f.transports[i]? = some t) :
    (Call.on i .close).task.run f
      = ⟨.ok (), { f with transports := f.transports.set i t.clone }, t.farewell⟩ := by
  rw [Call.run_on h, Transport.Call.run_close]

lemma run_idle {f : Fleet ω} {i : Nat} {t : Transport ω} (h : f.transports[i]? = some t)
    (ht : t.connection = none) {call : Transport.Call} (hcall : call.OnConnection) :
    (Call.on i call).task.run f = ⟨.error (.failed .notConnected), f, []⟩ := by
  obtain ⟨hi, rfl⟩ := List.getElem?_eq_some_iff.mp h
  rw [Call.run_on h, hcall.run_closed ht, List.set_getElem_self hi]

theorem poised {f : Fleet ω} {i : Nat} {t : Transport ω} (h : f.transports[i]? = some t) :
    Poised f i t where
  frame := fun call hcall => call.frame hcall h
  clone := ⟨Call.run_clone h, rfl⟩
  close := by
    obtain ⟨hi, -⟩ := List.getElem?_eq_some_iff.mp h
    have hclosed : (f.transports.set i t.clone)[i]? = some t.clone := List.getElem?_set_self hi
    refine ⟨_, run_close h, ?_, ?_⟩
    · rw [holds_eq hclosed]
      rfl
    · rw [run_close hclosed, List.set_set]
      rfl
  release := by
    intro connection ht
    rw [Transport.farewell, ht, Connection.run_close]
    rfl
  reopen := by rw [Call.run_on h, Transport.Call.run_open]
  refused := by
    intro e he
    obtain ⟨hholds, -⟩ := Call.effect_on .open f i
    rw [hholds, he]
    rfl
  idle := fun ht _ hcall => run_idle h ht hcall

/-! ### Whole runs -/

/-- After calls in any order on a transport and its clones, whatever became of them: a transport holds
a connection if and only if the last of its openings and closings is an opening that has succeeded. Its
life is orderly, so every connection that was established is closed once if it is not held any more,
before the next one is opened, and is not closed while it is held. Closing does not fail, and while a
transport is closed, calls on its connection do nothing. -/
theorem lifecycle (c : Connector ω) (w : ω) (calls : List Call) (i : Nat) :
    let f := after calls (ofConnector c w)
    let past := history i calls (ofConnector c w)
    (f.holds i = true ↔ (turns past).getLast? = some true) ∧
      Lifeline (milestones past) (f.holds i) ∧
      (milestones past).count .established
        = (milestones past).count .closed + (f.holds i).toNat ∧
      ∀ t, f.transports[i]? = some t → f.holds i = t.connection.isSome ∧ Poised f i t := by
  have hnone : (ofConnector c w).holds i = false := by
    cases i with
    | zero => rfl
    | succ i => rfl
  have hlife : Lifeline (milestones (history i calls (ofConnector c w)))
      ((after calls (ofConnector c w)).holds i) := by
    have hfresh : Lifeline [] ((ofConnector c w).holds i) := by
      rw [hnone]
      exact .fresh
    exact lifeline_after i calls hfresh
  refine ⟨?_, hlife, hlife.count_established, ?_⟩
  · rw [holds_after, hnone]
    cases (turns (history i calls (ofConnector c w))).getLast? with
    | none => simp
    | some held => simp
  · intro t ht
    exact ⟨holds_eq ht, poised ht⟩

/-- A transport is opened, cloned, opened again and closed, and meanwhile the clone is opened. -/
def reopening : List Call :=
  [.on 0 .open, .clone 0, .on 1 .open, .on 0 .open, .on 0 .close]

/-- What the transport and its clone have come to then. -/
theorem lifecycle_reopening :
    let f := after reopening (ofConnector Connector.secondServes ())
    f.holds 1 = true ∧
      milestones (history 0 reopening (ofConnector Connector.secondServes ()))
        = [.opening, .established, .closed, .opening, .established, .closed] ∧
      (Call.on 0 (.readLine true)).task.run f = ⟨.error (.failed .notConnected), f, []⟩ := by
  obtain ⟨-, -, -, hpoised⟩ := lifecycle Connector.secondServes () reopening 0
  have hsome : (after reopening (ofConnector Connector.secondServes ())).transports[0]?.isSome
      = true := by decide +kernel
  have hclosed : (after reopening (ofConnector Connector.secondServes ())).holds 0 = false := by
    decide +kernel
  obtain ⟨t, ht⟩ := Option.isSome_iff_exists.mp hsome
  obtain ⟨hholds, hnext⟩ := hpoised t ht
  have hnone : t.connection = none := by
    rw [hholds] at hclosed
    simpa using hclosed
  refine ⟨?_, ?_, hnext.idle hnone _ (.readLine true)⟩
  · decide +kernel
  · decide +kernel

end Fleet

end Mailwire
