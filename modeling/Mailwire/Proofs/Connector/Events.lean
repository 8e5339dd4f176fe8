import Mailwire.Proofs.Connector.Attempt

/-!
# What can be observed while a connection is opened

Beside the events of the attempts, opening a connection has events of its own: the network is asked
for addresses, failed attempts are counted, and a listener hears that the server is not available
(`Connector.pursue_within`).
-/

namespace Mailwire

/-- An event of going through the candidates. -/
inductive Event.Trying : Event → Prop
  | resolving (host : String) : Trying (.resolving host)
  | resolutionFailed (host error : String) : Trying (.log (.resolutionFailed host error))
  | noAddresses (host : String) : Trying (.log (.noAddresses host))
  | attemptFailed (candidate error : String) : Trying (.log (.attemptFailed candidate error))
  | noMoreAddresses (attempts : Nat) : Trying (.log (.noMoreAddresses attempts))
  | serverConnectionError : Trying (.notified .serverConnectionError)

/-- An error that leaves no candidate to try. -/
inductive Error.Unavailable : Error → Prop
  | resolve (host : String) (cause : IoError) : Unavailable (.resolve host cause)
  | unresolved (host : String) : Unavailable (.unresolved host)
  | connect (address : String) (attempts : Nat) (cause : IoError) :
      Unavailable (.connect address attempts cause)

namespace Connector

variable {ω α : Type}

lemma candidates_within (c : Connector ω) :
    Task.Within Event.Trying Error.Unavailable c.candidates := by
  rw [candidates]
  split
  · exact .pure _
  · next network _ =>
    refine (Task.Within.emit (.resolving c.config.host)).bind fun _ => ?_
    have hresolve : Task.Within Event.Trying (fun _ => True)
        (Task.step (network.resolve c.config.host)) := .step fun _ _ _ => trivial
    refine hresolve.attempt.bind fun answer => ?_
    split
    · next cause =>
      refine (Task.Within.emit (.resolutionFailed _ cause.message)).bind fun _ => ?_
      refine (Task.Within.emit .serverConnectionError).bind fun _ => ?_
      exact .fail (.resolve _ cause)
    · split_ifs
      · refine (Task.Within.emit (.noAddresses _)).bind fun _ => ?_
        refine (Task.Within.emit .serverConnectionError).bind fun _ => ?_
        exact .fail (.unresolved _)
      · exact .pure _

variable {events : Event → Prop} {failures : Error → Prop}

lemma failover_within (host : String) {attempt : Candidate → Task ω Error α}
    (hattempt : ∀ candidate, Task.Within events failures (attempt candidate)) (done : Nat)
    (candidates : List Candidate) :
    Task.Within (fun e => e.Trying ∨ events e) (fun e => e.Unavailable ∨ failures e)
      (failover host attempt done candidates) := by
  induction candidates generalizing done with
  | nil => exact .fail (.inl (.unresolved host))
  | cons candidate rest ih =>
    have hevents : Task.Within (fun e => e.Trying ∨ events e) failures (attempt candidate) :=
      (hattempt candidate).mono (fun _ => .inr) fun _ => id
    refine hevents.attempt_bind (fun a => .pure a) fun e he => ?_
    cases e with
    | io cause =>
      refine (Task.Within.emit (Or.inl (Event.Trying.attemptFailed _ _))).bind fun _ => ?_
      split_ifs
      · refine (Task.Within.emit (Or.inl (Event.Trying.noMoreAddresses _))).bind fun _ => ?_
        refine (Task.Within.emit (Or.inl Event.Trying.serverConnectionError)).bind fun _ => ?_
        exact .fail (Or.inl (.connect _ _ cause))
      · exact ih _
    | _ => exact .fail (Or.inr he)

/-- What is done to open a connection once the log has said so. -/
def pursue (c : Connector ω) : Task ω Error Connection := do
  let candidates ← c.candidates
  let link ← failover c.config.host c.attempt 0 candidates
  return .ofLink c.config link

lemma connect_eq (c : Connector ω) :
    c.connect = Task.log (.opening c.config.host c.config.port) >>= fun _ => c.pursue := rfl

/-- Beside those of the attempts, the events are those of going through the candidates, and the
failures say that there is none left. -/
theorem pursue_within (c : Connector ω)
    (hattempt : ∀ candidate, Task.Within events failures (c.attempt candidate)) :
    Task.Within (fun e => e.Trying ∨ events e) (fun e => e.Unavailable ∨ failures e) c.pursue := by
  have hlist : Task.Within (fun e => e.Trying ∨ events e) (fun e => e.Unavailable ∨ failures e)
      c.candidates := c.candidates_within.mono (fun _ => .inl) fun _ => .inl
  refine hlist.bind fun candidates => ?_
  refine (failover_within c.config.host hattempt 0 candidates).bind fun link => ?_
  exact .pure _

/-- The log says first, and once, that a connection is opened. -/
lemma run_connect (c : Connector ω) (w : ω) :
    c.connect.run w = ⟨(c.pursue.run w).result, (c.pursue.run w).state,
      .log (.opening c.config.host c.config.port) :: (c.pursue.run w).trace⟩ := by
  rw [connect_eq, Task.run_bind_ok (Task.run_log _ w)]
  rfl

end Connector

end Mailwire
