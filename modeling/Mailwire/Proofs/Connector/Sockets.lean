import Mailwire.Proofs.Connector.Ledger
import Mailwire.Proofs.Connector.Notification
import Mailwire.Proofs.Connector.Tries

/-!
# Where sockets come from

All sockets of a connector come from one source: from what was put in, else from the designated network,
else from the system (`Connector.Supplied`). In each try one socket is asked for if the address of the
candidate is known, and none if it is not (`Connector.sockets_attempt`).

A socket that is refused ends the try with the error of the source, and with it the run: it is no input
or output error of the candidate, so nothing else is tried, and nobody is told
(`Connector.connect_sockets`).
-/

namespace Mailwire

namespace Connector

variable {ω α β : Type}

/-! ### Sources and addresses -/

/-- What makes the sockets of a connector. -/
inductive Supplied (c : Connector ω) : SocketSource → (SocketAddress → Step ω Socket) → Prop
  | creator {create : SocketAddress → Step ω Socket} (present : c.creator = some create) :
      Supplied c .creator create
  | network {network : Network ω} (absent : c.creator = none)
      (designated : c.network = some network) : Supplied c .network network.createSocket
  | system (absent : c.creator = none) (undesignated : c.network = none) :
      Supplied c .system c.platform.defaultSocket

lemma Supplied.socketSource {c : Connector ω} {source : SocketSource}
    {create : SocketAddress → Step ω Socket} (h : c.Supplied source create) :
    c.socketSource = (source, create) := by
  cases h with
  | creator hpresent => simp [Connector.socketSource, hpresent]
  | network habsent hdesignated => simp [Connector.socketSource, habsent, hdesignated]
  | system habsent hundesignated => simp [Connector.socketSource, habsent, hundesignated]

/-- The address that a try is for, and the state in which the socket is asked for. The host itself is
tried at the first address that is found for it; there may be none. -/
def located (c : Connector ω) (t : Try ω) : Option (SocketAddress × ω) :=
  match t.candidate with
  | .address address => some (address, t.world)
  | .host name port =>
    match c.platform.lookup name t.world with
    | (.ok (ip :: _), w) => some (⟨ip, port⟩, w)
    | _ => none

/-- An attempt begins with the address. -/
lemma addressOf_of_located {c : Connector ω} {t : Try ω} {address : SocketAddress} {w : ω}
    (h : c.located t = some (address, w)) :
    (c.addressOf t.candidate).run t.world = ⟨.ok address, w, []⟩ := by
  rcases t with ⟨candidate, w'⟩
  cases candidate with
  | address a =>
    cases h
    rfl
  | host name port =>
    simp only [located] at h
    split at h
    · next hlookup =>
      cases h
      simp [addressOf, Task.run_bind, Task.run_mapError, hlookup, Except.mapError]
    · cases h

/-- Where the address is not known, the attempt ends at once. -/
lemma addressOf_of_not_located {c : Connector ω} {t : Try ω} (h : c.located t = none) :
    ∃ cause w, (c.addressOf t.candidate).run t.world = ⟨.error (.io cause), w, []⟩ := by
  rcases t with ⟨candidate, w'⟩
  cases candidate with
  | address a => cases h
  | host name port =>
    rcases hlookup : c.platform.lookup name w' with ⟨cause | ips, w⟩
    · exact ⟨cause, w, by simp [addressOf, Task.run_bind, Task.run_mapError, hlookup, Except.mapError]⟩
    · cases ips with
      | nil =>
        refine ⟨noAddress name, w, ?_⟩
        simp [addressOf, Task.run_bind, Task.run_mapError, hlookup, Except.mapError]
      | cons ip more => simp [located, hlookup] at h

/-! ### The sockets of a try -/

/-- A row of which only the first member asks for sockets. -/
lemma socketsOf_bind {t : Task ω Error α} {f : α → Task ω Error β} {w : ω}
    (hf : ∀ a w, Event.socketsOf ((f a).run w).trace = []) :
    Event.socketsOf ((t >>= f).run w).trace = Event.socketsOf (t.run w).trace := by
  rw [Task.run_bind]
  split
  · rw [Event.socketsOf_append, hf, List.append_nil]
  · rfl

lemma socketsOf_finish (c : Connector ω) (link : Link) (w : ω) :
    Event.socketsOf ((c.finish link).run w).trace = [] := by
  apply socketsOf_eq_nil
  intro source address he
  rw [finish] at he
  split_ifs at he
  · cases (secure_within c.config link).trace w _ he
  · simp at he

/-- How it goes to ask for a socket. The log has a line about the source at most. -/
lemma run_createSocket {c : Connector ω} {source : SocketSource}
    {create : SocketAddress → Step ω Socket} (h : c.Supplied source create)
    (address : SocketAddress) (w : ω) :
    Event.socketsOf ((c.createSocket address).run w).trace = [(source, address)] ∧
      ((c.createSocket address).run w).result
        = (create address w).1.mapError Error.socketCreation := by
  rw [createSocket, h.socketSource]
  dsimp only
  rcases hcreate : create address w with ⟨cause | socket, w'⟩
  · cases source <;>
      simp [sourceLine?, Task.run_bind, Task.run_attempt, hcreate, Except.mapError, Event.socketsOf]
  · cases source <;>
      simp [sourceLine?, Task.run_bind, Task.run_attempt, hcreate, Except.mapError, Event.socketsOf]

/-- In a try one socket is asked for if the address is known, and none if it is not. -/
theorem sockets_attempt {c : Connector ω} {source : SocketSource}
    {create : SocketAddress → Step ω Socket} (h : c.Supplied source create) (t : Try ω) :
    t.sockets c.attempt = ((c.located t).map fun found => (source, found.1)).toList := by
  rw [Try.sockets, Try.run, attempt_eq, socketsOf_bind c.socketsOf_finish, reach]
  cases hlocated : c.located t with
  | none =>
    obtain ⟨cause, w, hrun⟩ := addressOf_of_not_located hlocated
    rw [Task.run_bind_error hrun]
    rfl
  | some found =>
    rw [Task.run_bind_ok (addressOf_of_located hlocated), List.nil_append]
    rw [socketsOf_bind fun _ _ => rfl]
    exact (run_createSocket h found.1 found.2).1

/-! ### Sockets that are refused -/

/-- A socket that is refused ends the try with the error of the source. -/
lemma attempt_of_refused {c : Connector ω} {source : SocketSource}
    {create : SocketAddress → Step ω Socket} (h : c.Supplied source create) {t : Try ω}
    {address : SocketAddress} {w : ω} {cause : IoError}
    (hlocated : c.located t = some (address, w)) (hcreate : (create address w).1 = .error cause) :
    (t.run c.attempt).result = .error (.socketCreation cause) := by
  obtain ⟨-, hresult⟩ := run_createSocket h address w
  rw [hcreate] at hresult
  rcases hsocket : (c.createSocket address).run w with ⟨result, w', trace⟩
  rw [hsocket] at hresult
  obtain rfl : result = .error (.socketCreation cause) := hresult
  rw [Try.run, attempt, Task.run_bind_ok (addressOf_of_located hlocated), Task.run_bind_error hsocket]

/-- A row that fails does so in its first member, or in the second behind a success of the first. -/
lemma error_of_bind {t : Task ω Error α} {f : α → Task ω Error β} {w : ω} {e : Error}
    (h : ((t >>= f).run w).result = .error e) :
    (t.run w).result = .error e ∨
      ∃ a, (t.run w).result = .ok a ∧ ((f a).run (t.run w).state).result = .error e := by
  rw [Task.run_bind] at h
  split at h
  · next a hfirst => exact .inr ⟨a, hfirst, h⟩
  · next e' hfirst =>
    cases h
    exact .inl hfirst

/-- Securing a link needs no socket. -/
lemma finish_within (c : Connector ω) (link : Link) :
    Task.Within (fun _ => True) (fun e => ∀ cause, e ≠ .socketCreation cause) (c.finish link) := by
  rw [finish]
  split_ifs
  · refine (Task.Within.emit trivial).bind fun _ => ?_
    refine (Task.Within.ofExcept ?_).bind fun tls => ?_
    · intro e h
      obtain ⟨cause, rfl⟩ := ofConfig_error h
      simp
    refine (Task.Within.ofExcept ?_).bind fun upgraded => ?_
    · intro e h
      have hspec := upgrade_spec tls c.config.host link
      rw [h] at hspec
      cases hspec <;> simp
    dsimp only
    split_ifs
    · exact (Task.Within.emit trivial).bind fun _ => .pure _
    · refine Task.Within.bind ?_ fun _ => .pure _
      obtain ⟨result, trace, hverify, hrun⟩ :=
        verifyPeer_run (upgraded.session.map Session.chain) c.config.host
      constructor
      · simp
      · intro w e he
        rw [hrun w] at he
        cases hverify <;> cases he <;> simp
  · exact .pure link

/-- A try that ends for want of a socket has had one refused. -/
lemma refused_of_attempt {c : Connector ω} {source : SocketSource}
    {create : SocketAddress → Step ω Socket} (h : c.Supplied source create) {t : Try ω}
    {cause : IoError} (hresult : (t.run c.attempt).result = .error (.socketCreation cause)) :
    ∃ address w, c.located t = some (address, w) ∧ (create address w).1 = .error cause := by
  rw [Try.run, attempt_eq] at hresult
  rcases error_of_bind hresult with hreach | ⟨link, -, hfinish⟩
  · cases hlocated : c.located t with
    | none =>
      obtain ⟨other, w, hrun⟩ := addressOf_of_not_located hlocated
      rw [reach, Task.run_bind_error hrun] at hreach
      cases hreach
    | some found =>
      rw [reach, Task.run_bind_ok (addressOf_of_located hlocated)] at hreach
      rcases error_of_bind hreach with hsocket | ⟨socket, -, hconnect⟩
      · rw [(run_createSocket h found.1 found.2).2] at hsocket
        refine ⟨found.1, found.2, rfl, ?_⟩
        cases hcreate : (create found.1 found.2).1 with
        | ok socket => simp [hcreate, Except.mapError] at hsocket
        | error other => simpa [hcreate, Except.mapError] using hsocket
      · rw [connectSocket, Task.run_step] at hconnect
        split at hconnect <;> cases hconnect
  · exact absurd rfl ((c.finish_within link).failure _ _ hfinish cause)

/-- A run that ends for want of a socket has had one refused in its last try. -/
lemma refused_of_connect {c : Connector ω} {source : SocketSource}
    {create : SocketAddress → Step ω Socket} (h : c.Supplied source create) {w : ω} {cause : IoError}
    (hresult : (c.connect.run w).result = .error (.socketCreation cause)) :
    ∃ front t address w₁, c.tried w = front ++ [t] ∧ c.located t = some (address, w₁) ∧
      (create address w₁).1 = .error cause := by
  obtain ⟨front, t, htried, hrefused⟩ := exists_stop (.socketCreation cause) hresult
  obtain ⟨address, w₁, hlocated, hcreate⟩ := refused_of_attempt h hrefused
  exact ⟨front, t, address, w₁, htried, hlocated, hcreate⟩

/-! ### The sockets of a connector -/

/-- While a connection is opened, the one source of the connector is asked for a socket for each
candidate that is tried and whose address is known, in the order of the candidates and once for each; the
ledger shows that so often it is called, and nothing else that makes sockets. The first socket that is
refused ends the run with the error of the source, whatever the failures before it: no candidate behind it
is tried, and the listener is told nothing. In no other way does a run end like this. -/
theorem connect_sockets (c : Connector ω) (w : ω) :
    (∀ calls, c.recorded.connect.run (w, calls)
      = ⟨(c.connect.run w).result,
          ((c.connect.run w).state, calls ++ SocketCall.ofTrace (c.connect.run w).trace),
          (c.connect.run w).trace⟩) ∧
    (∀ listed w₁ asked, c.Listed w listed w₁ asked →
      (c.tried w).map (·.candidate) <+: listed) ∧
    ∀ source create, c.Supplied source create →
      Event.socketsOf (c.connect.run w).trace
        = (c.tried w).filterMap (fun t => (c.located t).map fun found => (source, found.1)) ∧
      ∀ cause,
        (∀ front t behind address w₁, c.tried w = front ++ t :: behind →
          c.located t = some (address, w₁) → (create address w₁).1 = .error cause →
          behind = [] ∧ (c.connect.run w).result = .error (.socketCreation cause) ∧
            Event.statesOf (c.connect.run w).trace = []) ∧
        ((c.connect.run w).result = .error (.socketCreation cause) →
          ∃ front t address w₁, c.tried w = front ++ [t] ∧ c.located t = some (address, w₁) ∧
            (create address w₁).1 = .error cause) := by
  refine ⟨c.run_recorded_connect w, fun listed w₁ asked hlisted => tried_prefix hlisted, ?_⟩
  intro source create hsupplied
  refine ⟨?_, fun cause => ⟨?_, refused_of_connect hsupplied⟩⟩
  · rw [socketsOf_connect, List.filterMap_eq_flatMap_toList]
    congr 1
    funext t
    exact sockets_attempt hsupplied t
  · intro front t behind address w₁ htried hlocated hcreate
    have hrefused := attempt_of_refused hsupplied hlocated hcreate
    obtain ⟨hbehind, hresult⟩ := connect_of_stop htried (by rw [hrefused]; rfl)
    rw [hrefused] at hresult
    refine ⟨hbehind, hresult, ?_⟩
    rw [(c.connect_accounted w).statesOf_eq, hresult]
    rfl

/-- A connector with a creator that has one socket only. The host has three addresses, of which the
first refuses. -/
def oneSocket : Connector Unit :=
  { twoAddresses with
    network := some
      { resolve := fun _ _ => (.ok [.v4 10 0 0 1, .v4 10 0 0 2, .v4 10 0 0 3], ())
        createSocket := fun _ _ => (.error (.plain .networkDown), ()) }
    creator := some fun address _ =>
      if address.ip = .v4 10 0 0 1 then (.ok ⟨.v4, none⟩, ())
      else (.error (.described .other "no sockets left"), ()) }

theorem connect_sockets_oneSocket :
    Event.socketsOf (oneSocket.connect.run ()).trace
        = [(.creator, ⟨.v4 10 0 0 1, 143⟩), (.creator, ⟨.v4 10 0 0 2, 143⟩)] ∧
      (oneSocket.connect.run ()).result
        = .error (.socketCreation (.described .other "no sockets left")) ∧
      Event.statesOf (oneSocket.connect.run ()).trace = [] := by
  have hsupplied : oneSocket.Supplied .creator _ := .creator rfl
  have htried : oneSocket.tried () = [⟨.address ⟨.v4 10 0 0 1, 143⟩, ()⟩] ++
      [⟨.address ⟨.v4 10 0 0 2, 143⟩, ()⟩] := rfl
  obtain ⟨-, -, hconnect⟩ := connect_sockets oneSocket ()
  obtain ⟨hsockets, hrefused⟩ := hconnect _ _ hsupplied
  obtain ⟨-, hresult, hstates⟩ := (hrefused _).1 _ _ _ _ _ htried rfl rfl
  exact ⟨by rw [hsockets, htried]; rfl, hresult, hstates⟩

end Connector

end Mailwire
