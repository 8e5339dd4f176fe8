import Mailwire.Connector
import Mailwire.Proofs.Tls.Verification

/-!
# What one attempt can end in

An attempt on a candidate goes through up to five stages. The first three reach a server: the
address, the socket and the connection (`Connector.reach`). The other two secure the link: the
handshake and the verification of the host. Each stage has events and failures of its own kinds
(`Connector.reach_within`, `Connector.secure_within`).

Whatever the platform, the network and the server do, an attempt ends in a link, in an input or
output error, or in an error that ends the whole run (`Error.Final`). The log lines that count
attempts are never its own (`Connector.attempt_within`).
-/

namespace Mailwire

/-- An error after which no other candidate is tried. -/
inductive Error.Final : Error → Prop
  | socketCreation (cause : IoError) : Final (.socketCreation cause)
  | tls (cause : TlsError) : Final (.tls cause)
  | invalidDnsName : Final .invalidDnsName
  | ssl (text : String) : Final (.ssl text)
  | peerUnverified (host principal : String) : Final (.peerUnverified host principal)

/-- An error of reaching a server. -/
inductive Error.Unreached : Error → Prop
  | io (cause : IoError) : Unreached (.io cause)
  | socketCreation (cause : IoError) : Unreached (.socketCreation cause)

/-- An event of reaching a server: a socket is asked for, or there is none. -/
inductive Event.Reaching : Event → Prop
  | socketOnDesignatedNetwork : Reaching (.log .socketOnDesignatedNetwork)
  | socketOnDefaultNetwork : Reaching (.log .socketOnDefaultNetwork)
  | socketRequested (source : SocketSource) (address : SocketAddress) :
      Reaching (.socketRequested source address)
  | socketCreationFailed (error : String) : Reaching (.log (.socketCreationFailed error))

/-- An event of securing a link: the handshake is begun, or the host is verified. -/
inductive Event.Securing : Event → Prop
  | convertingToTls : Securing (.log .convertingToTls)
  | skippingHostVerification : Securing (.log .skippingHostVerification)
  | noPeerCertificate (host : String) : Securing (.log (.noPeerCertificate host))
  | matchedBySuffix (host : String) : Securing (.log (.matchedBySuffix host))
  | nameMismatch (host error : String) : Securing (.log (.nameMismatch host error))
  | communicationError : Securing (.notified .communicationError)

/-- Whether a line says that an attempt has failed. -/
def LogEvent.isAttemptFailed : LogEvent → Bool
  | .attemptFailed .. => true
  | _ => false

/-- Whether a line says that all candidates were tried. -/
def LogEvent.isNoMoreAddresses : LogEvent → Bool
  | .noMoreAddresses _ => true
  | _ => false

/-- An event that says nothing about how an attempt has ended. -/
def Event.Unconcluding (e : Event) : Prop :=
  ∀ line, e = .log line → line.isAttemptFailed = false ∧ line.isNoMoreAddresses = false

namespace Connector

variable {ω : Type}

/-- What one attempt can fail with. -/
def AttemptError (e : Error) : Prop := (∃ cause, e = .io cause) ∨ e.Final

/-! ### Reaching a server -/

/-- The stages of an attempt up to the connection. No certificate has a part in them. -/
def reach (c : Connector ω) (candidate : Candidate) : Task ω Error Link := do
  let address ← c.addressOf candidate
  let socket ← c.createSocket address
  c.connectSocket socket address

/-- The stages of an attempt behind the connection. -/
def finish (c : Connector ω) (link : Link) : Task ω Error Link :=
  if c.config.encrypts then secure c.config link else return link

lemma attempt_eq (c : Connector ω) (candidate : Candidate) :
    c.attempt candidate = c.reach candidate >>= c.finish := by
  simp only [attempt, reach, bind_assoc]
  rfl

lemma addressOf_within (c : Connector ω) (candidate : Candidate) :
    Task.Within Event.Reaching Error.Unreached (c.addressOf candidate) := by
  cases candidate with
  | address a => exact .pure a
  | host name port =>
    have hlookup : Task.Within Event.Reaching Error.Unreached
        (Task.mapError Error.io (Task.step (c.platform.lookup name))) := by
      have hstep : Task.Within Event.Reaching (fun _ => True)
          (Task.step (c.platform.lookup name)) := .step fun _ _ _ => trivial
      exact hstep.mapError fun cause _ => .io cause
    refine hlookup.bind fun addresses => ?_
    cases addresses with
    | nil => exact .fail (.io _)
    | cons ip more => exact .pure _

lemma createSocket_within (c : Connector ω) (address : SocketAddress) :
    Task.Within Event.Reaching Error.Unreached (c.createSocket address) := by
  rcases hsource : c.socketSource with ⟨source, create⟩
  rw [createSocket, hsource]
  have hline : Task.Within Event.Reaching Error.Unreached
      ((sourceLine? source).forM Task.log : Task ω Error Unit) := by
    cases source with
    | creator => exact .pure ()
    | network => exact .emit .socketOnDesignatedNetwork
    | system => exact .emit .socketOnDefaultNetwork
  refine hline.bind fun _ => ?_
  refine (Task.Within.emit (.socketRequested source address)).bind fun _ => ?_
  have hcreate : Task.Within Event.Reaching (fun _ => True) (Task.step (create address)) :=
    .step fun _ _ _ => trivial
  refine hcreate.attempt.bind fun created => ?_
  cases created with
  | ok socket => exact .pure socket
  | error cause =>
    refine (Task.Within.emit (.socketCreationFailed cause.message)).bind fun _ => ?_
    exact .fail (.socketCreation cause)

lemma connectSocket_within (c : Connector ω) (socket : Socket) (address : SocketAddress) :
    Task.Within Event.Reaching Error.Unreached (c.connectSocket socket address) := by
  apply Task.Within.step
  intro world e hfail
  split at hfail
  · cases hfail
    exact .io _
  · cases hfail
    exact .io _
  · cases hfail

/-- Reaching a server asks for sockets, and fails only for want of an address, a socket or a
connection. -/
theorem reach_within (c : Connector ω) (candidate : Candidate) :
    Task.Within Event.Reaching Error.Unreached (c.reach candidate) := by
  refine (c.addressOf_within candidate).bind fun address => ?_
  refine (c.createSocket_within address).bind fun socket => ?_
  exact c.connectSocket_within socket address

/-- A link that was just connected is plain. -/
lemma plain_of_reach {c : Connector ω} {candidate : Candidate} {w w' : ω} {link : Link}
    {trace : List Event} (h : (c.reach candidate).run w = ⟨.ok link, w', trace⟩) :
    ∃ address client server, link = .plain address client server := by
  obtain ⟨address, w₁, _, _, -, hrest, -⟩ := Task.run_bind_eq_ok h
  obtain ⟨socket, w₂, _, _, -, hconnect, -⟩ := Task.run_bind_eq_ok hrest
  rw [connectSocket, Task.run_step] at hconnect
  split at hconnect
  · cases hconnect
  · cases hconnect
  · next client server _ _ =>
    cases hconnect
    exact ⟨address, client, server, rfl⟩

/-! ### Securing a link -/

lemma readAnchors_error {e : Error} (ders : List Octets)
    (h : TlsConnector.readAnchors ders = .error e) : ∃ cause, e = .tls cause := by
  induction ders with
  | nil => cases h
  | cons der rest ih =>
    rw [TlsConnector.readAnchors] at h
    split at h
    · cases h
      exact ⟨_, rfl⟩
    · cases hrest : TlsConnector.readAnchors rest with
      | ok anchors => simp [hrest, Except.map] at h
      | error e' =>
        obtain rfl : e' = e := by simpa [hrest, Except.map] using h
        exact ih hrest

lemma ofConfig_error {config : Config} {e : Error}
    (h : TlsConnector.ofConfig config = .error e) : ∃ cause, e = .tls cause := by
  rw [TlsConnector.ofConfig] at h
  split at h
  · cases h
  · cases hanchors : TlsConnector.readAnchors config.extraRoots with
    | ok anchors => simp [hanchors, Except.map] at h
    | error e' =>
      obtain rfl : e' = e := by simpa [hanchors, Except.map] using h
      exact readAnchors_error _ hanchors

/-- How the upgrade of a link may end. -/
inductive Upgrading (tls : TlsConnector) (host : String) (link : Link) : Except Error Link → Prop
  /-- A link is upgraded only once. -/
  | again (encrypted : link.isTls = true) :
      Upgrading tls host link (.error (.ssl "stream is already TLS"))
  | unnamed (plain : link.isTls = false) (nameless : ServerName.parse? host = none) :
      Upgrading tls host link (.error .invalidDnsName)
  | failed {cause : IoError} (plain : link.isTls = false)
      (handshake : link.handshake.perform tls = .error cause) :
      Upgrading tls host link (.error (.io cause))
  | upgraded {session : Session} (plain : link.isTls = false)
      (handshake : link.handshake.perform tls = .ok session) :
      Upgrading tls host link (.ok { link with session := some session })

lemma upgrade_spec (tls : TlsConnector) (host : String) (link : Link) :
    Upgrading tls host link (link.upgrade tls host) := by
  rw [Link.upgrade]
  by_cases htls : link.isTls = true
  · rw [if_pos htls]
    exact .again htls
  · rw [if_neg htls]
    have hplain : link.isTls = false := by simpa using htls
    split
    · next hparse => exact .unnamed hplain hparse
    · split
      · next hperform => exact .failed hplain hperform
      · next hperform => exact .upgraded hplain hperform

lemma upgrade_attemptError {tls : TlsConnector} {host : String} {link : Link} {e : Error}
    (h : link.upgrade tls host = .error e) : AttemptError e := by
  have hspec := upgrade_spec tls host link
  rw [h] at hspec
  cases hspec with
  | again => exact .inr (.ssl _)
  | unnamed => exact .inr .invalidDnsName
  | failed => exact .inl ⟨_, rfl⟩

lemma verifyPeer_within (chain : Option (List Octets)) (host : String) :
    Task.Within Event.Securing AttemptError (verifyPeer chain host : Task ω Error Unit) := by
  obtain ⟨result, trace, hverify, hrun⟩ := verifyPeer_run chain host
  constructor
  · intro w e he
    rw [hrun w] at he
    cases hverify with
    | noCertificate =>
      rcases List.mem_pair.mp he with rfl | rfl
      · exact .noPeerCertificate host
      · exact .communicationError
    | unnamed => cases he
    | strict => cases he
    | suffix =>
      obtain rfl := List.mem_singleton.mp he
      exact .matchedBySuffix host
    | mismatch =>
      rcases List.mem_pair.mp he with rfl | rfl
      · exact .nameMismatch host _
      · exact .communicationError
  · intro w e he
    rw [hrun w] at he
    cases hverify with
    | noCertificate =>
      cases he
      exact .inr (.ssl _)
    | unnamed =>
      cases he
      exact .inr .invalidDnsName
    | strict => cases he
    | suffix => cases he
    | mismatch =>
      cases he
      exact .inr (.peerUnverified _ _)

theorem secure_within (config : Config) (link : Link) :
    Task.Within Event.Securing AttemptError (secure config link : Task ω Error Link) := by
  rw [secure]
  have htls : Task.Within Event.Securing AttemptError
      (Task.ofExcept (TlsConnector.ofConfig config) : Task ω Error TlsConnector) := by
    apply Task.Within.ofExcept
    intro e h
    obtain ⟨cause, rfl⟩ := ofConfig_error h
    exact .inr (.tls cause)
  refine (Task.Within.emit .convertingToTls).bind fun _ => ?_
  refine htls.bind fun tls => ?_
  refine (Task.Within.ofExcept fun e h => upgrade_attemptError h).bind fun upgraded => ?_
  split_ifs
  · refine (Task.Within.emit .skippingHostVerification).bind fun _ => ?_
    exact .pure upgraded
  · exact (verifyPeer_within _ _).bind fun _ => .pure upgraded

/-! ### All stages -/

lemma attemptError_of_unreached {e : Error} (h : e.Unreached) : AttemptError e := by
  cases h with
  | io cause => exact .inl ⟨cause, rfl⟩
  | socketCreation cause => exact .inr (.socketCreation cause)

/-- The events of an attempt are those of its stages, and it fails with an input or output error or
with one that ends the run. -/
theorem attempt_stages (c : Connector ω) (candidate : Candidate) :
    Task.Within (fun e => e.Reaching ∨ e.Securing) AttemptError (c.attempt candidate) := by
  rw [attempt_eq]
  have hreach : Task.Within (fun e => e.Reaching ∨ e.Securing) AttemptError (c.reach candidate) :=
    (c.reach_within candidate).mono (fun _ => .inl) fun _ => attemptError_of_unreached
  refine hreach.bind fun link => ?_
  rw [finish]
  split_ifs
  · exact (secure_within c.config link).mono (fun _ => .inr) fun _ => id
  · exact .pure link

/-- An attempt logs nothing about how an attempt has ended. -/
theorem attempt_within (c : Connector ω) (candidate : Candidate) :
    Task.Within Event.Unconcluding AttemptError (c.attempt candidate) := by
  refine (c.attempt_stages candidate).mono ?_ fun _ => id
  rintro e (hreaching | hsecuring) line rfl
  · cases hreaching <;> exact ⟨rfl, rfl⟩
  · cases hsecuring <;> exact ⟨rfl, rfl⟩

end Connector

end Mailwire
