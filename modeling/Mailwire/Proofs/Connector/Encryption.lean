import Mailwire.Proofs.Connector.Events
import Mailwire.Proofs.Connector.Failover

/-!
# Connections are no less secure than configured

A link that was just connected is plain. Where the configuration asks for encryption the link is
then secured: the handshake has to succeed under the connector of that very configuration, and
unless any certificate is accepted, the host has to be verified against the chain of the session
(`Secured`). Where it does not ask for encryption, an attempt only reaches a server.

The state of the platform, which is all that earlier candidates leave behind, makes no difference to
these checks (`Connector.finish_stateless`). So a candidate that is accepted behind any number of
failures would have been accepted in front of them (`Connector.connect_secured`).
-/

namespace Mailwire

/-- What has to stand behind a session under a configuration. -/
structure Secured (config : Config) (ends : Endpoints) (session : Session) : Prop where
  established : ends.session = some session
  /-- The far end has passed the handshake of the configured connector. -/
  handshake : ∃ tls, TlsConnector.ofConfig config = .ok tls ∧
    ends.handshake.perform tls = .ok session
  /-- The host is verified, whenever that is done. -/
  verified : config.trustsAll = false → ∀ {σ : Type} (s : σ),
    ((verifyPeer (some session.chain) config.host).run s).result = .ok ()

namespace Connector

variable {ω : Type}

/-! ### One attempt -/

lemma verifyPeer_stateless (chain : Option (List Octets)) (host : String) :
    Task.Stateless (verifyPeer chain host : Task ω Error Unit) := by
  obtain ⟨result, trace, -, hrun⟩ := verifyPeer_run chain host
  exact ⟨result, trace, hrun⟩

/-- It does not even matter what the states are. -/
lemma verifyPeer_result_eq {σ τ : Type} (chain : Option (List Octets)) (host : String) (s : σ)
    (t : τ) : ((verifyPeer chain host).run s).result = ((verifyPeer chain host).run t).result := by
  obtain ⟨result, trace, -, hrun⟩ := verifyPeer_run chain host
  rw [hrun s, hrun t]

lemma secure_stateless (config : Config) (link : Link) :
    Task.Stateless (secure config link : Task ω Error Link) := by
  refine (Task.Stateless.emit _).bind fun _ => ?_
  refine (Task.Stateless.ofExcept _).bind fun tls => ?_
  refine (Task.Stateless.ofExcept _).bind fun upgraded => ?_
  dsimp only
  split_ifs
  · exact (Task.Stateless.emit _).bind fun _ => .pure _
  · exact (verifyPeer_stateless _ _).bind fun _ => .pure _

lemma finish_stateless (c : Connector ω) (link : Link) : Task.Stateless (c.finish link) := by
  rw [finish]
  split_ifs
  · exact secure_stateless c.config link
  · exact .pure link

lemma upgrade_eq_ok {tls : TlsConnector} {host : String} {link upgraded : Link}
    (h : link.upgrade tls host = .ok upgraded) :
    ∃ session, link.handshake.perform tls = .ok session ∧
      upgraded = { link with session := some session } := by
  have hspec := upgrade_spec tls host link
  rw [h] at hspec
  cases hspec with
  | upgraded _ hperform => exact ⟨_, hperform, rfl⟩

/-- Where the configuration asks for encryption, a finished link has passed all checks. -/
lemma secured_of_finish {c : Connector ω} {plain link : Link} {w : ω}
    (hencrypts : c.config.encrypts = true) (h : ((c.finish plain).run w).result = .ok link) :
    ∃ session, Secured c.config link.toEndpoints session := by
  rcases hrun : (c.finish plain).run w with ⟨result, w', trace⟩
  obtain rfl : result = .ok link := by simpa [hrun] using h
  rw [finish, if_pos hencrypts] at hrun
  obtain ⟨_, w₁, _, _, -, hrun, -⟩ := Task.run_bind_eq_ok hrun
  obtain ⟨tls, w₂, _, _, htls, hrun, -⟩ := Task.run_bind_eq_ok hrun
  obtain ⟨upgraded, w₃, _, _, hupgrade, hrun, -⟩ := Task.run_bind_eq_ok hrun
  have htls : TlsConnector.ofConfig c.config = .ok tls := Task.ofExcept_eq_ok htls
  obtain ⟨session, hperform, rfl⟩ := upgrade_eq_ok (Task.ofExcept_eq_ok hupgrade)
  dsimp only at hrun
  split_ifs at hrun with htrust
  · obtain ⟨_, w₄, _, _, -, hrun, -⟩ := Task.run_bind_eq_ok hrun
    cases hrun
    exact ⟨session, rfl, ⟨tls, htls, hperform⟩, by simp [htrust]⟩
  · obtain ⟨_, w₄, _, _, hverify, hrun, -⟩ := Task.run_bind_eq_ok hrun
    cases hrun
    refine ⟨session, rfl, ⟨tls, htls, hperform⟩, ?_⟩
    intro _ σ s
    rw [verifyPeer_result_eq _ _ s w₃]
    exact congrArg Run.result hverify

/-! ### Opening a connection -/

/-- A connection comes from an attempt that reaches a server and finishes the link. -/
lemma attempt_of_connect {c : Connector ω} {w : ω} {connection : Connection}
    (h : (c.connect.run w).result = .ok connection) :
    ∃ candidate w₁ w₂ plain link trace,
      (c.reach candidate).run w₁ = ⟨.ok plain, w₂, trace⟩ ∧
      ((c.finish plain).run w₂).result = .ok link ∧ connection = .ofLink c.config link := by
  rcases c.listed_or_error w with ⟨listed, w₁, asked, hlisted⟩ | ⟨e, w₁, trace, hrun, -⟩
  · obtain ⟨failures, r, houtcome, hrun⟩ := connect_listed hlisted
    rw [hrun] at h
    cases houtcome with
    | @connected candidate untried w₂ w₃ link trace split failing run =>
      obtain rfl : .ofLink c.config link = connection := by simpa [Except.map] using h
      rw [attempt_eq] at run
      obtain ⟨plain, w₄, trace₁, trace₂, hreach, hfinish, -⟩ := Task.run_bind_eq_ok run
      exact ⟨candidate, w₂, w₄, plain, link, trace₁, hreach, by rw [hfinish], rfl⟩
    | refused => cases h
    | exhausted => cases h
  · rw [run_connect_error hrun] at h
    cases h

/-- Without encryption, attempts only reach servers. -/
lemma attempt_of_plain {c : Connector ω} (h : c.config.encrypts = false) :
    c.attempt = c.reach := by
  funext candidate
  have hfinish : c.finish = pure := by
    funext link
    simp [finish, h]
  rw [attempt_eq, hfinish, bind_pure]

lemma pursue_within_plain {c : Connector ω} (h : c.config.encrypts = false) :
    Task.Within (fun e => e.Trying ∨ e.Reaching) (fun e => e.Unavailable ∨ e.Unreached)
      c.pursue := by
  apply pursue_within
  intro candidate
  rw [attempt_of_plain h]
  exact c.reach_within candidate

/-- A connection is encrypted if and only if its configuration says so. Where it is encrypted, the
far end has passed the handshake of the configured connector, and unless any certificate is accepted,
the host is verified against the chain of the session. These checks were made on the plain link of the
candidate, and they come to the same in any state, so whatever failures lie before. Where it is not
encrypted, attempts only reach servers, and nothing is seen of a handshake or a verification. -/
theorem connect_secured (c : Connector ω) (w : ω) :
    (∀ connection, (c.connect.run w).result = .ok connection →
      connection.isTls = c.config.encrypts ∧
      (c.config.encrypts = true →
        ∃ session, Secured c.config connection.toEndpoints session) ∧
      ∃ candidate w₁ w₂ address client server link trace,
        (c.reach candidate).run w₁ = ⟨.ok (.plain address client server), w₂, trace⟩ ∧
        connection = .ofLink c.config link ∧
        ∀ w', ((c.finish (.plain address client server)).run w').result = .ok link) ∧
    (c.config.encrypts = false →
      c.attempt = c.reach ∧
      (∀ e ∈ (c.connect.run w).trace, ¬ e.Securing) ∧
      ∀ e, (c.connect.run w).result = .error e → e.errorClass = .io) := by
  constructor
  · intro connection hok
    obtain ⟨candidate, w₁, w₂, plain, link, trace, hreach, hfinish, rfl⟩ := attempt_of_connect hok
    obtain ⟨address, client, server, rfl⟩ := plain_of_reach hreach
    have hagain : ∀ w', ((c.finish (.plain address client server)).run w').result = .ok link :=
      fun w' => ((c.finish_stateless _).result_eq w' w₂).trans hfinish
    refine ⟨?_, ?_, candidate, w₁, w₂, address, client, server, link, trace, hreach, rfl, hagain⟩
    · cases hencrypts : c.config.encrypts with
      | true =>
        obtain ⟨session, hsecured⟩ := secured_of_finish hencrypts hfinish
        exact congrArg Option.isSome hsecured.established
      | false =>
        rw [finish, hencrypts] at hfinish
        cases hfinish
        rfl
    · intro hencrypts
      exact secured_of_finish hencrypts hfinish
  · intro hplain
    refine ⟨attempt_of_plain hplain, ?_, ?_⟩
    · intro e he hsecuring
      rw [run_connect] at he
      rcases List.mem_cons.mp he with rfl | he
      · cases hsecuring
      · rcases (pursue_within_plain hplain).trace w e he with htrying | hreaching
        · cases hsecuring <;> cases htrying
        · cases hsecuring <;> cases hreaching
    · intro e he
      rw [run_connect] at he
      rcases (pursue_within_plain hplain).failure w e he with hunavailable | hunreached
      · cases hunavailable <;> rfl
      · cases hunreached <;> rfl

/-- A connector that asks for encryption. The first address of its host refuses, and at the second a
server presents a certificate for all hosts below `example.org`. -/
def secondServes : Connector Unit :=
  { twoAddresses with
    config := .ofHost "mail.example.org" 993 .encrypt
    platform :=
      { twoAddresses.platform with
        connect := fun _ address _ =>
          if address.ip = .v4 10 0 0 1 then (.failed .connectionRefused, ())
          else (.accepted (.v4 10 0 0 9) ⟨.idle, .presents [starDer] .publicAnchor true⟩, ()) } }

theorem connect_secured_secondServes :
    ∃ connection, (secondServes.connect.run ()).result = .ok connection ∧
      connection.isTls = true ∧
      ∃ session, Secured secondServes.config connection.toEndpoints session := by
  have hok : (secondServes.connect.run ()).result.isOk = true := by decide +kernel
  cases hresult : (secondServes.connect.run ()).result with
  | error e => simp [hresult, Except.isOk, Except.toBool] at hok
  | ok connection =>
    obtain ⟨hconnection, -⟩ := connect_secured secondServes ()
    obtain ⟨htls, hsecured, -⟩ := hconnection connection hresult
    exact ⟨connection, rfl, htls, hsecured rfl⟩

end Connector

end Mailwire
