import Mailwire.Proofs.Connector.Failover

/-!
# What a listener is told

Each error of opening a connection has its notice, or none (`Error.notice?`). A run is accounted for
if the listener is told the notice of its error right before it ends, and nothing else
(`Run.Accounted`). A row of tasks is accounted for if its members are, and so is every stage of an
attempt: the stages of reaching a server are silent, and verification ends with its notice.

Attempts that end in an input or output error have no notice, so however many of them there are, the
listener is told of the last one only (`Connector.connect_notices`).
-/

namespace Mailwire

/-- What a listener is told of an error. -/
def Error.notice? : Error → Option ChannelState
  | .resolve .. | .unresolved _ | .connect .. => some .serverConnectionError
  | .ssl _ | .peerUnverified .. => some .communicationError
  | .io _ | .socketCreation _ | .notConnected | .tls _ | .invalidDnsName => none

/-- What a listener is told of a result. -/
def notices {α : Type} : Except Error α → List ChannelState
  | .ok _ => []
  | .error e => e.notice?.toList

/-- The listener is told what is due right before the run ends, and nothing else. No run ends by
upgrading a link for the second time, of which nobody would be told. -/
structure Run.Accounted {σ α : Type} (r : Run σ Error α) : Prop where
  told : ∃ before, r.trace = before ++ (notices r.result).map .notified ∧
    Event.statesOf before = []
  upgradedOnce : ∀ e, r.result = .error e → e ≠ .ssl "stream is already TLS"

namespace Run.Accounted

variable {σ α β : Type}

lemma statesOf_eq {r : Run σ Error α} (h : r.Accounted) :
    Event.statesOf r.trace = notices r.result := by
  obtain ⟨before, htrace, hsilent⟩ := h.told
  rw [htrace, Event.statesOf_append, hsilent]
  simp [Event.statesOf]

/-- A run whose result is not worth a notice is silent. -/
lemma of_silent {r : Run σ Error α} (hresult : notices r.result = [])
    (htrace : Event.statesOf r.trace = []) : r.Accounted := by
  constructor
  · exact ⟨r.trace, by simp [hresult], htrace⟩
  · rintro e he rfl
    simp [he, notices, Error.notice?] at hresult

/-- Silent events may come first. -/
lemma prepend {r : Run σ Error α} (h : r.Accounted) {earlier : List Event}
    (hearlier : Event.statesOf earlier = []) :
    Accounted ⟨r.result, r.state, earlier ++ r.trace⟩ := by
  obtain ⟨before, htrace, hsilent⟩ := h.told
  constructor
  · refine ⟨earlier ++ before, ?_, ?_⟩
    · rw [List.append_assoc, ← htrace]
    · rw [Event.statesOf_append, hearlier, hsilent, List.append_nil]
  · exact h.upgradedOnce

/-- The row is accounted for if its first member is, and the second in the state that is left. -/
lemma bind {t : Task σ Error α} {f : α → Task σ Error β} {s : σ} (ht : (t.run s).Accounted)
    (hf : ∀ a, (t.run s).result = .ok a → ((f a).run (t.run s).state).Accounted) :
    ((t >>= f).run s).Accounted := by
  rw [Task.run_bind]
  split
  · next a hresult =>
    refine prepend (hf a hresult) ?_
    rw [ht.statesOf_eq, hresult]
    rfl
  · next e hresult =>
    obtain ⟨before, htrace, hsilent⟩ := ht.told
    rw [hresult] at htrace
    constructor
    · exact ⟨before, htrace, hsilent⟩
    · rintro e' ⟨⟩
      exact ht.upgradedOnce e hresult

/-- A line, the notice of an error, and the error. -/
lemma announce {line : LogEvent} {state : ChannelState} {e : Error} (h : e.notice? = some state)
    (hfirst : e ≠ .ssl "stream is already TLS") (s : σ) :
    ((do Task.log line; Task.notify state; Task.fail e : Task σ Error α).run s).Accounted := by
  constructor
  · refine ⟨[.log line], ?_, rfl⟩
    simp [Task.run_bind, notices, h]
  · rintro e' he
    obtain rfl : e = e' := by simpa [Task.run_bind] using he
    exact hfirst

end Run.Accounted

/-- A task without notices whose failures have none is accounted for. -/
lemma Task.Within.accounted {σ α : Type} {events : Event → Prop} {failures : Error → Prop}
    {t : Task σ Error α} (ht : Task.Within events failures t)
    (hevents : ∀ state, ¬ events (.notified state))
    (hfailures : ∀ e, failures e → e.notice? = none) (s : σ) : (t.run s).Accounted := by
  apply Run.Accounted.of_silent
  · cases hresult : (t.run s).result with
    | ok a => rfl
    | error e => simp [notices, hfailures e (ht.failure s e hresult)]
  · apply List.filterMap_eq_nil_iff.mpr
    intro e he
    cases e with
    | notified state => exact absurd (ht.trace s _ he) (hevents state)
    | _ => rfl

namespace Connector

variable {ω α : Type}

/-! ### One attempt -/

lemma reach_accounted (c : Connector ω) (candidate : Candidate) (w : ω) :
    ((c.reach candidate).run w).Accounted := by
  apply (c.reach_within candidate).accounted
  · rintro state ⟨⟩
  · intro e he
    cases he <;> rfl

lemma verifyPeer_accounted {σ : Type} (chain : Option (List Octets)) (host : String) (s : σ) :
    ((verifyPeer chain host : Task σ Error Unit).run s).Accounted := by
  obtain ⟨result, trace, hverify, hrun⟩ := verifyPeer_run chain host
  rw [hrun s]
  cases hverify with
  | noCertificate => exact .announce rfl (by simp) s
  | unnamed => exact .of_silent rfl rfl
  | strict => exact .of_silent rfl rfl
  | suffix => exact .of_silent rfl rfl
  | mismatch => exact .announce rfl (by simp) s

/-- No error of upgrading a plain link is worth a notice. -/
lemma upgrade_plain_error {tls : TlsConnector} {host : String} {link : Link} {e : Error}
    (hplain : link.session = none) (h : link.upgrade tls host = .error e) : e.notice? = none := by
  have hspec := upgrade_spec tls host link
  rw [h] at hspec
  cases hspec with
  | again htls => simp [Endpoints.isTls, hplain] at htls
  | unnamed => rfl
  | failed => rfl

lemma ofExcept_accounted {σ : Type} {result : Except Error α} (h : notices result = []) (s : σ) :
    ((Task.ofExcept result : Task σ Error α).run s).Accounted := by
  cases result with
  | ok a => exact .of_silent rfl rfl
  | error e => exact .of_silent h rfl

lemma secure_accounted (config : Config) {link : Link} (hplain : link.session = none) (w : ω) :
    ((secure config link).run w).Accounted := by
  have htls : notices (TlsConnector.ofConfig config) = [] := by
    cases hresult : TlsConnector.ofConfig config with
    | ok tls => rfl
    | error e =>
      obtain ⟨cause, rfl⟩ := ofConfig_error hresult
      rfl
  have hupgrade : ∀ tls, notices (link.upgrade tls config.host) = [] := by
    intro tls
    cases hresult : link.upgrade tls config.host with
    | ok upgraded => rfl
    | error e => simp [notices, upgrade_plain_error hplain hresult]
  apply Run.Accounted.bind (.of_silent rfl rfl)
  intro _ _
  apply (ofExcept_accounted htls _).bind
  intro tls _
  apply (ofExcept_accounted (hupgrade tls) _).bind
  intro upgraded _
  dsimp only
  split_ifs
  · exact .of_silent rfl rfl
  · apply (verifyPeer_accounted _ _ _).bind
    intro _ _
    exact .of_silent rfl rfl

/-- The listener is told of an attempt what is due. Of an input or output error it is told nothing. -/
theorem attempt_accounted (c : Connector ω) (candidate : Candidate) (w : ω) :
    ((c.attempt candidate).run w).Accounted := by
  rw [attempt_eq]
  apply (c.reach_accounted candidate w).bind
  intro link hlink
  rw [finish]
  split_ifs
  · obtain ⟨address, client, server, rfl⟩ :=
      plain_of_reach (show (c.reach candidate).run w = ⟨.ok link, _, _⟩ by rw [← hlink])
    exact secure_accounted c.config rfl _
  · exact .of_silent rfl rfl

/-! ### All attempts -/

/-- A row of input and output errors is silent. -/
lemma Failing.silent {c : Connector ω} {w w₁ : ω} {failures : List Failure}
    (h : Failing c.attempt w failures w₁) : Event.statesOf (Failure.events failures) = [] := by
  induction h with
  | nil => rfl
  | @snoc failures w₁ w₂ f _ hrun ih =>
    have hsilent := (c.attempt_accounted f.candidate w₁).statesOf_eq
    rw [hrun] at hsilent
    rw [Failure.events_append, Failure.events_singleton, Event.statesOf_append,
      Event.statesOf_append, ih, hsilent]
    rfl

lemma Outcome.accounted {c : Connector ω} {w : ω} {candidates : List Candidate}
    {failures : List Failure} {r : Run ω Error Link}
    (h : Outcome c.attempt w candidates failures r) : r.Accounted := by
  cases h with
  | @connected candidate _ w₁ _ _ _ _ hfailing hrun =>
    have hlast := c.attempt_accounted candidate w₁
    rw [hrun] at hlast
    exact hlast.prepend hfailing.silent
  | @refused candidate _ w₁ _ _ _ _ hfailing hrun _ =>
    have hlast := c.attempt_accounted candidate w₁
    rw [hrun] at hlast
    exact hlast.prepend hfailing.silent
  | exhausted _ hfailing _ =>
    constructor
    · refine ⟨Failure.events failures ++ [.log (.noMoreAddresses failures.length)], ?_, ?_⟩
      · simp [notices, Error.notice?]
      · rw [Event.statesOf_append, hfailing.silent]
        rfl
    · rintro e ⟨⟩
      simp

/-! ### Opening a connection -/

lemma candidates_accounted (c : Connector ω) (w : ω) : (c.candidates.run w).Accounted := by
  rw [candidates]
  split
  · exact .of_silent rfl rfl
  · apply Run.Accounted.bind (.of_silent rfl rfl)
    intro _ _
    apply Run.Accounted.bind (.of_silent rfl rfl)
    intro answer _
    split
    · exact .announce rfl (by simp) _
    · split_ifs
      · exact .announce rfl (by simp) _
      · exact .of_silent rfl rfl

lemma candidates_ne_nil {c : Connector ω} {w : ω} {listed : List Candidate}
    (h : (c.candidates.run w).result = .ok listed) : listed ≠ [] := by
  rcases c.listed_or_error w with ⟨listed', w₁, asked, hlisted⟩ | ⟨e, w₁, trace, hrun, -⟩
  · rw [hlisted.run] at h
    cases h
    exact hlisted.ne_nil
  · rw [hrun] at h
    cases h

lemma failover_accounted (c : Connector ω) {listed : List Candidate} (hne : listed ≠ []) (w : ω) :
    ((failover c.config.host c.attempt 0 listed).run w).Accounted := by
  have hnone : Failing c.attempt w [] w := .nil
  obtain ⟨failures, r, houtcome, hr⟩ :=
    failover_outcome c.config.host c.attempt_within listed hne hnone
  have haccounted := houtcome.accounted
  rw [hr] at haccounted
  exact haccounted

lemma connect_accounted (c : Connector ω) (w : ω) : (c.connect.run w).Accounted := by
  apply Run.Accounted.bind (.of_silent rfl rfl)
  intro _ _
  apply (c.candidates_accounted _).bind
  intro listed hlisted
  apply (c.failover_accounted (candidates_ne_nil hlisted) _).bind
  intro link _
  exact .of_silent rfl rfl

/-- Once the candidates are listed, the host counts as resolved. -/
lemma connect_ne_unresolved {c : Connector ω} {w : ω} {listed : List Candidate}
    (h : (c.candidates.run w).result = .ok listed) (host : String) :
    (c.connect.run w).result ≠ .error (.unresolved host) := by
  rcases c.listed_or_error w with ⟨listed', w₁, asked, hlisted⟩ | ⟨e, w₁, trace, hrun, -⟩
  · obtain ⟨failures, r, houtcome, hrun⟩ := connect_listed hlisted
    intro hresult
    have hr : r.result = .error (.unresolved host) := by
      rw [hrun] at hresult
      cases hr : r.result with
      | ok link => simp [hr, Except.map] at hresult
      | error e => simpa [hr, Except.map] using hresult
    rcases houtcome.error hr with hfinal | ⟨address, attempts, cause, heq⟩
    · cases hfinal
    · cases heq
  · rw [hrun] at h
    cases h

/-- While a connection is opened the listener is told the notice of the error that is returned, if it
has one, and nothing else: nothing of a success, and of each error at most once, after all other
events. So no error that has a notice is returned silently. Neither is a link upgraded twice, nor is a
host unresolved whose candidates were listed. -/
theorem connect_notices (c : Connector ω) (w : ω) :
    (∃ before, (c.connect.run w).trace
        = before ++ (notices (c.connect.run w).result).map .notified ∧
      Event.statesOf before = []) ∧
    Event.statesOf (c.connect.run w).trace = notices (c.connect.run w).result ∧
    (∀ e, (c.connect.run w).result = .error e → e ≠ .ssl "stream is already TLS") ∧
    ∀ listed, (c.candidates.run w).result = .ok listed →
      ∀ host, (c.connect.run w).result ≠ .error (.unresolved host) := by
  have haccounted := c.connect_accounted w
  refine ⟨haccounted.told, haccounted.statesOf_eq, haccounted.upgradedOnce, ?_⟩
  intro listed hlisted
  exact connect_ne_unresolved hlisted

/-- Two attempts fail, and the listener is told once. -/
theorem connect_notices_twoAddresses :
    Event.statesOf (twoAddresses.connect.run ()).trace = [.serverConnectionError] ∧
      ∀ host, (twoAddresses.connect.run ()).result ≠ .error (.unresolved host) := by
  obtain ⟨-, hstates, -, hresolved⟩ := connect_notices twoAddresses ()
  constructor
  · rw [hstates]
    rfl
  · exact hresolved [.address ⟨.v4 10 0 0 1, 143⟩, .address ⟨.v4 10 0 0 2, 143⟩] rfl

end Connector

end Mailwire
