import Mailwire.Proofs.Connector.Encryption
import Mailwire.Proofs.Connector.Notification
import Mailwire.Proofs.Connector.Tries

/-!
# Trust anchors that cannot be read

The anchors of a configuration are read in order and as a whole: if one cannot be read there is no TLS
connector, and the error is that of the first such anchor (`TlsConnector.readAnchors_eq_error_iff`). Where
any chain is accepted they are not read at all.

The connector is made anew in every attempt, but not before a server is reached. So anchors that cannot
be read go unnoticed while no server is reached, and then end the run at once
(`Connector.connect_anchors`).
-/

namespace Mailwire

/-! ### Reading anchors -/

/-- How the reading of an anchor ends. A certificate of the third version is expected, and only one of
another version is read once more, as one of the first. -/
inductive TrustAnchor.Reads (der : Octets) : Except CertificateProblem TrustAnchor → Prop
  | third {c : Certificate} (certificate : Certificate.read .ignore der = .ok c) :
      Reads der (.ok ⟨c.subject, c.publicKey⟩)
  | first {anchor : TrustAnchor}
      (other : Certificate.read .ignore der = .error (.rare .unsupportedVersion))
      (certificate : readFirstVersion der = some anchor) : Reads der (.ok anchor)
  | neither (other : Certificate.read .ignore der = .error (.rare .unsupportedVersion))
      (none : readFirstVersion der = none) : Reads der (.error .badEncoding)
  | malformed {problem : CertificateProblem}
      (refused : Certificate.read .ignore der = .error problem)
      (otherwise : problem ≠ .rare .unsupportedVersion) : Reads der (.error problem)

lemma TrustAnchor.reads_parse (der : Octets) : Reads der (parse der) := by
  rw [parse]
  split
  · next hread => exact .third hread
  · next hread =>
    cases hfirst : readFirstVersion der with
    | none => exact .neither hread hfirst
    | some anchor => exact .first hread hfirst
  · next problem hother hread => exact .malformed hread hother

/-- The reading of an anchor can end in one way only. -/
lemma TrustAnchor.reads_iff {der : Octets} {result : Except CertificateProblem TrustAnchor} :
    Reads der result ↔ parse der = result := by
  constructor
  · intro h
    rw [parse]
    cases h with
    | third hread => rw [hread]
    | first hread hfirst =>
      rw [hread]
      simp [hfirst, Certificate.wellFormed]
    | neither hread hfirst =>
      rw [hread]
      simp [hfirst, Certificate.wellFormed]
    | malformed hread hother =>
      rw [hread]
      split
      · next heq => cases heq
      · next heq => exact absurd (Except.error.inj heq) hother
      · next heq =>
        cases heq
        rfl
  · rintro rfl
    exact reads_parse der

namespace TlsConnector

lemma readAnchors_eq_ok_iff {ders : List Octets} {anchors : List TrustAnchor} :
    readAnchors ders = .ok anchors ↔
      List.Forall₂ (fun der anchor => TrustAnchor.Reads der (.ok anchor)) ders anchors := by
  simp only [TrustAnchor.reads_iff]
  induction ders generalizing anchors with
  | nil => simp [readAnchors, eq_comm]
  | cons der rest ih =>
    rw [readAnchors, List.forall₂_cons_left_iff]
    cases hparse : TrustAnchor.parse der with
    | error problem => simp
    | ok anchor =>
      simp only [← ih, Except.ok.injEq]
      cases hrest : readAnchors rest with
      | error e => simp [Except.map]
      | ok more => simp [Except.map, eq_comm]

/-- The error is that of the first anchor that cannot be read, whatever stands behind it. -/
theorem readAnchors_eq_error_iff {ders : List Octets} {e : Error} :
    readAnchors ders = .error e ↔
      ∃ front der behind problem, ders = front ++ der :: behind ∧
        (∀ d ∈ front, ∃ anchor, TrustAnchor.Reads d (.ok anchor)) ∧
        TrustAnchor.Reads der (.error problem) ∧ e = .tls (.invalidCertificate problem) := by
  simp only [TrustAnchor.reads_iff]
  induction ders with
  | nil => simp [readAnchors]
  | cons der rest ih =>
    rw [readAnchors]
    cases hparse : TrustAnchor.parse der with
    | error problem =>
      constructor
      · rintro ⟨⟩
        exact ⟨[], der, rest, problem, rfl, by simp, hparse, rfl⟩
      · rintro ⟨front, der', behind, problem', hsplit, hfront, hparse', rfl⟩
        cases front with
        | nil =>
          cases hsplit
          rw [hparse] at hparse'
          cases hparse'
          rfl
        | cons first front =>
          cases hsplit
          obtain ⟨anchor, hanchor⟩ := hfront der (by simp)
          rw [hparse] at hanchor
          cases hanchor
    | ok anchor =>
      have hmap : (readAnchors rest).map (anchor :: ·) = .error e ↔ readAnchors rest = .error e := by
        cases readAnchors rest <;> simp [Except.map]
      rw [hmap, ih]
      constructor
      · rintro ⟨front, der', behind, problem, rfl, hfront, hparse', rfl⟩
        exact ⟨der :: front, der', behind, problem, rfl,
          List.forall_mem_cons.mpr ⟨⟨anchor, hparse⟩, hfront⟩, hparse', rfl⟩
      · rintro ⟨front, der', behind, problem, hsplit, hfront, hparse', rfl⟩
        cases front with
        | nil =>
          cases hsplit
          rw [hparse] at hparse'
          cases hparse'
        | cons first front =>
          cases hsplit
          exact ⟨front, der', behind, problem, rfl, (List.forall_mem_cons.mp hfront).2, hparse', rfl⟩

lemma readAnchors_isOk_iff {ders : List Octets} :
    (∃ anchors, readAnchors ders = .ok anchors) ↔
      ∀ der ∈ ders, ∃ anchor, TrustAnchor.Reads der (.ok anchor) := by
  simp only [readAnchors_eq_ok_iff]
  induction ders with
  | nil => simp
  | cons der rest ih =>
    rw [List.forall_mem_cons, ← ih]
    constructor
    · rintro ⟨anchors, hanchors⟩
      cases hanchors with
      | cons hread hmore => exact ⟨⟨_, hread⟩, _, hmore⟩
    · rintro ⟨⟨anchor, hread⟩, anchors, hmore⟩
      exact ⟨anchor :: anchors, .cons hread hmore⟩

lemma ofConfig_of_trustsAll {config : Config} (h : config.trustsAll = true) :
    ofConfig config = .ok ⟨none⟩ := by
  rw [ofConfig, if_pos h]

lemma ofConfig_eq_ok_iff {config : Config} (h : config.trustsAll = false) {tls : TlsConnector} :
    ofConfig config = .ok tls ↔
      ∃ anchors, tls = ⟨some anchors⟩ ∧ readAnchors config.extraRoots = .ok anchors := by
  rw [ofConfig, if_neg (by simp [h])]
  cases readAnchors config.extraRoots with
  | ok anchors => simp [Except.map, eq_comm]
  | error e => simp [Except.map]

lemma ofConfig_eq_error_iff {config : Config} (h : config.trustsAll = false) {e : Error} :
    ofConfig config = .error e ↔ readAnchors config.extraRoots = .error e := by
  rw [ofConfig, if_neg (by simp [h])]
  cases readAnchors config.extraRoots with
  | ok anchors => simp [Except.map]
  | error e => simp [Except.map]

end TlsConnector

namespace Connector

variable {ω : Type} {c : Connector ω}

/-! ### One try -/

/-- What a try comes to before any anchor is read: a link, if a server accepts the connection. -/
def reached (c : Connector ω) (t : Try ω) : Except Error Link :=
  ((c.reach t.candidate).run t.world).result

lemma secure_of_error {e : Error} (htls : TlsConnector.ofConfig c.config = .error e) (link : Link)
    (w : ω) : ((secure c.config link).run w).result = .error e := by
  rw [secure, htls]
  rfl

/-- Where there is no TLS connector, a try that has reached a server ends for want of it. -/
lemma attempt_of_reach (hencrypts : c.config.encrypts = true) {e : Error}
    (htls : TlsConnector.ofConfig c.config = .error e) {t : Try ω} {link : Link}
    (h : c.reached t = .ok link) : (t.run c.attempt).result = .error e := by
  rw [reached] at h
  rcases hreach : (c.reach t.candidate).run t.world with ⟨result, w, trace⟩
  rw [hreach] at h
  obtain rfl : result = .ok link := h
  rw [Try.run, attempt_eq, Task.run_bind_ok hreach, finish, if_pos hencrypts]
  exact secure_of_error htls link w

/-- A try that has not reached a server ends with what has kept it from it. -/
lemma attempt_of_unreached {t : Try ω} {e : Error} (h : c.reached t = .error e) :
    (t.run c.attempt).result = .error e ∧ e.Unreached := by
  refine ⟨?_, (c.reach_within t.candidate).failure t.world e h⟩
  rw [reached] at h
  rcases hreach : (c.reach t.candidate).run t.world with ⟨result, w, trace⟩
  rw [hreach] at h
  obtain rfl : result = .error e := h
  rw [Try.run, attempt_eq, Task.run_bind_error hreach]

/-! ### Opening a connection -/

/-- A try that reaches a server is the last, and those before it have not. -/
lemma connect_of_reach (hencrypts : c.config.encrypts = true) {cause : TlsError}
    (htls : TlsConnector.ofConfig c.config = .error (.tls cause)) {w : ω} {front behind : List (Try ω)}
    {t : Try ω} {link : Link} (htried : c.tried w = front ++ t :: behind)
    (h : c.reached t = .ok link) :
    behind = [] ∧ (∀ t' ∈ front, ∃ cause, c.reached t' = .error (.io cause)) ∧
      (c.connect.run w).result = .error (.tls cause) := by
  have hstop : ∀ {t : Try ω} {link : Link}, c.reached t = .ok link →
      movesOn (t.run c.attempt).result = false := by
    intro t link h
    rw [attempt_of_reach hencrypts htls h]
    rfl
  obtain ⟨hbehind, hresult⟩ := connect_of_stop htried (hstop h)
  rw [attempt_of_reach hencrypts htls h] at hresult
  refine ⟨hbehind, ?_, hresult⟩
  intro t' ht'
  obtain ⟨before, between, rfl⟩ := List.append_of_mem ht'
  -- had it ended in another way, there would be no try behind it
  have hmoves : movesOn (t'.run c.attempt).result = true := by
    by_contra hstays
    rw [List.append_assoc] at htried
    obtain ⟨hnone, -⟩ := connect_of_stop htried (by simpa using hstays)
    simp at hnone
  cases hreached : c.reached t' with
  | ok other =>
    rw [hstop hreached] at hmoves
    cases hmoves
  | error e =>
    rw [(attempt_of_unreached hreached).1] at hmoves
    obtain ⟨cause, heq⟩ := movesOn_iff.mp hmoves
    cases heq
    exact ⟨cause, rfl⟩

/-- Where there is no TLS connector, only a try that has reached a server ends for want of it. -/
lemma reach_of_connect (hencrypts : c.config.encrypts = true) {e : Error}
    (htls : TlsConnector.ofConfig c.config = .error e) {w : ω} {cause : TlsError}
    (h : (c.connect.run w).result = .error (.tls cause)) :
    .tls cause = e ∧ ∃ front t link, c.tried w = front ++ [t] ∧ c.reached t = .ok link := by
  obtain ⟨front, t, htried, hattempt⟩ := exists_stop (.tls cause) h
  cases hreached : c.reached t with
  | error e' =>
    obtain ⟨hattempt', hunreached⟩ := attempt_of_unreached hreached
    rw [hattempt] at hattempt'
    cases hattempt'
    cases hunreached
  | ok link =>
    rw [attempt_of_reach hencrypts htls hreached] at hattempt
    cases hattempt
    exact ⟨rfl, front, t, link, htried, hreached⟩

/-- Where any chain is accepted, anchors are not read. Otherwise there is a TLS connector if and only if
all anchors can be read, and it then has all of them; if not, the error is that of the first that cannot be
read, whatever stands behind it.

While a connection is opened under encryption, such an error does not show before a server is reached. The
first try that reaches one ends with it, and with that try the run: nothing else is tried and the listener
is told nothing. If no try reaches a server the run does not end with this error. -/
theorem connect_anchors (c : Connector ω) :
    (c.config.trustsAll = true → TlsConnector.ofConfig c.config = .ok ⟨none⟩) ∧
    (c.config.trustsAll = false →
      ((∃ tls, TlsConnector.ofConfig c.config = .ok tls) ↔
        ∀ der ∈ c.config.extraRoots, ∃ anchor, TrustAnchor.Reads der (.ok anchor)) ∧
      (∀ tls, TlsConnector.ofConfig c.config = .ok tls ↔ ∃ anchors, tls = ⟨some anchors⟩ ∧
        List.Forall₂ (fun der anchor => TrustAnchor.Reads der (.ok anchor))
          c.config.extraRoots anchors) ∧
      ∀ e, TlsConnector.ofConfig c.config = .error e ↔
        ∃ front der behind problem, c.config.extraRoots = front ++ der :: behind ∧
          (∀ d ∈ front, ∃ anchor, TrustAnchor.Reads d (.ok anchor)) ∧
          TrustAnchor.Reads der (.error problem) ∧ e = .tls (.invalidCertificate problem)) ∧
    (c.config.encrypts = true → ∀ e, TlsConnector.ofConfig c.config = .error e → ∀ w,
      (∀ front t behind link, c.tried w = front ++ t :: behind → c.reached t = .ok link →
        behind = [] ∧ (∀ t' ∈ front, ∃ cause, c.reached t' = .error (.io cause)) ∧
          (c.connect.run w).result = .error e ∧ Event.statesOf (c.connect.run w).trace = []) ∧
      ∀ cause, (c.connect.run w).result = .error (.tls cause) →
        .tls cause = e ∧ ∃ front t link, c.tried w = front ++ [t] ∧ c.reached t = .ok link) := by
  refine ⟨TlsConnector.ofConfig_of_trustsAll, ?_, ?_⟩
  · intro htrust
    refine ⟨?_, ?_, ?_⟩
    · rw [← TlsConnector.readAnchors_isOk_iff]
      simp [TlsConnector.ofConfig_eq_ok_iff htrust]
    · intro tls
      simp only [TlsConnector.ofConfig_eq_ok_iff htrust, TlsConnector.readAnchors_eq_ok_iff]
    · intro e
      rw [TlsConnector.ofConfig_eq_error_iff htrust, TlsConnector.readAnchors_eq_error_iff]
  · intro hencrypts e htls w
    obtain ⟨cause, rfl⟩ := ofConfig_error htls
    refine ⟨?_, fun cause => reach_of_connect hencrypts htls⟩
    intro front t behind link htried hreached
    obtain ⟨hbehind, hfront, hresult⟩ := connect_of_reach hencrypts htls htried hreached
    refine ⟨hbehind, hfront, hresult, ?_⟩
    rw [(c.connect_accounted w).statesOf_eq, hresult]
    rfl

/-- A connector whose second anchor breaks off. The first address of its host refuses. -/
def brokenAnchor : Connector Unit :=
  { secondServes with
    config := { secondServes.config with extraRoots := [starDer, [0x30, 0x05], starDer] } }

theorem connect_anchors_brokenAnchor :
    (brokenAnchor.connect.run ()).result = .error (.tls (.invalidCertificate .badEncoding)) ∧
      Event.statesOf (brokenAnchor.connect.run ()).trace = [] := by
  have hstar : (TrustAnchor.parse starDer).isOk = true := by decide +kernel
  obtain ⟨anchor, hanchor⟩ : ∃ anchor, TrustAnchor.Reads starDer (.ok anchor) := by
    cases hparse : TrustAnchor.parse starDer with
    | ok anchor => exact ⟨anchor, TrustAnchor.reads_iff.mpr hparse⟩
    | error problem => simp [hparse, Except.isOk, Except.toBool] at hstar
  have hbroken : TrustAnchor.Reads [0x30, 0x05] (.error .badEncoding) :=
    TrustAnchor.reads_iff.mpr (by rfl)
  obtain ⟨-, hanchors, hencrypted⟩ := connect_anchors brokenAnchor
  obtain ⟨-, -, herror⟩ := hanchors rfl
  have htls := (herror _).mpr ⟨[starDer], _, [starDer], _, rfl, by simpa using ⟨anchor, hanchor⟩,
    hbroken, rfl⟩
  obtain ⟨hstops, -⟩ := hencrypted rfl _ htls ()
  have htried : brokenAnchor.tried () = [⟨.address ⟨.v4 10 0 0 1, 993⟩, ()⟩] ++
      [⟨.address ⟨.v4 10 0 0 2, 993⟩, ()⟩] := by
    have hmoves : movesOn ((brokenAnchor.attempt (.address ⟨.v4 10 0 0 1, 993⟩)).run ()).result
        = true := rfl
    show tries brokenAnchor.attempt
      [.address ⟨.v4 10 0 0 1, 993⟩, .address ⟨.v4 10 0 0 2, 993⟩] () = _
    simp [tries, hmoves]
  obtain ⟨-, -, hresult, hstates⟩ := hstops _ _ [] _ htried rfl
  exact ⟨hresult, hstates⟩

end Connector

end Mailwire
