import Mailwire.Proofs.Certificate.Damage
import Mailwire.Proofs.Tls.Verification

/-!
# Verifications that fail

Both rules read the certificate before they look for a name, and they read it alike. So octets that are no
certificate are refused for every host, whatever names stand in them (`verifyPeer_damaged`).

A verification that fails tells the listener first, with one exception: where there is a certificate and the
host is no name of a server, it fails in silence (`verifyPeer_forewarns_iff`).
-/

namespace Mailwire

variable {σ : Type}

/-- The certificate is refused for the host because of a problem, and the listener is told once. -/
structure Run.Refuses (host : String) (problem : CertificateProblem) (r : Run σ Error Unit) :
    Prop where
  result : r.result = .error (.peerUnverified host (TlsError.invalidCertificate problem).message)
  told : Event.statesOf r.trace = [.communicationError]

/-- Octets that are no certificate are refused for every host that can be asked for. -/
lemma refuses_of_parse_error {der : Octets} {problem : CertificateProblem}
    (hparse : Certificate.parse der = .error problem) (rest : List Octets) {host : String}
    {server : ServerName} (hserver : ServerName.parse? host = some server) (s : σ) :
    ((verifyPeer (some (der :: rest)) host).run s).Refuses host problem := by
  have hheads : (some (der :: rest)).bind List.head? = some der := rfl
  obtain ⟨result, trace, hverify, hrun⟩ := verifyPeer_run (some (der :: rest)) host
  rw [hrun s]
  cases hverify with
  | noCertificate habsent => cases habsent
  | unnamed _ hnameless =>
    rw [hserver] at hnameless
    cases hnameless
  | strict hheads' _ hparsed _ =>
    cases hheads.symm.trans hheads'
    rw [hparse] at hparsed
    cases hparsed
  | suffix hheads' _ hparsed _ =>
    cases hheads.symm.trans hheads'
    rw [hparse] at hparsed
    cases hparsed
  | mismatch hheads' _ hstrict _ =>
    cases hheads.symm.trans hheads'
    rw [hparse] at hstrict
    cases hstrict
    exact ⟨rfl, rfl⟩

/-- What is accepted is a certificate. -/
lemma parse_of_verifyPeer_ok {der : Octets} {rest : List Octets} {host : String} {s : σ}
    (h : ((verifyPeer (some (der :: rest)) host).run s).result = .ok ()) :
    ∃ c, Certificate.parse der = .ok c := by
  have hheads : (some (der :: rest)).bind List.head? = some der := rfl
  obtain ⟨result, trace, hverify, hrun⟩ := verifyPeer_run (some (der :: rest)) host
  rw [hrun s] at h
  cases hverify with
  | noCertificate => cases h
  | unnamed => cases h
  | mismatch => cases h
  | strict hheads' _ hparsed _ =>
    cases hheads.symm.trans hheads'
    exact ⟨_, hparsed⟩
  | suffix hheads' _ hparsed _ =>
    cases hheads.symm.trans hheads'
    exact ⟨_, hparsed⟩

/-- Octets that are no certificate are refused by both rules, for every host that can be asked for, and
the listener is told once. So if a certificate is accepted for some host, then whatever is left of it when
octets are cut off or added is refused for every host. -/
theorem verifyPeer_damaged :
    (∀ (der : Octets) (problem : CertificateProblem), Certificate.parse der = .error problem →
      ∀ (rest : List Octets) (host : String) (server : ServerName),
        ServerName.parse? host = some server → ∀ s : σ,
          ((verifyPeer (some (der :: rest)) host).run s).Refuses host problem) ∧
    ∀ (der : Octets) (rest : List Octets) (host : String) (s : σ),
      ((verifyPeer (some (der :: rest)) host).run s).result = .ok () →
      ∀ other, Certificate.Damaged der other → ∀ (rest' : List Octets) (host' : String) (s' : σ),
        (∃ e, ((verifyPeer (some (other :: rest')) host').run s').result = .error e) ∧
        ∀ server, ServerName.parse? host' = some server →
          ((verifyPeer (some (other :: rest')) host').run s').Refuses host' .badEncoding := by
  constructor
  · intro der problem hparse rest host server hserver s
    exact refuses_of_parse_error hparse rest hserver s
  · intro der rest host s haccepted other hdamaged rest' host' s'
    obtain ⟨c, hparsed⟩ := parse_of_verifyPeer_ok haccepted
    have hother : Certificate.parse other = .error .badEncoding :=
      Certificate.parse_damaged hparsed hdamaged
    constructor
    · cases hresult : ((verifyPeer (some (other :: rest')) host').run s').result with
      | error e => exact ⟨e, rfl⟩
      | ok _ =>
        obtain ⟨c', hc'⟩ := parse_of_verifyPeer_ok hresult
        rw [hother] at hc'
        cases hc'
    · intro server hserver
      exact refuses_of_parse_error hother rest' hserver s'

/-- A certificate that is accepted by the suffix rule is refused without its last octet, and with one more,
also for a host that its name covers. -/
theorem verifyPeer_damaged_star :
    ((verifyPeer (some [starDer]) "imap.mail.example.org").run ()).result = .ok () ∧
      ((verifyPeer (some [starDer.dropLast]) "imap.mail.example.org").run ()).Refuses
        "imap.mail.example.org" .badEncoding ∧
      ((verifyPeer (some [starDer ++ [0]]) "a.example.org").run ()).Refuses
        "a.example.org" .badEncoding := by
  have haccepted : ((verifyPeer (some [starDer]) "imap.mail.example.org").run ()).result = .ok () := by
    decide +kernel
  have hmail : ServerName.parse? "imap.mail.example.org" = some (.dns "imap.mail.example.org") := by
    decide +kernel
  have ha : ServerName.parse? "a.example.org" = some (.dns "a.example.org") := by decide +kernel
  have hlast : starDer = starDer.dropLast ++ [0] := by decide +kernel
  have hcut : Certificate.Damaged starDer starDer.dropLast := .cut hlast (by simp)
  have hextended : Certificate.Damaged starDer (starDer ++ [0]) := .extended (by simp)
  obtain ⟨-, hdamaged⟩ := @verifyPeer_damaged Unit
  exact ⟨haccepted, (hdamaged _ _ _ _ haccepted _ hcut [] _ ()).2 _ hmail,
    (hdamaged _ _ _ _ haccepted _ hextended [] _ ()).2 _ ha⟩

/-! ### What the listener is told -/

/-- A run fails exactly if the listener is told of an error right before it ends, and is told nothing else.
If it succeeds, the listener is told nothing. -/
structure Run.Forewarns (r : Run σ Error Unit) : Prop where
  failure : (∃ e, r.result = .error e) ↔
    ∃ before, r.trace = before ++ [.notified .communicationError] ∧ Event.statesOf before = []
  success : r.result = .ok () → Event.statesOf r.trace = []

namespace Run.Forewarns

lemma of_ok {r : Run σ Error Unit} (hresult : r.result = .ok ())
    (htrace : Event.statesOf r.trace = []) : r.Forewarns := by
  refine ⟨?_, fun _ => htrace⟩
  constructor
  · rintro ⟨e, he⟩
    rw [hresult] at he
    cases he
  · rintro ⟨before, hbefore, -⟩
    rw [hbefore, Event.statesOf_append] at htrace
    simp [Event.statesOf] at htrace

lemma of_error {r : Run σ Error Unit} {e : Error} (hresult : r.result = .error e)
    {line : LogEvent} (htrace : r.trace = [.log line, .notified .communicationError]) :
    r.Forewarns := by
  constructor
  · exact ⟨fun _ => ⟨[.log line], htrace, rfl⟩, fun _ => ⟨e, hresult⟩⟩
  · intro hok
    rw [hresult] at hok
    cases hok

lemma not_silent_failure (e : Error) (s : σ) : ¬ (⟨.error e, s, []⟩ : Run σ Error Unit).Forewarns := by
  rintro ⟨hfailure, -⟩
  obtain ⟨before, hbefore, -⟩ := hfailure.mp ⟨e, rfl⟩
  simp at hbefore

end Run.Forewarns

/-- The listener is told before a verification fails, except where there is a certificate and the host is no
name of a server. There the verification fails, and nothing is seen of it. -/
theorem verifyPeer_forewarns_iff (chain : Option (List Octets)) (host : String) (s : σ) :
    (((verifyPeer chain host).run s).Forewarns ↔
      (ServerName.parse? host = none → chain.bind List.head? = none)) ∧
    ∀ der, chain.bind List.head? = some der → ServerName.parse? host = none →
      (verifyPeer chain host).run s = ⟨.error .invalidDnsName, s, []⟩ := by
  -- if the host is the name of a server, there is no exception
  have hregular : ∀ {server : ServerName} {r : Run σ Error Unit},
      ServerName.parse? host = some server → r.Forewarns →
      (r.Forewarns ↔ (ServerName.parse? host = none → chain.bind List.head? = none)) ∧
        ∀ der, chain.bind List.head? = some der → ServerName.parse? host = none →
          r = ⟨.error .invalidDnsName, s, []⟩ := by
    intro server r hnamed hforewarns
    simp [hnamed, hforewarns]
  obtain ⟨result, trace, hverify, hrun⟩ := verifyPeer_run chain host
  rw [hrun s]
  cases hverify with
  | noCertificate habsent =>
    refine ⟨iff_of_true (.of_error rfl rfl) fun _ => habsent, ?_⟩
    intro der hder
    rw [habsent] at hder
    cases hder
  | @unnamed der hheads hnameless =>
    constructor
    · refine iff_of_false (Run.Forewarns.not_silent_failure _ s) ?_
      intro h
      rw [h hnameless] at hheads
      cases hheads
    · intro _ _ _
      rfl
  | strict _ hnamed _ _ => exact hregular hnamed (.of_ok rfl rfl)
  | suffix _ hnamed _ _ => exact hregular hnamed (.of_ok rfl rfl)
  | mismatch _ hnamed _ _ => exact hregular hnamed (.of_error rfl rfl)

/-- A host with a blank in it is refused, but the listener is told nothing. -/
theorem verifyPeer_silent_blank :
    (∃ e, ((verifyPeer (some [starDer]) "imap example.org").run ()).result = .error e) ∧
      Event.statesOf ((verifyPeer (some [starDer]) "imap example.org").run ()).trace = [] := by
  have hrun : (verifyPeer (some [starDer]) "imap example.org").run ()
      = ⟨.error .invalidDnsName, (), []⟩ := rfl
  rw [hrun]
  exact ⟨⟨_, rfl⟩, rfl⟩

theorem verifyPeer_forewarns_iff_blank :
    (some [starDer]).bind List.head? = some starDer ∧ ServerName.parse? "imap example.org" = none ∧
      ¬ ((verifyPeer (some [starDer]) "imap example.org").run ()).Forewarns ∧
      ((verifyPeer none "imap example.org").run ()).Forewarns := by
  have hnameless : ServerName.parse? "imap example.org" = none := by decide +kernel
  refine ⟨rfl, hnameless, ?_, (verifyPeer_forewarns_iff none _ ()).1.mpr fun _ => rfl⟩
  rw [(verifyPeer_forewarns_iff (some [starDer]) _ ()).2 starDer rfl hnameless]
  exact Run.Forewarns.not_silent_failure _ ()

end Mailwire
