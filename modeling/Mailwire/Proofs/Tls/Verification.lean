import Mailwire.Proofs.Certificate.Coverage
import Mailwire.Proofs.Task
import Mailwire.Tls.Verification

/-!
# Which hosts are accepted

A host is accepted if and only if one of the names that the certificate presents before the first
malformed one covers it. The certificate is the head of the chain, whatever stands behind it.

A verification may go in five ways, and each has its own events (`Verifying`). The state makes no
difference to it (`verifyPeer_run`).
-/

namespace Mailwire

open DnsName

namespace Certificate

lemma checkName_eq_ok {c : Certificate} {server : ServerName} :
    c.checkName server = .ok () ↔ ∃ name, c.Presents name ∧ name.names server := by
  have hany : c.altNames.1.any (AltName.names server) ↔
      ∃ name, c.Presents name ∧ name.names server := by
    simp [List.any_eq_true, mem_altNames]
  rw [← hany, checkName]
  rcases c.altNames with ⟨names, malformed⟩
  by_cases hnames : names.any (AltName.names server)
  · simp [hnames]
  · cases malformed with
    | true => simp [hnames]
    | false => simp [hnames]

lemma suffixCovers_iff {c : Certificate} {host : String} :
    c.suffixCovers host ↔ IpAddress.parse? host = none ∧ ∃ name, c.Presents name ∧
      name.isAbove (Octets.toLower (withoutFinalDots (Octets.ofString host))) := by
  simp [suffixCovers, List.any_eq_true, mem_altNames]

/-- One of the two rules accepts a server if and only if a presented name covers it. -/
theorem checkName_or_suffixCovers {c : Certificate} {host : String} {server : ServerName}
    (hserver : ServerName.parse? host = some server) :
    (c.checkName server = .ok () ∨ c.suffixCovers host) ↔
      ∃ name, c.Presents name ∧ name.Covers server := by
  rw [checkName_eq_ok, suffixCovers_iff]
  rw [ServerName.parse?] at hserver
  split_ifs at hserver with hreference
  · obtain rfl : .dns host = server := by simpa using hserver
    simp only [AltName.covers_dns_iff hreference, ServerName.parse?_literal hreference, true_and,
      and_or_left, exists_or]
  · obtain ⟨address, haddress, rfl⟩ := Option.map_eq_some_iff.mp hserver
    simp only [haddress, AltName.covers_ip_iff, reduceCtorEq, false_and, or_false]

end Certificate

/-! ### The course of a verification -/

/-- How the verification of a host may go: what it ends with, and what is seen of it. -/
inductive Verifying (chain : Option (List Octets)) (host : String) :
    Except Error Unit → List Event → Prop
  | noCertificate (absent : chain.bind List.head? = none) :
      Verifying chain host (.error (.ssl "cannot verify SSL socket without session"))
        [.log (.noPeerCertificate host), .notified .communicationError]
  | unnamed {der : Octets} (heads : chain.bind List.head? = some der)
      (nameless : ServerName.parse? host = none) :
      Verifying chain host (.error .invalidDnsName) []
  | strict {der : Octets} {server : ServerName} {c : Certificate}
      (heads : chain.bind List.head? = some der) (named : ServerName.parse? host = some server)
      (parsed : Certificate.parse der = .ok c) (covers : c.checkName server = .ok ()) :
      Verifying chain host (.ok ()) []
  | suffix {der : Octets} {server : ServerName} {c : Certificate}
      (heads : chain.bind List.head? = some der) (named : ServerName.parse? host = some server)
      (parsed : Certificate.parse der = .ok c) (covers : c.suffixCovers host = true) :
      Verifying chain host (.ok ()) [.log (.matchedBySuffix host)]
  | mismatch {der : Octets} {server : ServerName} {problem : CertificateProblem}
      (heads : chain.bind List.head? = some der) (named : ServerName.parse? host = some server)
      (strict : (Certificate.parse der).bind (·.checkName server) = .error problem)
      (suffix : ∀ c, Certificate.parse der = .ok c → c.suffixCovers host = false) :
      Verifying chain host
        (.error (.peerUnverified host (TlsError.invalidCertificate problem).message))
        [.log (.nameMismatch host (TlsError.invalidCertificate problem).message),
          .notified .communicationError]

/-- Verification does not look at the state. -/
theorem verifyPeer_run (chain : Option (List Octets)) (host : String) :
    ∃ result trace, Verifying chain host result trace ∧
      ∀ {σ : Type} (s : σ), (verifyPeer chain host).run s = ⟨result, s, trace⟩ := by
  simp only [verifyPeer]
  cases hheads : chain.bind List.head? with
  | none => exact ⟨_, _, .noCertificate hheads, fun _ => rfl⟩
  | some der =>
    cases hnamed : ServerName.parse? host with
    | none => exact ⟨_, _, .unnamed hheads hnamed, fun _ => rfl⟩
    | some server =>
      dsimp only
      cases hparsed : Certificate.parse der with
      | error problem =>
        have hproblem : (Certificate.parse der).bind (·.checkName server) = .error problem := by
          rw [hparsed]
          rfl
        have hnone : ∀ c, Certificate.parse der = .ok c → c.suffixCovers host = false := by
          intro c hc
          simp [hparsed] at hc
        exact ⟨_, _, .mismatch hheads hnamed hproblem hnone, fun _ => rfl⟩
      | ok c =>
        dsimp only [Except.bind]
        cases hstrict : c.checkName server with
        | ok _ => exact ⟨_, _, .strict hheads hnamed hparsed hstrict, fun _ => rfl⟩
        | error problem =>
          by_cases hsuffix : c.suffixCovers host = true
          · simp only [hsuffix]
            exact ⟨_, _, .suffix hheads hnamed hparsed hsuffix, fun _ => rfl⟩
          · simp only [hsuffix]
            have hproblem : (Certificate.parse der).bind (·.checkName server) = .error problem := by
              rw [hparsed]
              exact hstrict
            have hnone : ∀ c, Certificate.parse der = .ok c → c.suffixCovers host = false := by
              intro c' hc
              cases hparsed.symm.trans hc
              simpa using hsuffix
            exact ⟨_, _, .mismatch hheads hnamed hproblem hnone, fun _ => rfl⟩

/-! ### Accepted hosts -/

variable {σ : Type}

/-- Where the certificate can be read and the host is the name of a server, the two rules decide. -/
lemma run_verifyPeer {der : Octets} {rest : List Octets} {host : String} {c : Certificate}
    {server : ServerName} (hder : Certificate.parse der = .ok c)
    (hserver : ServerName.parse? host = some server) (s : σ) :
    ((verifyPeer (some (der :: rest)) host).run s).result = .ok () ↔
      c.checkName server = .ok () ∨ c.suffixCovers host := by
  simp only [verifyPeer, Option.bind_some, List.head?_cons, hserver, hder, Except.bind]
  cases hstrict : c.checkName server with
  | ok _ => simp
  | error problem =>
    by_cases hsuffix : c.suffixCovers host
    · simp [hsuffix]
    · simp [hsuffix, Task.run_bind]

lemma run_verifyPeer_none {host : String} (h : ServerName.parse? host = none)
    (chain : Option (List Octets)) (s : σ) :
    ((verifyPeer chain host).run s).result ≠ .ok () := by
  rw [verifyPeer]
  split
  · simp [Task.run_bind]
  · simp [h]

/-- A host that is the name of a server is accepted if and only if the certificate presents a name
that covers it, and no other host is accepted. A wildcard covers the hosts that have labels and a
dot in front of its suffix, and no DNS name covers an address. -/
theorem verifyPeer_ok_iff (der : Octets) (rest : List Octets) (host : String) (s : σ) :
    (∀ c server, Certificate.parse der = .ok c → ServerName.parse? host = some server →
      (((verifyPeer (some (der :: rest)) host).run s).result = .ok () ↔
        ∃ name, c.Presents name ∧ name.Covers server)) ∧
    (ServerName.parse? host = none →
      ∀ chain, ((verifyPeer chain host).run s).result ≠ .ok ()) ∧
    (∀ suffix front, isWildcard (star :: dot :: suffix) →
      canonical host = front ++ Octets.toLower (withoutFinalDot suffix) →
      ((AltName.dns (star :: dot :: suffix)).Covers (.dns host) ↔
        ∃ row, row ≠ [] ∧ front = row ++ [dot])) ∧
    ∀ name address, ¬ (AltName.dns name).Covers (.ip address) := by
  refine ⟨?_, ?_, ?_, ?_⟩
  · intro c server hder hserver
    rw [run_verifyPeer hder hserver, Certificate.checkName_or_suffixCovers hserver]
  · intro hnone chain
    exact run_verifyPeer_none hnone chain s
  · intro suffix front hwildcard heq
    rw [AltName.covers_wildcard_iff]
    constructor
    · rintro ⟨-, row, hne, hsplit⟩
      have hcancel : row ++ [dot] ++ Octets.toLower (withoutFinalDot suffix)
          = front ++ Octets.toLower (withoutFinalDot suffix) := by
        rw [← heq, hsplit, List.append_assoc]
        rfl
      exact ⟨row, hne, (List.append_cancel_right hcancel).symm⟩
    · rintro ⟨row, hne, rfl⟩
      exact ⟨hwildcard, row, hne, by simpa using heq⟩
  · rintro name address ⟨⟩

def starName : Octets := star :: dot :: Octets.ofString "example.org"

/-- A certificate that presents one name. All that does not matter for names is empty. -/
def starDer : Octets :=
  let empty := Der.writeElement Der.Tag.sequence []
  let names := Der.writeElement Der.Tag.sequence (Der.writeElement 0x82 starName)
  let extension := Der.writeElement Der.Tag.sequence
    (Der.writeElement Der.Tag.objectId [0x55, 0x1d, Certificate.subjectAltName] ++
      Der.writeElement Der.Tag.octetString names)
  let body := Der.writeElement (Der.Tag.context 0) (Der.writeElement Der.Tag.integer [2]) ++
    Der.writeElement Der.Tag.integer [1] ++ empty ++ empty ++ empty ++ empty ++ empty ++
    Der.writeElement (Der.Tag.context 3) (Der.writeElement Der.Tag.sequence extension)
  Der.writeElement Der.Tag.sequence
    (Der.writeElement Der.Tag.sequence body ++ empty ++ Der.writeElement Der.Tag.bitString [0])

theorem verifyPeer_ok_iff_star :
    ServerName.parse? "imap.mail.Example.org." = some (.dns "imap.mail.Example.org.") ∧
      ((verifyPeer (some [starDer]) "imap.mail.Example.org.").run ()).result = .ok () := by
  have hder : Certificate.parse starDer
      = .ok ⟨[], [], [(Certificate.subjectAltName, Der.writeElement 0x82 starName)]⟩ := by
    decide +kernel
  have hserver : ServerName.parse? "imap.mail.Example.org."
      = some (.dns "imap.mail.Example.org.") := by decide +kernel
  have hpresents : Certificate.Presents
      ⟨[], [], [(Certificate.subjectAltName, Der.writeElement 0x82 starName)]⟩ (.dns starName) :=
    Certificate.mem_altNames.mp (by decide +kernel)
  have hcovers : (AltName.dns starName).Covers (.dns "imap.mail.Example.org.") :=
    AltName.covers_wildcard_iff.mpr
      ⟨by decide +kernel, Octets.ofString "imap.mail", by decide +kernel, by decide +kernel⟩
  obtain ⟨haccepts, -⟩ := verifyPeer_ok_iff starDer [] "imap.mail.Example.org." ()
  exact ⟨hserver, (haccepts _ _ hder hserver).mpr ⟨_, hpresents, hcovers⟩⟩

end Mailwire
