import Mailwire.Tls.Connector

/-!
# Handshakes

How a server answers the opening of a TLS session, and what becomes of it under a connector. A server
has to present a certificate. The chain of certificates is judged next, and only then the signature
that shows that the server holds the key; the signature is looked at even where any chain is accepted.
-/

namespace Mailwire

/-- Where a chain of certificates leads. -/
inductive ChainVerdict
  /-- To one of the public anchors. -/
  | publicAnchor
  /-- To an anchor that is trusted only if it is listed. -/
  | anchor (anchor : TrustAnchor)
  /-- Nowhere, whatever the anchors are. -/
  | refused (problem : CertificateProblem)
deriving DecidableEq, Repr

/-- How a server answers the opening of a session. -/
inductive Handshake
  /-- With something else than the protocol asks for. -/
  | broken (e : IoError)
  /-- With a chain of certificates and a signature. -/
  | presents (chain : List Octets) (verdict : ChainVerdict) (signed : Bool)
deriving DecidableEq, Repr

/-- A session that was negotiated. -/
structure Session where
  /-- The certificates of the server, its own first. -/
  chain : List Octets
deriving DecidableEq, Repr

namespace TlsConnector

/-- What a connector objects to in a chain. -/
def objection? (c : TlsConnector) : ChainVerdict → Option CertificateProblem
  | .publicAnchor => none
  | .anchor anchor =>
    match c.anchors with
    | none => none
    | some anchors => if anchor ∈ anchors then none else some .unknownIssuer
  | .refused problem => if c.anchors.isNone then none else some problem

end TlsConnector

namespace Handshake

def perform (c : TlsConnector) : Handshake → Except IoError Session
  | .broken e => .error e
  | .presents [] _ _ => .error TlsError.noCertificatesPresented.toIo
  | .presents (leaf :: more) verdict signed =>
    match c.objection? verdict with
    | some problem => .error (TlsError.invalidCertificate problem).toIo
    | none =>
      if signed then .ok ⟨leaf :: more⟩
      else .error (TlsError.invalidCertificate .badSignature).toIo

end Handshake

end Mailwire
