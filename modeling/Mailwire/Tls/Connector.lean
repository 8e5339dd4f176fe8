import Mailwire.Certificate.Anchor
import Mailwire.Config.Basic
import Mailwire.Error

/-!
# TLS connectors

A connector says which chains of certificates a handshake accepts: any at all, or those that lead
to a trust anchor. The public anchors are always among them and are not listed; the listed ones
come from the configuration.
-/

namespace Mailwire

/-- Which chains a handshake accepts. -/
structure TlsConnector where
  /-- The anchors of the configuration; `none` accepts any chain. -/
  anchors : Option (List TrustAnchor)
deriving DecidableEq, Repr

namespace TlsConnector

/-- Reads all anchors, up to the first that cannot be read. -/
def readAnchors : List Octets → Except Error (List TrustAnchor)
  | [] => .ok []
  | der :: rest =>
    match TrustAnchor.parse der with
    | .error problem => .error (.tls (.invalidCertificate problem))
    | .ok anchor => (readAnchors rest).map (anchor :: ·)

/-- The connector for a configuration. Anchors are not even read where any chain is accepted. -/
def ofConfig (config : Config) : Except Error TlsConnector :=
  if config.trustsAll then .ok ⟨none⟩
  else (readAnchors config.extraRoots).map fun anchors => ⟨some anchors⟩

end TlsConnector

end Mailwire
