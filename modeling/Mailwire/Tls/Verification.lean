import Mailwire.Certificate.Matching
import Mailwire.Error
import Mailwire.Task

/-!
# Verification of the host

After a handshake the certificate of the server is compared with the host that was asked for. The
chain it heads is a matter of the handshake and is not looked at here.
-/

namespace Mailwire

/-- Verifies the certificate that heads a chain for a host. The strict rule is tried first; where
it fails for whatever reason, the suffix rule may still cover the host. -/
def verifyPeer (chain : Option (List Octets)) (host : String) {σ : Type} : Task σ Error Unit :=
  match chain.bind List.head? with
  | none => do
    Task.log (.noPeerCertificate host)
    Task.notify .communicationError
    Task.fail (.ssl "cannot verify SSL socket without session")
  | some endEntity =>
    match ServerName.parse? host with
    | none => Task.fail .invalidDnsName
    | some server =>
      match (Certificate.parse endEntity).bind (·.checkName server) with
      | .ok () => pure ()
      | .error problem =>
        let covered :=
          match Certificate.parse endEntity with
          | .ok certificate => certificate.suffixCovers host
          | .error _ => false
        if covered then Task.log (.matchedBySuffix host)
        else do
          let principal := (TlsError.invalidCertificate problem).message
          Task.log (.nameMismatch host principal)
          Task.notify .communicationError
          Task.fail (.peerUnverified host principal)

end Mailwire
