import Mailwire.Certificate.Basic

/-!
# Trust anchors

The authorities at which a chain of certificates may end. An anchor is given as a certificate;
one of the first version, which has neither version number nor extensions, will do.
-/

namespace Mailwire

/-- An authority that is trusted: its name and its key. -/
structure TrustAnchor where
  subject : Octets
  publicKey : Octets
deriving DecidableEq, Repr

namespace TrustAnchor

/-- Reads the body of a certificate of the first version. -/
def readBody (body : Octets) : Option TrustAnchor := do
  let (_, rest) ← Der.expect Der.Tag.integer body
  let (_, rest) ← Der.expect Der.Tag.sequence rest
  let (_, rest) ← Der.expect Der.Tag.sequence rest
  let (_, rest) ← Der.expect Der.Tag.sequence rest
  let (subject, rest) ← Der.expect Der.Tag.sequence rest
  let (publicKey, rest) ← Der.expect Der.Tag.sequence rest
  guard rest.isEmpty
  return ⟨subject, publicKey⟩

/-- Reads a certificate of the first version. -/
def readFirstVersion (der : Octets) : Option TrustAnchor := do
  let (content, behind) ← Der.expect Der.Tag.sequence der
  let (body, rest) ← Der.expect Der.Tag.sequence content
  let anchor ← readBody body
  let (_, rest) ← Der.expect Der.Tag.sequence rest
  let (_, rest) ← Der.expect Der.Tag.bitString rest
  guard (rest.isEmpty && behind.isEmpty)
  return anchor

/-- Reads a trust anchor. Unknown critical extensions do no harm here. -/
def parse (der : Octets) : Except CertificateProblem TrustAnchor :=
  match Certificate.read .ignore der with
  | .ok c => .ok ⟨c.subject, c.publicKey⟩
  | .error (.rare .unsupportedVersion) => Certificate.wellFormed (readFirstVersion der)
  | .error problem => .error problem

end TrustAnchor

end Mailwire
