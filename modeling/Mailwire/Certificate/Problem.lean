import Mailwire.Certificate.AltName
import Mailwire.ServerName

/-!
# What is wrong with a certificate

The reasons for which a certificate or the chain it heads is refused, and their texts.
-/

namespace Mailwire

/-- Reasons that have no wording of their own. -/
inductive RareProblem
  | unsupportedVersion
  | signatureAlgorithmMismatch
  | extensionValueInvalid
  | unsupportedCriticalExtension
  | authorityAsEndEntity
deriving DecidableEq, Repr

/-- A reason to refuse a certificate. -/
inductive CertificateProblem
  /-- The octets are no certificate. -/
  | badEncoding
  /-- No chain leads to a trust anchor. -/
  | unknownIssuer
  /-- A signature does not belong to the key it is said to be made with. -/
  | badSignature
  /-- The validity period has ended, in seconds since 1970. -/
  | expired (notAfter : Nat)
  /-- The validity period has not begun, in seconds since 1970. -/
  | notYetValid (notBefore : Nat)
  /-- The key may not be used by a server. -/
  | forClientsOnly
  /-- None of the presented names covers the server. -/
  | nameMismatch (server : ServerName) (presented : List AltName)
  | rare (problem : RareProblem)
deriving DecidableEq, Repr

namespace RareProblem

/-- The word that messages have for the reason. -/
def text : RareProblem → String
  | .unsupportedVersion => "UnsupportedCertVersion"
  | .signatureAlgorithmMismatch => "SignatureAlgorithmMismatch"
  | .extensionValueInvalid => "ExtensionValueInvalid"
  | .unsupportedCriticalExtension => "UnsupportedCriticalExtension"
  | .authorityAsEndEntity => "CaUsedAsEndEntity"

end RareProblem

namespace CertificateProblem

/-- Alternatives in a row, with commas and a last "or". -/
def alternatives : List String → String
  | [] => ""
  | [a] => a
  | [a, b] => a ++ " or " ++ b
  | a :: rest => a ++ ", " ++ alternatives rest

/-- Which names a certificate is good for. -/
def presentedText (presented : List AltName) : String :=
  if presented.isEmpty then
    "not valid for any names (according to its subjectAltName extension)"
  else "only valid for " ++ alternatives (presented.map AltName.text)

/-- The text of a reason. Readings of the clock are shown as the letter N. -/
def text : CertificateProblem → String
  | .badEncoding => "BadEncoding"
  | .unknownIssuer => "UnknownIssuer"
  | .badSignature => "BadSignature"
  | .expired notAfter =>
    "certificate expired: verification time N (UNIX), but certificate is not valid after "
      ++ toString notAfter ++ " (N seconds ago)"
  | .notYetValid notBefore =>
    "certificate not valid yet: verification time N (UNIX), but certificate is not valid before "
      ++ toString notBefore ++ " (N seconds in future)"
  | .forClientsOnly =>
    "certificate does not allow extended key usage for server authentication, "
      ++ "allows client authentication"
  | .nameMismatch server presented =>
    "certificate not valid for name \"" ++ server.text ++ "\"; certificate is "
      ++ presentedText presented
  | .rare problem => "Other(OtherError(" ++ problem.text ++ "))"

end CertificateProblem

end Mailwire
