import Mailwire.Certificate.Basic

/-!
# Which servers a certificate covers

Two rules decide. The strict rule compares the server with each presented name: addresses octet
for octet, DNS names without regard to ASCII case, a star standing for exactly one label. The
suffix rule lets a star stand for any row of labels.
-/

namespace Mailwire

namespace DnsName

/-- Whether a presented name names the server: equal to it but for case and the final dot, or a
star for its first label. -/
def presentedMatches (presented server : Octets) : Bool :=
  isPresented presented &&
    let wanted := Octets.toLower (withoutFinalDot server)
    match wildcardSuffix? presented with
    | some suffix =>
      let behind := wanted.dropWhile (· != dot)
      wanted.head? != some dot && !wanted.isEmpty && behind == dot :: Octets.toLower suffix
    | none => wanted == Octets.toLower presented

/-- The suffix that a presented wildcard name stands for, in lower case and without final dot. -/
def coveredSuffix? (presented : Octets) : Option Octets :=
  if isWildcard presented then
    (wildcardSuffix? presented).map fun suffix => Octets.toLower (withoutFinalDot suffix)
  else none

/-- Whether a server lies below a suffix, at any depth, and is not the suffix itself. -/
def isBelow (suffix server : Octets) : Bool :=
  (dot :: suffix).isSuffixOf server && suffix.length + 1 < server.length

/-- A name without any dots at its end. -/
def withoutFinalDots (name : Octets) : Octets :=
  (name.reverse.dropWhile (· == dot)).reverse

end DnsName

namespace AltName

/-- Whether a presented name names the server by the strict rule. -/
def names (server : ServerName) : AltName → Bool
  | .dns presented =>
    match server with
    | .dns name => DnsName.presentedMatches presented (Octets.ofString name)
    | .ip _ => false
  | .ip octets =>
    match server with
    | .dns _ => false
    | .ip address => octets == address.octets
  | _ => false

/-- Whether a presented name is a wildcard above the host. -/
def isAbove (host : Octets) : AltName → Bool
  | .dns presented =>
    match DnsName.coveredSuffix? presented with
    | some suffix => DnsName.isBelow suffix host
    | none => false
  | _ => false

end AltName

namespace Certificate

/-- The strict rule. A name is looked at only when no name before it fits, so a malformed one
does no harm behind a fitting one. -/
def checkName (c : Certificate) (server : ServerName) : Except CertificateProblem Unit :=
  let (names, malformed) := c.altNames
  if names.any (AltName.names server) then .ok ()
  else if malformed then .error .badEncoding
  else .error (.nameMismatch server names)

/-- The suffix rule. It holds for hosts that are no addresses, at any depth below the suffix. -/
def suffixCovers (c : Certificate) (host : String) : Bool :=
  (IpAddress.parse? host).isNone &&
    c.altNames.1.any
      (AltName.isAbove (Octets.toLower (DnsName.withoutFinalDots (Octets.ofString host))))

end Certificate

end Mailwire
