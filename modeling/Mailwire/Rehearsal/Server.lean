import Mailwire.Link

/-!
# Servers to rehearse with

Made-up servers: some that do not speak TLS and some that do, with certificates of two authorities.
Names stand for keys, and a certificate counts as signed by whoever it names as its issuer.
-/

namespace Mailwire.Rehearsal

/-! ### Certificates -/

/-- An alternative name as it stands in a certificate. -/
def writeAltName : AltName → Octets
  | .dns name => Der.writeElement 0x82 name
  | .uri address => Der.writeElement 0x86 address
  | .ip octets => Der.writeElement 0x87 octets
  | .directory => Der.writeElement 0xa4 []
  | .unsupported number => Der.writeElement (0x80 ||| number) []

/-- The extension that holds alternative names. -/
def writeAltNames (names : List AltName) : Octets :=
  Der.writeElement Der.Tag.sequence
    (Der.writeElement Der.Tag.objectId [0x55, 0x1d, Certificate.subjectAltName]
      ++ Der.writeElement Der.Tag.octetString
        (Der.writeElement Der.Tag.sequence (names.flatMap writeAltName)))

def keyOf (subject : String) : Octets := Octets.ofString (subject ++ " key")

def writeBody (issuer subject : String) (names : List AltName) : Octets :=
  Der.writeElement (Der.Tag.context 0) (Der.writeElement Der.Tag.integer [2])
    ++ Der.writeElement Der.Tag.integer [1]
    ++ Der.writeElement Der.Tag.sequence []
    ++ Der.writeElement Der.Tag.sequence (Octets.ofString issuer)
    ++ Der.writeElement Der.Tag.sequence []
    ++ Der.writeElement Der.Tag.sequence (Octets.ofString subject)
    ++ Der.writeElement Der.Tag.sequence (keyOf subject)
    ++ Der.writeElement (Der.Tag.context 3)
      (Der.writeElement Der.Tag.sequence (writeAltNames names))

/-- A certificate that an issuer gives to a subject. -/
def certificate (issuer subject : String) (names : List AltName) : Octets :=
  Der.writeElement Der.Tag.sequence
    (Der.writeElement Der.Tag.sequence (writeBody issuer subject names)
      ++ Der.writeElement Der.Tag.sequence []
      ++ Der.writeElement Der.Tag.bitString [0])

def anchor (subject : String) : TrustAnchor := ⟨Octets.ofString subject, keyOf subject⟩

/-- An authority whose anchor a client may list. -/
inductive Authority
  | good
  | unknown
deriving DecidableEq, Repr

def Authority.name : Authority → String
  | .good => "good"
  | .unknown => "unknown"

/-- The certificate that an authority gives to itself. -/
def Authority.certificate (a : Authority) : Octets := Rehearsal.certificate a.name a.name []

/-- What the certificate of a server is called. -/
def leafName : String := "leaf"

/-! ### Identities -/

/-- How a server came by its certificate. -/
inductive Identity
  | issuedBy (authority : Authority)
  /-- By way of another certificate, which is sent along or not. -/
  | intermediate (sent : Bool)
  | selfSigned
  /-- The certificate is that of an authority. -/
  | authorityCertificate
  | expired
  | notYetValid
  /-- The certificate is good for clients only. -/
  | forClients
  /-- The server does not hold the key of its certificate. -/
  | stolen
deriving DecidableEq, Repr

namespace Identity

/-- The beginning of the year 2001, in seconds since 1970. -/
def past : Nat := 978307200

/-- The beginning of the year 4000, in seconds since 1970. -/
def future : Nat := 64060588800

def leaf (names : List AltName) : Identity → Octets
  | .issuedBy authority => certificate authority.name leafName names
  | .intermediate _ => certificate "intermediate" leafName names
  | .selfSigned => certificate leafName leafName names
  | _ => certificate Authority.good.name leafName names

def chain (names : List AltName) (i : Identity) : List Octets :=
  match i with
  | .intermediate true => [i.leaf names, certificate Authority.good.name "intermediate" []]
  | _ => [i.leaf names]

def verdict : Identity → ChainVerdict
  | .issuedBy authority => .anchor (anchor authority.name)
  | .intermediate true | .stolen => .anchor (anchor Authority.good.name)
  | .intermediate false => .refused .unknownIssuer
  | .selfSigned => .anchor (anchor leafName)
  | .authorityCertificate => .refused (.rare .authorityAsEndEntity)
  | .expired => .refused (.expired past)
  | .notYetValid => .refused (.notYetValid future)
  | .forClients => .refused .forClientsOnly

/-- How a server of this identity answers a handshake. -/
def handshake (names : List AltName) (i : Identity) : Handshake :=
  .presents (i.chain names) i.verdict (i != .stolen)

end Identity

/-! ### Servers -/

/-- A wire whose far end stays silent until it is told what to do. -/
def liveWire : Wire := { Wire.idle with afterDeliveries := .silence }

/-- What a handshake fails with over which the far end closes the connection. -/
def handshakeCut : IoError := .described .unexpectedEof "tls handshake eof"

/-- What a handshake fails with that is answered with an alert, with an empty record or with
something that is no record at all. -/
def handshakeGarbled (data : Octets) : IoError :=
  .described .invalidData
    (if data = [0x15, 0x03, 0x03, 0x00, 0x02, 0x02, 0x28] then
      "received fatal alert: HandshakeFailure"
    else if data.head? = some 0x16 then "received corrupt message of type InvalidEmptyPayload"
    else "received corrupt message of type InvalidContentType")

/-- A server that closes every connection at once. -/
def hangup : Server := ⟨{ liveWire with afterDeliveries := .eof }, .broken handshakeCut⟩

def plainServer : Server := ⟨liveWire, .broken handshakeCut⟩

/-- A server that answers a handshake with given octets. -/
def garbler (data : Octets) : Server := ⟨liveWire, .broken (handshakeGarbled data)⟩

/-- A server of an identity whose certificate holds given names. -/
def tlsServer (i : Identity) (names : List AltName) : Server := ⟨liveWire, i.handshake names⟩

end Mailwire.Rehearsal
