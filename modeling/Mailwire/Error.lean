import Mailwire.Certificate.Problem
import Mailwire.IoError

/-!
# Errors of a transport

Why a transport could not be opened or used. An error is a cause; its text is made in one place,
and its class is what a caller maps onto the state of an account.
-/

namespace Mailwire

/-- An error of the TLS protocol. -/
inductive TlsError
  | general (text : String)
  | decryptError
  | encryptError
  | handshakeNotComplete
  | noCertificatesPresented
  | noApplicationProtocol
  | invalidCertificate (problem : CertificateProblem)
deriving DecidableEq, Repr

namespace TlsError

def message : TlsError → String
  | .general text => "unexpected error: " ++ text
  | .decryptError => "cannot decrypt peer's message"
  | .encryptError => "cannot encrypt message"
  | .handshakeNotComplete => "handshake not complete"
  | .noCertificatesPresented => "peer sent no certificates"
  | .noApplicationProtocol => "peer doesn't support any known protocol"
  | .invalidCertificate problem => "invalid peer certificate: " ++ problem.text

def toIo (e : TlsError) : IoError := .described .invalidData e.message

end TlsError

/-- The class of an error. -/
inductive ErrorClass
  /-- The network or a socket has failed. -/
  | io
  /-- The TLS session has failed. -/
  | ssl
  /-- The certificate does not belong to the server. -/
  | peerUnverified
deriving DecidableEq, Repr

/-- An error of a transport. -/
inductive Error
  | io (cause : IoError)
  /-- The designated network has failed to resolve the host. -/
  | resolve (host : String) (cause : IoError)
  /-- The designated network knows no address of the host. -/
  | unresolved (host : String)
  | socketCreation (cause : IoError)
  /-- Every candidate has failed, the last one for this cause. -/
  | connect (address : String) (attempts : Nat) (cause : IoError)
  /-- The operation needs an open transport. -/
  | notConnected
  | tls (cause : TlsError)
  | invalidDnsName
  /-- The session cannot be used for verification. -/
  | ssl (text : String)
  /-- The certificate does not cover the host. -/
  | peerUnverified (host principal : String)
deriving DecidableEq, Repr

namespace Error

def invalidDnsNameText : String := "invalid dns name"

def message : Error → String
  | .io cause => "I/O error: " ++ cause.message
  | .resolve host cause => "cannot resolve " ++ host ++ ": " ++ cause.message
  | .unresolved host => "host name " ++ host ++ " cannot be resolved on designated network"
  | .socketCreation cause => "cannot create socket: " ++ cause.message
  | .connect address attempts cause =>
    "cannot connect to " ++ address ++ " (" ++ toString attempts ++ " address(es) tried): "
      ++ cause.message
  | .notConnected => "transport is not open"
  | .tls cause => "TLS error: " ++ cause.message
  | .invalidDnsName => "Invalid DNS name: " ++ invalidDnsNameText
  | .ssl text => "SSL error: " ++ text
  | .peerUnverified host principal =>
    "certificate hostname not usable for server " ++ host ++ ": " ++ principal

def errorClass : Error → ErrorClass
  | .io _ | .resolve .. | .unresolved _ | .socketCreation _ | .connect .. | .notConnected => .io
  | .tls _ | .invalidDnsName | .ssl _ => .ssl
  | .peerUnverified .. => .peerUnverified

/-- The input or output error behind an error. -/
def ioCause? : Error → Option IoError
  | .io cause | .resolve _ cause | .socketCreation cause | .connect _ _ cause => some cause
  | _ => none

def sourceText? : Error → Option String
  | .tls cause => some cause.message
  | .invalidDnsName => some invalidDnsNameText
  | e => e.ioCause?.map IoError.message

end Error

end Mailwire
