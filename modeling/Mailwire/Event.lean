import Mailwire.Address
import Mailwire.Duration
import Mailwire.IoError

/-!
# What can be observed

Everything a transport lets others see while it works: the lines of its log, the notifications to
a listener, and the questions it puts to the network it was given.
-/

namespace Mailwire

/-- What a listener is told about the channel to the server. -/
inductive ChannelState
  /-- The server could not be resolved or reached. -/
  | serverConnectionError
  /-- The TLS session could not be verified. -/
  | communicationError
deriving DecidableEq, Repr

def ChannelState.text : ChannelState → String
  | .serverConnectionError => "server connection error"
  | .communicationError => "communication error"

/-- The weight of a line of the log. -/
inductive Level
  | trace
  | debug
  | warn
deriving DecidableEq, Repr

/-- The word that a line of the log begins with. -/
def Level.text : Level → String
  | .trace => "TRACE"
  | .debug => "DEBUG"
  | .warn => "WARN"

/-- One line of the log. -/
inductive LogEvent
  /-- A line is about to be written; the text may stand in for it. -/
  | sending (text : String)
  /-- A line was read. -/
  | received (text : String)
  /-- The stream ended inside a line or before one. -/
  | endOfStream
  | opening (host : String) (port : UInt16)
  | resolutionFailed (host error : String)
  | noAddresses (host : String)
  | socketOnDesignatedNetwork
  | socketOnDefaultNetwork
  | socketCreationFailed (error : String)
  | attemptFailed (candidate error : String)
  | noMoreAddresses (attempts : Nat)
  | convertingToTls
  | skippingHostVerification
  | noPeerCertificate (host : String)
  | matchedBySuffix (host : String)
  | nameMismatch (host error : String)
  | closeWithoutConnection
  | closingFailed (error : String)
  | closingTimedOut (limit : Duration)
  | closed
deriving DecidableEq, Repr

namespace LogEvent

def level : LogEvent → Level
  | .socketOnDesignatedNetwork | .socketOnDefaultNetwork | .skippingHostVerification
  | .matchedBySuffix _ | .closingFailed _ | .closingTimedOut _ => .trace
  | .noMoreAddresses _ | .noPeerCertificate _ | .nameMismatch .. => .warn
  | _ => .debug

def message : LogEvent → String
  | .sending text => ">>> " ++ text
  | .received text => "<<< " ++ text
  | .endOfStream => "End of stream reached while trying to read line."
  | .opening host port => "*** IMAP open " ++ host ++ ":" ++ toString port.toNat
  | .resolutionFailed .. => "resolution failed"
  | .noAddresses _ => "no addresses on designated network"
  | .socketOnDesignatedNetwork => "creating socket on designated network"
  | .socketOnDefaultNetwork => "creating socket on default network"
  | .socketCreationFailed _ => "socket creation failed"
  | .attemptFailed .. => "connection attempt failed"
  | .noMoreAddresses _ => "no more addresses to try"
  | .convertingToTls => "open: converting to TLS"
  | .skippingHostVerification => "skipping hostname verification"
  | .noPeerCertificate _ => "TLS session carries no peer certificate"
  | .matchedBySuffix _ => "hostname matched by wildcard suffix"
  | .nameMismatch .. => "certificate hostname mismatch"
  | .closeWithoutConnection => "close on a transport that is not open"
  | .closingFailed _ => "ignoring error while closing"
  | .closingTimedOut _ => "shutdown timed out, dropping socket"
  | .closed => "connection closed"

def fields : LogEvent → List (String × String)
  | .resolutionFailed host error => [("host", host), ("error", error)]
  | .noAddresses host => [("host", host)]
  | .socketCreationFailed error => [("error", error)]
  | .attemptFailed candidate error => [("candidate", candidate), ("error", error)]
  | .noMoreAddresses attempts => [("attempts", toString attempts)]
  | .noPeerCertificate host => [("host", host)]
  | .matchedBySuffix host => [("host", host)]
  | .nameMismatch host error => [("host", host), ("error", error)]
  | .closingFailed error => [("error", error)]
  | .closingTimedOut limit => [("limit", limit.text)]
  | _ => []

/-- An event as a line: level, words, then the named values. -/
def line (e : LogEvent) : String :=
  e.fields.foldl (fun text (name, value) => text ++ " " ++ name ++ "=" ++ value)
    (e.level.text ++ " " ++ e.message)

end LogEvent

/-- Where a socket comes from. -/
inductive SocketSource
  /-- A creator that was put in the place of all others. -/
  | creator
  /-- The designated network. -/
  | network
  /-- The system. -/
  | system
deriving DecidableEq, Repr

/-- One thing that an observer sees. -/
inductive Event
  | log (line : LogEvent)
  | notified (state : ChannelState)
  /-- The designated network is asked for the addresses of a host. -/
  | resolving (host : String)
  /-- A socket for an address is asked for. -/
  | socketRequested (source : SocketSource) (address : SocketAddress)
deriving DecidableEq, Repr

namespace Event

def logOf (trace : List Event) : List LogEvent :=
  trace.filterMap fun
    | .log line => some line
    | _ => none

def statesOf (trace : List Event) : List ChannelState :=
  trace.filterMap fun
    | .notified state => some state
    | _ => none

def socketsOf (trace : List Event) : List (SocketSource × SocketAddress) :=
  trace.filterMap fun
    | .socketRequested source address => some (source, address)
    | _ => none

@[simp] theorem logOf_append (s t : List Event) : logOf (s ++ t) = logOf s ++ logOf t := by
  simp [logOf]

@[simp] theorem statesOf_append (s t : List Event) :
    statesOf (s ++ t) = statesOf s ++ statesOf t := by
  simp [statesOf]

@[simp] theorem socketsOf_append (s t : List Event) :
    socketsOf (s ++ t) = socketsOf s ++ socketsOf t := by
  simp [socketsOf]

end Event

end Mailwire
