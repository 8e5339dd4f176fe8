/-!
# Input and output errors

What can go wrong on a stream or a socket: the broad kind that a program acts upon, and the text
that a person reads.
-/

namespace Mailwire

/-- The broad kind of an input or output error. -/
inductive IoKind
  | notFound
  | permissionDenied
  | connectionRefused
  | connectionReset
  | hostUnreachable
  | networkUnreachable
  | connectionAborted
  | notConnected
  | addrInUse
  | addrNotAvailable
  | networkDown
  | brokenPipe
  | alreadyExists
  | wouldBlock
  | invalidInput
  | invalidData
  | timedOut
  | writeZero
  | interrupted
  | unsupported
  | unexpectedEof
  | outOfMemory
  | other
  /-- A system error that belongs to no other kind. -/
  | uncategorized
deriving DecidableEq, Repr

namespace IoKind

/-- The text of an error of which only the kind is known. -/
def text : IoKind → String
  | .notFound => "entity not found"
  | .permissionDenied => "permission denied"
  | .connectionRefused => "connection refused"
  | .connectionReset => "connection reset"
  | .hostUnreachable => "host unreachable"
  | .networkUnreachable => "network unreachable"
  | .connectionAborted => "connection aborted"
  | .notConnected => "not connected"
  | .addrInUse => "address in use"
  | .addrNotAvailable => "address not available"
  | .networkDown => "network down"
  | .brokenPipe => "broken pipe"
  | .alreadyExists => "entity already exists"
  | .wouldBlock => "operation would block"
  | .invalidInput => "invalid input parameter"
  | .invalidData => "invalid data"
  | .timedOut => "timed out"
  | .writeZero => "write zero"
  | .interrupted => "operation interrupted"
  | .unsupported => "unsupported"
  | .unexpectedEof => "unexpected end of file"
  | .outOfMemory => "out of memory"
  | .other => "other error"
  | .uncategorized => "uncategorized error"

end IoKind

/-- Kind and text of an error number of the operating system. -/
def systemError : Nat → IoKind × String
  | 1 => (.permissionDenied, "Operation not permitted")
  | 2 => (.notFound, "No such file or directory")
  | 4 => (.interrupted, "Interrupted system call")
  | 5 => (.uncategorized, "Input/output error")
  | 9 => (.uncategorized, "Bad file descriptor")
  | 11 => (.wouldBlock, "Resource temporarily unavailable")
  | 12 => (.outOfMemory, "Cannot allocate memory")
  | 13 => (.permissionDenied, "Permission denied")
  | 17 => (.alreadyExists, "File exists")
  | 22 => (.invalidInput, "Invalid argument")
  | 23 => (.uncategorized, "Too many open files in system")
  | 24 => (.uncategorized, "Too many open files")
  | 32 => (.brokenPipe, "Broken pipe")
  | 95 => (.unsupported, "Operation not supported")
  | 97 => (.uncategorized, "Address family not supported by protocol")
  | 98 => (.addrInUse, "Address already in use")
  | 99 => (.addrNotAvailable, "Cannot assign requested address")
  | 100 => (.networkDown, "Network is down")
  | 101 => (.networkUnreachable, "Network is unreachable")
  | 103 => (.connectionAborted, "Software caused connection abort")
  | 104 => (.connectionReset, "Connection reset by peer")
  | 105 => (.uncategorized, "No buffer space available")
  | 107 => (.notConnected, "Transport endpoint is not connected")
  | 110 => (.timedOut, "Connection timed out")
  | 111 => (.connectionRefused, "Connection refused")
  | 113 => (.hostUnreachable, "No route to host")
  | code => (.uncategorized, s!"Unknown error {code}")

/-- An input or output error. -/
inductive IoError
  /-- An error of a kind, described in words. -/
  | described (kind : IoKind) (text : String)
  /-- An error of which only the kind is known. -/
  | plain (kind : IoKind)
  /-- An error number of the operating system. -/
  | system (code : Nat)
deriving DecidableEq, Repr

namespace IoError

def kind : IoError → IoKind
  | .described kind _ => kind
  | .plain kind => kind
  | .system code => (systemError code).1

def message : IoError → String
  | .described _ text => text
  | .plain kind => kind.text
  | .system code => s!"{(systemError code).2} (os error {code})"

@[simp] theorem kind_described (kind : IoKind) (text : String) :
    (described kind text).kind = kind := rfl

@[simp] theorem kind_plain (kind : IoKind) : (plain kind).kind = kind := rfl

@[simp] theorem message_described (kind : IoKind) (text : String) :
    (described kind text).message = text := rfl

/-- The far end no longer takes part in the connection. -/
def brokenPipe : IoError := .system 32

/-- The socket cannot carry addresses of this family. -/
def familyNotSupported : IoError := .system 97

/-- The machine does not own the address that a socket was to be bound to. -/
def addressNotOwned : IoError := .system 99

/-- The machine has no route to the address. -/
def networkUnreachable : IoError := .system 101

/-- The far end has cut the connection. -/
def connectionReset : IoError := .system 104

/-- The socket is not connected any more. -/
def notConnected : IoError := .system 107

/-- Nothing listens at the address. -/
def connectionRefused : IoError := .system 111

/-- The far end of an encrypted stream has left without a word. -/
def noFarewell : IoError :=
  .described .unexpectedEof "peer closed connection without sending TLS close_notify"

end IoError

end Mailwire
