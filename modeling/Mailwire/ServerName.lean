import Mailwire.Address

/-!
# Names of servers

A server is named by a DNS name or by an address. A DNS name is a row of labels; one dot may
follow the last of them. A wildcard name, as certificates present it, has a star for its first
label and at least two labels behind.
-/

namespace Mailwire

namespace DnsName

/-- The octet between two labels. -/
def dot : UInt8 := 0x2e

/-- The octet that stands for a whole label in a wildcard name. -/
def star : UInt8 := 0x2a

/-- The octet that is allowed inside a label only. -/
def hyphen : UInt8 := 0x2d

/-- The longest name, in octets. -/
def maxLength : Nat := 253

/-- The longest label, in octets. -/
def maxLabelLength : Nat := 63

def isDigit (b : UInt8) : Bool := 0x30 ≤ b && b ≤ 0x39

/-- A letter, a digit, an underscore or a hyphen. -/
def isLabelOctet (b : UInt8) : Bool :=
  (0x61 ≤ b && b ≤ 0x7a) || (0x41 ≤ b && b ≤ 0x5a) || isDigit b || b == 0x5f || b == hyphen

/-- The pieces between dots; there is always one more than there are dots. -/
def labels : Octets → List Octets
  | [] => [[]]
  | b :: rest =>
    if b = dot then [] :: labels rest
    else
      match labels rest with
      | l :: more => (b :: l) :: more
      | [] => [[b]]

/-- One to 63 octets, with no hyphen at either end. -/
def validLabel (label : Octets) : Bool :=
  !label.isEmpty && label.length ≤ maxLabelLength && label.all isLabelOctet
    && label.head? != some hyphen && label.getLast? != some hyphen

/-- A row of valid labels, the last of which is not a number. -/
def validLabels (row : List Octets) : Bool :=
  !row.isEmpty && row.all validLabel
    && match row.getLast? with
      | some last => !last.all isDigit
      | none => false

/-- A name without the one dot that may follow its last label. -/
def withoutFinalDot (name : Octets) : Octets :=
  if name.getLast? = some dot then name.dropLast else name

/-- A name that a server can be asked for by. -/
def isReference (name : Octets) : Bool :=
  name.length ≤ maxLength && validLabels (labels (withoutFinalDot name))

/-- What a wildcard name has behind its star and the first dot. -/
def wildcardSuffix? : Octets → Option Octets
  | a :: b :: suffix => if a = star ∧ b = dot then some suffix else none
  | _ => none

/-- A suffix under which a star may stand: at least two labels. -/
def validSuffix (suffix : Octets) : Bool :=
  validLabels (labels suffix) && 2 ≤ (labels suffix).length

/-- A name as a certificate may present it: without a final dot, a star allowed as first label. -/
def isPresented (name : Octets) : Bool :=
  name.length ≤ maxLength &&
    match wildcardSuffix? name with
    | some suffix => validSuffix suffix
    | none => validLabels (labels name)

/-- A wildcard name that may also have a final dot. -/
def isWildcard (name : Octets) : Bool :=
  name.length ≤ maxLength &&
    match wildcardSuffix? name with
    | some suffix => validSuffix (withoutFinalDot suffix)
    | none => false

end DnsName

/-- How a server is named. -/
inductive ServerName
  /-- A DNS name, as it was given. -/
  | dns (name : String)
  | ip (address : IpAddress)
deriving DecidableEq, Repr

namespace ServerName

/-- Reads a name: a DNS name if the text is one, an address otherwise. -/
def parse? (host : String) : Option ServerName :=
  if DnsName.isReference (Octets.ofString host) then some (.dns host)
  else (IpAddress.parse? host).map .ip

/-- The name in messages, an address in its canonical text. -/
def text : ServerName → String
  | .dns name => name
  | .ip address => address.text

end ServerName

end Mailwire
