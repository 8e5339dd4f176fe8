import Mailwire.Address
import Mailwire.Der
import Mailwire.Text.Utf8

/-!
# Alternative names of a certificate

The subjects that a certificate speaks for, one element each. Names are read in order up to the
first malformed one; what comes behind it does not count.
-/

namespace Mailwire

/-- A name that a certificate presents. -/
inductive AltName
  | dns (name : Octets)
  | uri (address : Octets)
  | ip (octets : Octets)
  | directory
  /-- A form of name that identifies no server; only its number is kept. -/
  | unsupported (number : UInt8)
deriving DecidableEq, Repr

namespace AltName

/-- The name that an element holds, if its tag is that of a name. -/
def ofElement? (e : Der.Element) : Option AltName :=
  if e.tag = 0x82 then some (.dns e.content)
  else if e.tag = 0x86 then some (.uri e.content)
  else if e.tag = 0x87 then some (.ip e.content)
  else if e.tag = 0xa4 then some .directory
  else if e.tag ∈ [0xa0, 0x81, 0xa3, 0xa5, 0x88] then some (.unsupported (e.tag &&& 0x1f))
  else none

/-- The names that are read before the first malformed one, the last one first, and whether there
is a malformed one. -/
def readOnto (names : List AltName) (bs : Octets) : List AltName × Bool :=
  if bs.isEmpty then (names, false)
  else
    match _h : Der.readElement bs with
    | none => (names, true)
    | some (e, rest) =>
      match ofElement? e with
      | none => (names, true)
      | some name => readOnto (name :: names) rest
termination_by bs.length
decreasing_by exact Der.readElement_length_lt ‹_›

/-- The names that precede the first malformed one, and whether there is a malformed one. -/
def readAll (bs : Octets) : List AltName × Bool :=
  let (names, malformed) := readOnto [] bs
  (names.reverse, malformed)

/-! ### Text -/

/-- The groups of an address of sixteen octets. The first is always shown; later zero groups are
left out, and the next group that is shown stands behind a double colon. -/
def groupsText (shown skipping : Bool) : Octets → String
  | a :: b :: rest =>
    let group := IpAddress.hexText (a.toNat * 256 + b.toNat)
    if !shown then group ++ groupsText true false rest
    else if a = 0 ∧ b = 0 then groupsText true true rest
    else (if skipping then "::" else ":") ++ group ++ groupsText true false rest
  | _ => ""

def ipText (bs : Octets) : String :=
  if bs.length = 4 then ".".intercalate (bs.map fun b => toString b.toNat)
  else if bs.length = 16 then groupsText false false bs
  else "[invalid: " ++ ", ".intercalate (bs.map Octets.hexOctet) ++ "]"

/-- A name as messages show it. Nothing inside is escaped. -/
def text : AltName → String
  | .dns name => "DnsName(\"" ++ Text.decodeLossy name ++ "\")"
  | .uri address => "UniformResourceIdentifier(\"" ++ Text.decodeLossy address ++ "\")"
  | .ip octets => "IpAddress(" ++ ipText octets ++ ")"
  | .directory => "DirectoryName"
  | .unsupported number => "Unsupported(0x" ++ Octets.hexOctet number ++ ")"

end AltName

end Mailwire
