/-!
# Octets

The bytes that travel on a wire, as lists, and the octets that end a line.
-/

namespace Mailwire

abbrev Octets := List UInt8

namespace Octets

def lf : UInt8 := 0x0a

/-- The octet that is written before a line feed and has no meaning of its own. -/
def cr : UInt8 := 0x0d

def crlf : Octets := [cr, lf]

/-- The UTF-8 form of a text. -/
def ofString (s : String) : Octets :=
  s.toList.flatMap String.utf8EncodeChar

/-- One octet as two lower-case hexadecimal digits. -/
def hexOctet (b : UInt8) : String :=
  String.ofList [Nat.digitChar (b.toNat / 16), Nat.digitChar (b.toNat % 16)]

/-- Hexadecimal digits of all octets, without separators. -/
def hex (bs : Octets) : String :=
  bs.foldl (fun text b => text ++ hexOctet b) ""

/-- An octet without the bit that tells upper from lower case, where it is an ASCII letter. -/
def lowerAscii (b : UInt8) : UInt8 :=
  if 0x41 ≤ b ∧ b ≤ 0x5a then b + 0x20 else b

def toLower (bs : Octets) : Octets :=
  bs.map lowerAscii

end Octets

end Mailwire
