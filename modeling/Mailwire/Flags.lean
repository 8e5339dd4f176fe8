/-!
# Capability flags

A word of 32 bits, two of which have a meaning. Bits without a meaning may be present and are
kept by all operations but the one that drops them.
-/

namespace Mailwire

/-- How a transport connects. -/
structure Flags where
  bits : UInt32
deriving DecidableEq, Repr

namespace Flags

/-- A plain connection with full verification. -/
def none : Flags := ⟨0⟩

/-- Upgrade to TLS right after connecting. -/
def encrypt : Flags := ⟨0x01⟩

/-- Accept any certificate, and skip the verification of the host. -/
def trustAll : Flags := ⟨0x08⟩

instance : Inhabited Flags := ⟨none⟩

def union (a b : Flags) : Flags := ⟨a.bits ||| b.bits⟩

/-- The flags of the first word that are not in the second. -/
def diff (a b : Flags) : Flags := ⟨a.bits &&& ~~~b.bits⟩

/-- Whether all flags of the second word are in the first. -/
def contains (a b : Flags) : Bool := a.bits &&& b.bits == b.bits

def isEmpty (a : Flags) : Bool := a.bits == 0

def all : Flags := union encrypt trustAll

/-- The flags of a word, those without a meaning dropped. -/
def ofBits (bits : UInt32) : Flags := ⟨bits &&& all.bits⟩

/-- Sets or clears the flags of the second word. -/
def set (a b : Flags) (enabled : Bool) : Flags :=
  if enabled then a.union b else a.diff b

@[simp] theorem bits_union (a b : Flags) : (a.union b).bits = a.bits ||| b.bits := rfl

@[simp] theorem bits_diff (a b : Flags) : (a.diff b).bits = a.bits &&& ~~~b.bits := rfl

end Flags

end Mailwire
