import Mailwire.Octets

/-!
# Elements of the distinguished encoding

An element is a tag, a length and as many octets of content. The reader accepts tags of one octet
and definite lengths in their shortest form, below a limit; the writer produces that form.
-/

namespace Mailwire.Der

/-- A tagged piece of data. -/
structure Element where
  tag : UInt8
  content : Octets
deriving DecidableEq, Repr

/-! ### Tags -/

namespace Tag

def boolean : UInt8 := 0x01

def integer : UInt8 := 0x02

/-- A row of bits, behind an octet that says how many of the last octet do not count. -/
def bitString : UInt8 := 0x03

def octetString : UInt8 := 0x04

/-- The registered name of a kind of thing. -/
def objectId : UInt8 := 0x06

/-- Elements in a given order. -/
def sequence : UInt8 := 0x30

/-- The constructed element that a context numbers `n`. -/
def context (n : UInt8) : UInt8 := 0xa0 ||| n

/-- A tag whose number does not fit its octet continues in the next one. -/
def isLong (tag : UInt8) : Bool := tag &&& 0x1f == 0x1f

end Tag

/-! ### Reading -/

/-- Content is always shorter than this. -/
def lengthLimit : Nat := 0xffff

/-- The number that octets spell, the most significant octet first. -/
def bigEndian (bs : Octets) : Nat :=
  bs.foldl (fun n b => n * 256 + b.toNat) 0

/-- The least length that takes this many octets behind the one that counts them. -/
def leastLength : Nat → Nat
  | 1 => 0x80
  | count => Nat.pow 256 (count - 1)

def readLength : Octets → Option (Nat × Octets)
  | [] => none
  | b :: rest =>
    if b < 0x80 then some (b.toNat, rest)
    else
      let count := b.toNat - 0x80
      let spelled := rest.take count
      if count = 0 ∨ 4 < count ∨ spelled.length < count then none
      else if bigEndian spelled < leastLength count then none
      else some (bigEndian spelled, rest.drop count)

def readElement : Octets → Option (Element × Octets)
  | [] => none
  | tag :: rest =>
    if Tag.isLong tag then none
    else
      match readLength rest with
      | none => none
      | some (n, rest) =>
        let content := rest.take n
        if lengthLimit ≤ n ∨ content.length < n then none
        else some (⟨tag, content⟩, rest.drop n)

/-- Reads one element that has to have a given tag, and answers its content. -/
def expect (tag : UInt8) (bs : Octets) : Option (Octets × Octets) :=
  match readElement bs with
  | some (e, rest) => if e.tag = tag then some (e.content, rest) else none
  | none => none

/-- Reads an integer that is not negative and written in the fewest octets, and answers its
octets without the one that only keeps the sign. -/
def expectNatural (bs : Octets) : Option (Octets × Octets) :=
  match expect Tag.integer bs with
  | some ([], _) => none
  | some (b :: more, rest) =>
    if b = 0 then
      match more with
      | [] => some ([0], rest)
      | c :: _ => if c < 0x80 then none else some (more, rest)
    else if b < 0x80 then some (b :: more, rest)
    else none
  | none => none

/-- Reads a truth value if there is one; without one the answer is no. -/
def optionalBool (bs : Octets) : Option (Bool × Octets) :=
  if bs.head? = some Tag.boolean then
    match expect Tag.boolean bs with
    | some ([0x00], rest) => some (false, rest)
    | some ([0xff], rest) => some (true, rest)
    | _ => none
  else some (false, bs)

/-- Reads a string of whole octets out of a bit string. -/
def expectBitOctets (bs : Octets) : Option (Octets × Octets) :=
  match expect Tag.bitString bs with
  | some (0 :: content, rest) => some (content, rest)
  | _ => none

/-! ### Each element is longer than what it leaves out -/

theorem readLength_length_lt {bs rest : Octets} {n : Nat} (h : readLength bs = some (n, rest)) :
    rest.length < bs.length := by
  cases bs with
  | nil => cases h
  | cons b tail =>
    simp only [readLength] at h
    by_cases hshort : b < 0x80
    · rw [if_pos hshort] at h
      cases h
      exact Nat.lt_succ_self _
    · rw [if_neg hshort] at h
      split at h
      · cases h
      · split at h
        · cases h
        · obtain rfl := (Prod.mk.inj (Option.some.inj h)).2
          rw [List.length_drop]
          exact Nat.lt_succ_of_le (Nat.sub_le ..)

theorem readElement_length_lt {bs rest : Octets} {e : Element}
    (h : readElement bs = some (e, rest)) : rest.length < bs.length := by
  cases bs with
  | nil => cases h
  | cons tag tail =>
    simp only [readElement] at h
    by_cases hlong : Tag.isLong tag = true
    · rw [if_pos hlong] at h
      cases h
    · rw [if_neg hlong] at h
      rcases hlength : readLength tail with _ | ⟨n, left⟩
      · simp [hlength] at h
      · have hleft := readLength_length_lt hlength
        simp only [hlength] at h
        split at h
        · cases h
        · obtain rfl := (Prod.mk.inj (Option.some.inj h)).2
          simp only [List.length_drop, List.length_cons]
          omega

/-! ### Writing -/

/-- The octets of a number, the most significant first, as many as `count`. -/
def bigEndianOctets (count n : Nat) : Octets :=
  (List.range count).map fun i => UInt8.ofNat (n / Nat.pow 256 (count - 1 - i))

def writeLength (n : Nat) : Octets :=
  if n < 0x80 then [UInt8.ofNat n]
  else if n < 0x100 then 0x81 :: bigEndianOctets 1 n
  else if n < 0x10000 then 0x82 :: bigEndianOctets 2 n
  else if n < 0x1000000 then 0x83 :: bigEndianOctets 3 n
  else 0x84 :: bigEndianOctets 4 n

def writeElement (tag : UInt8) (content : Octets) : Octets :=
  tag :: writeLength content.length ++ content

end Mailwire.Der
