import Mailwire.Octets

/-!
# UTF-8 text

Strict decoding accepts exactly the well-formed octet sequences. Lossy decoding always
answers: every maximal part that begins a character and does not finish it, and every octet
that begins none, becomes one replacement character.
-/

namespace Mailwire.Text

/-- What a leading octet announces. -/
structure Lead where
  /-- The value bits that the leading octet carries. -/
  value : Nat
  /-- The least octet that may follow. -/
  low : UInt8
  /-- The greatest octet that may follow. -/
  high : UInt8
  /-- How many continuation octets come after the one that follows. -/
  more : Nat

/-- The announcement of an octet that begins a character of two to four octets. The ranges of
the second octet exclude overlong forms, surrogates and values above the last character. -/
def lead? (b : UInt8) : Option Lead :=
  if b < 0xc2 then none
  else if b < 0xe0 then some ⟨b.toNat - 0xc0, 0x80, 0xbf, 0⟩
  else if b = 0xe0 then some ⟨0, 0xa0, 0xbf, 1⟩
  else if b = 0xed then some ⟨0xd, 0x80, 0x9f, 1⟩
  else if b < 0xf0 then some ⟨b.toNat - 0xe0, 0x80, 0xbf, 1⟩
  else if b = 0xf0 then some ⟨0, 0x90, 0xbf, 2⟩
  else if b < 0xf4 then some ⟨b.toNat - 0xf0, 0x80, 0xbf, 2⟩
  else if b = 0xf4 then some ⟨4, 0x80, 0x8f, 2⟩
  else none

/-- Reads the octets after a leading one. Answers the value if all are there, and what is left
behind the longest part that fits the announcement. -/
def continuation (value : Nat) (low high : UInt8) : Nat → Octets → Option Nat × Octets
  | more, b :: rest =>
    if low ≤ b ∧ b ≤ high then
      let value := value * 64 + (b.toNat - 0x80)
      match more with
      | 0 => (some value, rest)
      | more + 1 => continuation value 0x80 0xbf more rest
    else (none, b :: rest)
  | _, [] => (none, [])

/-- The first character behind `b`'s place, `none` for an ill-formed part, and what follows. -/
def firstChar (b : UInt8) (rest : Octets) : Option Char × Octets :=
  if b < 0x80 then (some (Char.ofNat b.toNat), rest)
  else match lead? b with
    | none => (none, rest)
    | some l =>
      let (value, left) := continuation l.value l.low l.high l.more rest
      (value.map Char.ofNat, left)

theorem continuation_length_le (value : Nat) (low high : UInt8) (more : Nat) (bs : Octets) :
    (continuation value low high more bs).2.length ≤ bs.length := by
  induction bs generalizing value low high more with
  | nil => cases more <;> simp [continuation]
  | cons b rest ih =>
    rw [continuation]
    split
    · cases more with
      | zero => simp
      | succ more => exact Nat.le_trans (ih _ _ _ _) (by simp)
    · simp

theorem firstChar_length_le (b : UInt8) (rest : Octets) :
    (firstChar b rest).2.length ≤ rest.length := by
  rw [firstChar]
  split
  · simp
  · split
    · simp
    · exact continuation_length_le _ _ _ _ _

/-- What stands in a text for a part that is no character. -/
def replacement : Char := Char.ofNat 0xfffd

/-- The parts of an octet sequence, the last one first: a character each, or `none` for a
maximal ill-formed part. -/
def partsOnto (parts : List (Option Char)) : Octets → List (Option Char)
  | [] => parts
  | b :: rest => partsOnto ((firstChar b rest).1 :: parts) (firstChar b rest).2
termination_by bs => bs.length
decreasing_by exact Nat.lt_succ_of_le (firstChar_length_le b rest)

/-- The parts of an octet sequence in order. -/
def parts (bs : Octets) : List (Option Char) :=
  (partsOnto [] bs).reverse

/-- The text of an octet sequence, ill-formed parts replaced. -/
def decodeLossy (bs : Octets) : String :=
  String.ofList ((parts bs).map (·.getD replacement))

/-- The text of an octet sequence, if it is well-formed. -/
def decode? (bs : Octets) : Option String :=
  let ps := parts bs
  if ps.all (·.isSome) then some (String.ofList (ps.filterMap id)) else none

end Mailwire.Text
