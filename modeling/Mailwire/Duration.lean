/-!
# Durations

A span of time in whole seconds and nanoseconds, its text in messages, and the millisecond at
which a wait for it ends.
-/

namespace Mailwire

/-- A span of time below 2^64 seconds, exact to the nanosecond. -/
structure Duration where
  /-- Whole seconds. -/
  secs : UInt64
  /-- The rest, below one second. -/
  nanos : Fin 1000000000
deriving DecidableEq, Repr

namespace Duration

def ofSecs (secs : UInt64) : Duration := ⟨secs, 0⟩

/-- The span in nanoseconds. -/
def toNanos (d : Duration) : Nat := d.secs.toNat * 1000000000 + d.nanos.val

/-- A span given by seconds and any number of nanoseconds. Full seconds among the nanoseconds are
carried; nothing is answered if the seconds then need more than 64 bits. -/
def ofParts? (secs nanos : Nat) : Option Duration :=
  let total := secs + nanos / 1000000000
  if total < UInt64.size then
    some ⟨UInt64.ofNat total, ⟨nanos % 1000000000, Nat.mod_lt _ (by decide)⟩⟩
  else none

/-! ### Text -/

/-- The digits of `n` behind a decimal point, `places` of them before trailing zeros are cut. -/
def fraction (n places : Nat) : String :=
  let digits := (Nat.toDigits 10 n)
  let padded := List.replicate (places - digits.length) '0' ++ digits
  let kept := (padded.reverse.dropWhile (· == '0')).reverse
  if kept.isEmpty then "" else "." ++ String.ofList kept

/-- The integer part in the largest unit of s, ms, µs and ns that makes it nonzero, then the
exact fraction without trailing zeros. -/
def text (d : Duration) : String :=
  let n := d.nanos.val
  if d.secs ≠ 0 then toString d.secs.toNat ++ fraction n 9 ++ "s"
  else if 1000000 ≤ n then toString (n / 1000000) ++ fraction (n % 1000000) 6 ++ "ms"
  else if 1000 ≤ n then toString (n / 1000) ++ fraction (n % 1000) 3 ++ "µs"
  else toString n ++ "ns"

/-! ### Waiting -/

/-- The clock ticks once a millisecond, so a wait ends at the first tick that is not before its
limit. -/
def ticks (d : Duration) : Nat := (d.toNanos + 999999) / 1000000

end Duration

end Mailwire
