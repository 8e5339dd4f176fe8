/-!
# Binary numbers of 53 digits

Nonnegative numbers `mantissa * 2 ^ exponent` as a machine word of 64 bits holds them, with exact
rounding of a quotient, and the shortest decimal form that rounds to one of them. All arithmetic
is on natural numbers.
-/

namespace Mailwire

/-- A nonnegative finite number. -/
structure Binary64 where
  mantissa : Nat
  exponent : Int
deriving DecidableEq, Repr

namespace Binary64

/-- The least exponent, at which precision is given up. -/
def minExponent : Int := -1074

/-- The exponent of the largest numbers. -/
def maxExponent : Int := 971

/-- The least number of 53 digits. -/
def leastLong : Nat := 0x10000000000000

/-- A power of two as numerator and denominator. -/
def powTwo (e : Int) : Nat × Nat := (Nat.pow 2 e.toNat, Nat.pow 2 (-e).toNat)

/-- The nearest integer to a quotient, and of two the even one. -/
def roundDiv (num den : Nat) : Nat :=
  let q := num / den
  let r := num % den
  if den < 2 * r ∨ (2 * r = den ∧ q % 2 = 1) then q + 1 else q

/-- A number as numerator and denominator. -/
def ratio (x : Binary64) : Nat × Nat :=
  let (up, down) := powTwo x.exponent
  (x.mantissa * up, down)

/-- The exponent at which a quotient has 53 digits before the binary point. -/
def leadingExponent (num den : Nat) : Int :=
  let guess : Int := (num.log2 : Int) - (den.log2 : Int) - 52
  let (up, down) := powTwo guess
  if num * down < leastLong * (den * up) then guess - 1 else guess

/-- The number nearest to a quotient, unless it is too large. -/
def ofRatio? (num den : Nat) : Option Binary64 :=
  if num = 0 then some ⟨0, minExponent⟩
  else
    let e := max (leadingExponent num den) minExponent
    let (up, down) := powTwo e
    let m := roundDiv (num * down) (den * up)
    let x : Binary64 := if m = 2 * leastLong then ⟨leastLong, e + 1⟩ else ⟨m, e⟩
    if maxExponent < x.exponent then none else some x

def mul? (x y : Binary64) : Option Binary64 :=
  ofRatio? (x.ratio.1 * y.ratio.1) (x.ratio.2 * y.ratio.2)

def div? (x y : Binary64) : Option Binary64 :=
  ofRatio? (x.ratio.1 * y.ratio.2) (x.ratio.2 * y.ratio.1)

def powTen? (e : Nat) : Option Binary64 := ofRatio? (Nat.pow 10 e) 1

/-! ### Decimal form -/

/-- The nonzero decimal number `digits * 10 ^ exponent`. -/
structure Decimal where
  digits : Nat
  exponent : Int
deriving DecidableEq, Repr

/-- The exponent of the first decimal digit of a positive quotient. -/
def decimalExponent (num den : Nat) : Int :=
  if den ≤ num then ((Nat.toDigits 10 (num / den)).length : Int) - 1
  else
    match (List.range 400).find? (fun j => den ≤ num * Nat.pow 10 (j + 1)) with
    | some j => -((j : Int) + 1)
    | none => -400

/-- Whether a decimal number rounds to `x`, which is positive. Both ends of the interval belong to
it if the mantissa is even. -/
def roundsTo (x : Binary64) (d : Decimal) : Bool :=
  let below := if x.mantissa = leastLong ∧ minExponent < x.exponent then 1 else 2
  let (up, down) := powTwo (x.exponent - 2)
  let tens := Nat.pow 10 d.exponent.toNat
  let tenths := Nat.pow 10 (-d.exponent).toNat
  let value := d.digits * tens * down
  let low := (4 * x.mantissa - below) * up * tenths
  let high := (4 * x.mantissa + 2) * up * tenths
  if x.mantissa % 2 = 0 then low ≤ value && value ≤ high else low < value && value < high

/-- The decimal number nearest to `x` among those of `count` digits that round to it. -/
def shortestOf (x : Binary64) (first : Int) (count : Nat) : Option Decimal :=
  let k := first - (count : Int) + 1
  let (num, den) := x.ratio
  let scaledNum := num * Nat.pow 10 (-k).toNat
  let scaledDen := den * Nat.pow 10 k.toNat
  let q := scaledNum / scaledDen
  let nearest := roundDiv scaledNum scaledDen
  let other := if nearest = q then q + 1 else q
  if roundsTo x ⟨nearest, k⟩ then some ⟨nearest, k⟩
  else if roundsTo x ⟨other, k⟩ then some ⟨other, k⟩
  else none

/-- The fewest digits that round to a positive number, and of these the nearest ones. -/
def shortest (x : Binary64) : Decimal :=
  let first := decimalExponent x.ratio.1 x.ratio.2
  match (List.range 17).findSome? (fun n => shortestOf x first (n + 1)) with
  | some d => d
  | none => ⟨0, 0⟩

end Binary64

end Mailwire
