import Mailwire.Decimal.Binary64

/-!
# Texts of fractional numbers

A number with at most sixteen digits before the point, or at most four zeros behind it, is written
positionally and always shows a digit on both sides of the point. All others have an exponent with
a sign.
-/

namespace Mailwire.Decimal

/-- The least exponent of the first digit at which numbers are written positionally. -/
def leastPositional : Int := -5

/-- The greatest exponent of the first digit at which numbers are written positionally. -/
def greatestPositional : Int := 15

def zeros (count : Nat) : List Char := List.replicate count '0'

/-- Digits of which the first stands for `10 ^ first`, written positionally. -/
def positional (digits : List Char) (first : Int) : List Char :=
  if first < 0 then ['0', '.'] ++ zeros ((-first).toNat - 1) ++ digits
  else
    let whole := first.toNat + 1
    let padded := digits ++ zeros (whole - digits.length)
    let behind := padded.drop whole
    padded.take whole ++ '.' :: (if behind.isEmpty then ['0'] else behind)

/-- Digits of which the first stands for `10 ^ first`, written with an exponent. -/
def scientific (digits : List Char) (first : Int) : List Char :=
  let mantissa :=
    match digits with
    | d :: more => if more.isEmpty then [d] else d :: '.' :: more
    | [] => []
  mantissa ++ ['e', if first < 0 then '-' else '+'] ++ Nat.toDigits 10 first.natAbs

/-- The digits of a number without the zeros at its end. -/
def significant (n : Nat) : List Char :=
  ((Nat.toDigits 10 n).reverse.dropWhile (· == '0')).reverse

def text (negative : Bool) (x : Binary64) : String :=
  let magnitude :=
    if x.mantissa = 0 then ['0', '.', '0']
    else
      let d := x.shortest
      let first := d.exponent + ((Nat.toDigits 10 d.digits).length : Int) - 1
      let digits := significant d.digits
      if leastPositional ≤ first ∧ first ≤ greatestPositional then positional digits first
      else scientific digits first
  String.ofList (if negative then '-' :: magnitude else magnitude)

end Mailwire.Decimal
