import Mailwire.Json.Skip

/-!
# Typed values

Readers for values of which the type is known. Where a value of another type stands, it is read to
its end as far as the report needs it: a string or a number is shown in the report, of a sequence
or an object only the opening bracket is looked at.
-/

namespace Mailwire.Json

/-! ### Reports -/

/-- What the word stands for that begins with a character. -/
def wordFound (c : Char) : Found :=
  if c = 'n' then .null else .boolean (c == 't')

/-- What a text begins with that has no blanks in front. -/
def foundAt (c : Char) (rest : List Char) : Except ReadError Found :=
  match wordBehind? c with
  | some w => (word w rest).map fun _ => wordFound c
  | none =>
    if c = '"' then (stringBody .keep rest).map fun p => .string p.value
    else if c = '-' ∨ isDigit c then (number (c :: rest)).map fun p => .number p.1
    else if c = Bracket.array.opening then .ok .sequence
    else if c = Bracket.object.opening then .ok .object
    else .error .malformed

def wrongType {α : Type} (expected : String) (c : Char) (rest : List Char) :
    Except ReadError α :=
  (foundAt c rest).bind fun found => .error (.misfit (.wrongType found expected))

/-! ### Strings and numbers -/

/-- The length of the rest behind the first character that is no blank. -/
theorem length_lt_of_skipBlank {cs rest : List Char} {c : Char} (h : skipBlank cs = c :: rest) :
    rest.length < cs.length := by
  have := skipBlank_length_le cs
  rw [h] at this
  exact Nat.lt_of_succ_le (by simpa using this)

theorem length_le_of_skipBlank {cs rest : List Char} {c : Char} (h : skipBlank cs = c :: rest) :
    rest.length ≤ cs.length :=
  Nat.le_of_lt (length_lt_of_skipBlank h)

def string : Reader String := fun cs =>
  match _h : skipBlank cs with
  | [] => .error .tooShort
  | c :: rest =>
    if c = '"' then
      (stringBody .keep rest).map (·.widen (length_le_of_skipBlank _h))
    else wrongType "a string" c rest

/-- A number as a natural number below a bound. -/
def Number.toNat? (bound : Nat) (expected : String) : Number → Except Misfit Nat
  | .natural n => if n < bound then .ok n else .error (.outOfRange (.natural n) expected)
  | .negative n => .error (.outOfRange (.negative n) expected)
  | .fractional minus x => .error (.wrongType (.number (.fractional minus x)) expected)

def natural (bound : Nat) (expected : String) : Reader Nat := fun cs =>
  match _h : skipBlank cs with
  | [] => .error .tooShort
  | c :: rest =>
    if c = '-' ∨ isDigit c then
      match _hn : number (c :: rest) with
      | .error e => .error e
      | .ok (n, rest') =>
        match n.toNat? bound expected with
        | .error m => .error (.misfit m)
        | .ok n =>
          .ok ⟨n, rest', by
            have := number_length_lt _hn
            have := length_lt_of_skipBlank _h
            simp only [List.length_cons] at *
            omega⟩
    else wrongType expected c rest

end Mailwire.Json
