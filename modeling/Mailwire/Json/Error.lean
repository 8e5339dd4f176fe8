import Mailwire.Decimal.Text
import Mailwire.Text.Quoted

/-!
# What is wrong with a JSON text

A text is no JSON, or it ends too early, or it is JSON that does not say what it should.
-/

namespace Mailwire.Json

/-- A number as it is read: an integer that fits 64 bits, or a fractional number. -/
inductive Number
  | natural (n : Nat)
  /-- The integer `-n`, which is not zero. -/
  | negative (n : Nat)
  | fractional (minus : Bool) (magnitude : Binary64)
deriving DecidableEq, Repr

/-- What stands where something else should. -/
inductive Found
  | null
  | boolean (b : Bool)
  | number (n : Number)
  | string (s : String)
  | sequence
  | object
deriving DecidableEq, Repr

/-- Why JSON does not say what it should. -/
inductive Misfit
  | missingField (name : String)
  | duplicateField (name : String)
  | unknownField (name : String) (known : List String)
  | wrongType (found : Found) (expected : String)
  /-- An integer is out of the range of its type. -/
  | outOfRange (found : Number) (expected : String)
  /-- A sequence is too short. -/
  | wrongLength (length : Nat) (expected : String)
  | durationOverflow
deriving DecidableEq, Repr

/-- Why a text is not read. -/
inductive ReadError
  /-- The text is no JSON. -/
  | malformed
  /-- The text ends before the JSON does. -/
  | tooShort
  | misfit (m : Misfit)
deriving DecidableEq, Repr

def Number.text : Number → String
  | .natural n => toString n
  | .negative n => "-" ++ toString n
  | .fractional minus magnitude => Decimal.text minus magnitude

def Found.text : Found → String
  | .null => "null"
  | .boolean b => "boolean `" ++ toString b ++ "`"
  | .number (.fractional minus magnitude) =>
    "floating point `" ++ (Number.fractional minus magnitude).text ++ "`"
  | .number n => "integer `" ++ n.text ++ "`"
  | .string s => "string " ++ Text.quoted s
  | .sequence => "sequence"
  | .object => "map"

def fieldName (name : String) : String := "`" ++ name ++ "`"

def Misfit.text : Misfit → String
  | .missingField name => "missing field " ++ fieldName name
  | .duplicateField name => "duplicate field " ++ fieldName name
  | .unknownField name known =>
    "unknown field " ++ fieldName name ++ ", expected "
      ++ " or ".intercalate (known.map fieldName)
  | .wrongType found expected => "invalid type: " ++ found.text ++ ", expected " ++ expected
  | .outOfRange found expected =>
    "invalid value: " ++ (Found.number found).text ++ ", expected " ++ expected
  | .wrongLength length expected =>
    "invalid length " ++ toString length ++ ", expected " ++ expected
  | .durationOverflow => "overflow deserializing Duration"

end Mailwire.Json
