import Mailwire.Json.Reader

/-!
# Writing JSON

Objects are written without blanks. In a string only the marks that have to be are escaped: the
quotation mark, the backslash and the control characters, those by a letter where there is one.
-/

namespace Mailwire.Json

def escapeNumber (c : Char) : List Char :=
  ['\\', 'u', '0', '0', Nat.digitChar (c.toNat / 16), Nat.digitChar (c.toNat % 16)]

def escapeChar (c : Char) : List Char :=
  if c = '"' then ['\\', '"']
  else if c = '\\' then ['\\', '\\']
  else if c = '\x08' then ['\\', 'b']
  else if c = '\x0c' then ['\\', 'f']
  else if c = '\n' then ['\\', 'n']
  else if c = '\r' then ['\\', 'r']
  else if c = '\t' then ['\\', 't']
  else if c < ' ' then escapeNumber c
  else [c]

def printString (s : String) : List Char :=
  '"' :: s.toList.flatMap escapeChar ++ ['"']

def printNatural (n : Nat) : List Char := Nat.toDigits 10 n

/-- The members of an object, with commas between them. -/
def printMembers : List (String × List Char) → List Char
  | [] => []
  | [(name, value)] => printString name ++ ':' :: value
  | (name, value) :: more => printString name ++ ':' :: value ++ ',' :: printMembers more

def printObject (members : List (String × List Char)) : List Char :=
  '\x7b' :: printMembers members ++ ['\x7d']

end Mailwire.Json
