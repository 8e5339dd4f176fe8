import Mailwire.Certificate.Problem

/-!
# Certificates

A certificate of the third version as its reader sees it: of the fields only those are kept that
decide whom it speaks for and whose key it holds. Checks are made in reading order, and the first
that fails is the answer.
-/

namespace Mailwire

/-- What is kept of a certificate. -/
structure Certificate where
  subject : Octets
  publicKey : Octets
  /-- The extensions whose meaning is known, by number, in the order of the certificate. -/
  extensions : List (UInt8 × Octets)
deriving DecidableEq, Repr

namespace Certificate

/-- What happens to an extension that is marked critical and not known. -/
inductive CriticalPolicy
  | refuse
  | ignore
deriving DecidableEq, Repr

/-- A step that only a well-formed encoding survives. -/
def wellFormed {α : Type} : Option α → Except CertificateProblem α
  | some a => .ok a
  | none => .error .badEncoding

def nothingLeft (rest : Octets) : Except CertificateProblem Unit :=
  if rest.isEmpty then .ok () else .error .badEncoding

/-! ### The outer layer -/

/-- The three parts that a certificate is made of. -/
structure Signed where
  /-- What the issuer has signed. -/
  body : Octets
  algorithm : Octets

def readSigned (der : Octets) : Except CertificateProblem Signed := do
  let (content, behind) ← wellFormed (Der.expect Der.Tag.sequence der)
  let (body, rest) ← wellFormed (Der.expect Der.Tag.sequence content)
  let (algorithm, rest) ← wellFormed (Der.expect Der.Tag.sequence rest)
  let (_, rest) ← wellFormed (Der.expectBitOctets rest)
  nothingLeft rest
  nothingLeft behind
  return ⟨body, algorithm⟩

/-! ### Extensions -/

/-- The numbers of the extensions that are kept. -/
def knownExtensions : List UInt8 := [15, 17, 19, 30, 31, 37]

/-- The number of the key usage, the one extension that holds no sequence. -/
def keyUsage : UInt8 := 15

/-- The number of the alternative names. -/
def subjectAltName : UInt8 := 17

/-- The number of an extension, if it is one that is kept. -/
def knownExtension? : Octets → Option UInt8
  | [0x55, 0x1d, number] => if number ∈ knownExtensions then some number else none
  | _ => none

/-- The value of an extension that is kept. -/
def extensionValue (number : UInt8) (value : Octets) : Except CertificateProblem Octets :=
  if number = keyUsage then .ok value
  else do
    let (content, rest) ← wellFormed (Der.expect Der.Tag.sequence value)
    nothingLeft rest
    return content

/-- Adds one extension to those that are kept. None is kept twice. -/
def keepExtension (policy : CriticalPolicy) (kept : List (UInt8 × Octets)) (id : Octets)
    (critical : Bool) (value : Octets) : Except CertificateProblem (List (UInt8 × Octets)) :=
  match knownExtension? id with
  | none =>
    if critical ∧ policy = .refuse then .error (.rare .unsupportedCriticalExtension) else .ok kept
  | some number =>
    if kept.any (·.1 == number) then .error (.rare .extensionValueInvalid)
    else do
      let content ← extensionValue number value
      return kept ++ [(number, content)]

def readExtension (policy : CriticalPolicy) (kept : List (UInt8 × Octets)) (content : Octets) :
    Except CertificateProblem (List (UInt8 × Octets)) := do
  let (id, rest) ← wellFormed (Der.expect Der.Tag.objectId content)
  let (critical, rest) ← wellFormed (Der.optionalBool rest)
  let (value, rest) ← wellFormed (Der.expect Der.Tag.octetString rest)
  let kept ← keepExtension policy kept id critical value
  nothingLeft rest
  return kept

def readExtensions (policy : CriticalPolicy) (kept : List (UInt8 × Octets)) (bs : Octets) :
    Except CertificateProblem (List (UInt8 × Octets)) :=
  if bs.isEmpty then .ok kept
  else
    match _h : Der.readElement bs with
    | none => .error .badEncoding
    | some (e, rest) =>
      if e.tag = Der.Tag.sequence then
        match readExtension policy kept e.content with
        | .ok kept => readExtensions policy kept rest
        | .error problem => .error problem
      else .error .badEncoding
termination_by bs.length
decreasing_by exact Der.readElement_length_lt ‹_›

/-! ### The signed body -/

/-- Demands the number of the third version, and answers what follows. -/
def readVersion (bs : Octets) : Except CertificateProblem Octets :=
  match Der.expect (Der.Tag.context 0) bs with
  | none => .error (.rare .unsupportedVersion)
  | some (content, rest) =>
    match Der.expectNatural content with
    | some ([2], []) => .ok rest
    | some ([_], _) => .error (.rare .unsupportedVersion)
    | _ => .error .badEncoding

/-- Reads the optional extensions, which are all that may follow the public key. -/
def readTrailer (policy : CriticalPolicy) (bs : Octets) :
    Except CertificateProblem (List (UInt8 × Octets)) :=
  if bs.isEmpty then .ok []
  else do
    let (tagged, behind) ← wellFormed (Der.expect (Der.Tag.context 3) bs)
    let (row, rest) ← wellFormed (Der.expect Der.Tag.sequence tagged)
    let kept ← readExtensions policy [] row
    nothingLeft rest
    nothingLeft behind
    return kept

/-- Reads what the issuer has signed; `algorithm` is the one named outside. -/
def readBody (policy : CriticalPolicy) (algorithm body : Octets) :
    Except CertificateProblem Certificate := do
  let rest ← readVersion body
  let (_, rest) ← wellFormed (Der.expect Der.Tag.integer rest)
  let (named, rest) ← wellFormed (Der.expect Der.Tag.sequence rest)
  if named ≠ algorithm then throw (.rare .signatureAlgorithmMismatch)
  let (_, rest) ← wellFormed (Der.expect Der.Tag.sequence rest)
  let (_, rest) ← wellFormed (Der.expect Der.Tag.sequence rest)
  let (subject, rest) ← wellFormed (Der.expect Der.Tag.sequence rest)
  let (publicKey, rest) ← wellFormed (Der.expect Der.Tag.sequence rest)
  let extensions ← readTrailer policy rest
  return ⟨subject, publicKey, extensions⟩

/-- Reads a certificate under a policy on critical extensions. -/
def read (policy : CriticalPolicy) (der : Octets) : Except CertificateProblem Certificate := do
  let signed ← readSigned der
  readBody policy signed.algorithm signed.body

def parse (der : Octets) : Except CertificateProblem Certificate :=
  read .refuse der

/-- The names that precede the first malformed one, and whether there is a malformed one. -/
def altNames (c : Certificate) : List AltName × Bool :=
  match c.extensions.find? (·.1 == subjectAltName) with
  | some (_, content) => AltName.readAll content
  | none => ([], false)

end Certificate

end Mailwire
