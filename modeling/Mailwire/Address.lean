import Mailwire.Octets

/-!
# Internet addresses

Addresses of both families, their literals and their canonical texts, and the pairs of address and
port that a socket connects to. A literal is read strictly: no leading zeros in decimal parts, no
zone, no brackets.
-/

namespace Mailwire

/-- An address family. -/
inductive Family
  | v4
  | v6
deriving DecidableEq, Repr

/-- An Internet address. -/
inductive IpAddress
  /-- Four octets. -/
  | v4 (a b c d : UInt8)
  /-- Eight groups of sixteen bits. -/
  | v6 (groups : Vector UInt16 8)
deriving DecidableEq, Repr

namespace IpAddress

def family : IpAddress → Family
  | .v4 .. => .v4
  | .v6 _ => .v6

@[simp] theorem family_v4 (a b c d : UInt8) : (v4 a b c d).family = .v4 := rfl

@[simp] theorem family_v6 (groups : Vector UInt16 8) : (v6 groups).family = .v6 := rfl

/-- The address in network order. -/
def octets : IpAddress → Octets
  | .v4 a b c d => [a, b, c, d]
  | .v6 groups => groups.toList.flatMap fun (g : UInt16) => [(g >>> 8).toUInt8, g.toUInt8]

/-- The address that a host has for talking to itself. -/
def loopback : IpAddress := .v4 127 0 0 1

/-! ### Text -/

/-- A number in lower-case hexadecimal without leading zeros. -/
def hexText (n : Nat) : String := String.ofList (Nat.toDigits 16 n)

def groupsText (groups : List UInt16) : String :=
  ":".intercalate (groups.map fun g => hexText g.toNat)

def zeroRun (groups : List UInt16) : Nat :=
  (groups.takeWhile (· == 0)).length

/-- Start and length of the first of the longest runs of zeros. -/
def longestZeroRun (groups : List UInt16) : Nat × Nat :=
  (List.range groups.length).foldl (fun best start =>
    let run := zeroRun (groups.drop start)
    if best.2 < run then (start, run) else best) (0, 0)

def dotted (a b c d : UInt8) : String :=
  s!"{a.toNat}.{b.toNat}.{c.toNat}.{d.toNat}"

/-- The text of eight groups: an address that embeds one of the other family shows it dotted,
and otherwise the longest run of at least two zero groups is left out. -/
def groupsCanonical (groups : List UInt16) : String :=
  match groups with
  | [0, 0, 0, 0, 0, 0xffff, g, h] =>
    "::ffff:" ++ dotted (g >>> 8).toUInt8 g.toUInt8 (h >>> 8).toUInt8 h.toUInt8
  | _ =>
    let (start, run) := longestZeroRun groups
    if 1 < run then groupsText (groups.take start) ++ "::" ++ groupsText (groups.drop (start + run))
    else groupsText groups

def text : IpAddress → String
  | .v4 a b c d => dotted a b c d
  | .v6 groups => groupsCanonical groups.toList

/-! ### Literals -/

/-- The value of a digit in a base up to sixteen. -/
def digit? (base : Nat) (c : Char) : Option Nat :=
  let value :=
    if '0' ≤ c ∧ c ≤ '9' then some (c.toNat - '0'.toNat)
    else if 'a' ≤ c ∧ c ≤ 'f' then some (c.toNat - 'a'.toNat + 10)
    else if 'A' ≤ c ∧ c ≤ 'F' then some (c.toNat - 'A'.toNat + 10)
    else none
  value.filter (· < base)

/-- The digits that a text starts with, as a number and their count, and the rest. -/
def digits (base : Nat) (cs : List Char) : Nat × Nat × List Char :=
  let run := cs.takeWhile fun c => (digit? base c).isSome
  (run.foldl (fun n c => n * base + (digit? base c).getD 0) 0, run.length, cs.drop run.length)

/-- A decimal part: one to three digits below 256, without a leading zero. -/
def decimalPart (cs : List Char) : Option (UInt8 × List Char) :=
  match digits 10 cs with
  | (n, count, rest) =>
    if count = 0 ∨ 3 < count ∨ 255 < n ∨ (1 < count ∧ cs.head? = some '0') then none
    else some (UInt8.ofNat n, rest)

def expect (c : Char) : List Char → Option (List Char)
  | d :: rest => if d = c then some rest else none
  | [] => none

/-- Four decimal parts with dots between them. -/
def dottedLiteral (cs : List Char) : Option ((UInt8 × UInt8 × UInt8 × UInt8) × List Char) := do
  let (a, cs) ← decimalPart cs
  let (b, cs) ← decimalPart (← expect '.' cs)
  let (c, cs) ← decimalPart (← expect '.' cs)
  let (d, cs) ← decimalPart (← expect '.' cs)
  return ((a, b, c, d), cs)

/-- One group: one to four hexadecimal digits. -/
def hexGroup (cs : List Char) : Option (UInt16 × List Char) :=
  match digits 16 cs with
  | (n, count, rest) => if count = 0 ∨ 4 < count then none else some (UInt16.ofNat n, rest)

/-- The groups that a text starts with, at most `limit`, whether they end in a dotted part, and the
rest. A dotted part stands for two groups, and only where two more may stand. -/
def groupRun (limit : Nat) (first : Bool) (cs : List Char) : List UInt16 × Bool × List Char :=
  match limit with
  | 0 => ([], false, cs)
  | limit + 1 =>
    let behind := if first then some cs else expect ':' cs
    match (if limit = 0 then none else behind.bind dottedLiteral) with
    | some ((a, b, c, d), rest) =>
      ([UInt16.ofNat (a.toNat * 256 + b.toNat), UInt16.ofNat (c.toNat * 256 + d.toNat)], true, rest)
    | none =>
      match behind.bind hexGroup with
      | none => ([], false, cs)
      | some (g, rest) =>
        let (groups, dotted, rest) := groupRun limit false rest
        (g :: groups, dotted, rest)

/-- Eight groups, or fewer on both sides of a double colon that stands for at least one. -/
def groupsLiteral (cs : List Char) : Option (List UInt16 × List Char) := do
  let (head, dotted, rest) := groupRun 8 true cs
  if head.length = 8 then return (head, rest)
  guard !dotted
  let rest ← expect ':' (← expect ':' rest)
  let (tail, _, rest) := groupRun (7 - head.length) true rest
  return (head ++ List.replicate (8 - head.length - tail.length) 0 ++ tail, rest)

/-- Reads a literal of either family. -/
def parse? (s : String) : Option IpAddress :=
  match dottedLiteral s.toList with
  | some ((a, b, c, d), []) => some (.v4 a b c d)
  | _ =>
    match groupsLiteral s.toList with
    | some (groups, []) =>
      if h : groups.toArray.size = 8 then some (.v6 ⟨groups.toArray, h⟩) else none
    | _ => none

end IpAddress

/-- What a socket connects to. -/
structure SocketAddress where
  ip : IpAddress
  port : UInt16
deriving DecidableEq, Repr

namespace SocketAddress

def family (a : SocketAddress) : Family := a.ip.family

/-- Address and port, with brackets where the address holds colons. -/
def text (a : SocketAddress) : String :=
  match a.ip with
  | .v4 .. => s!"{a.ip.text}:{a.port.toNat}"
  | .v6 _ => s!"[{a.ip.text}]:{a.port.toNat}"

end SocketAddress

end Mailwire
