import Mailwire.Json.Error

/-!
# Reading JSON

Readers take what they read off the front of a text and answer the rest, which is always shorter.
What is read is checked as it is met, so of two faults the first in the text is reported. A value
that nobody asked for is skipped; skipping is laxer than reading in two respects: escaped halves
of a surrogate pair may stand alone, and a number may have any size.
-/

namespace Mailwire.Json

/-- What was read off the front of a text, and the rest. -/
structure Parsed (α : Type) (cs : List Char) where
  value : α
  rest : List Char
  shorter : rest.length < cs.length

namespace Parsed

variable {α β : Type} {cs cs' : List Char}

/-- The same rest of a longer text. -/
def widen (p : Parsed α cs') (h : cs'.length ≤ cs.length) : Parsed α cs :=
  ⟨p.value, p.rest, Nat.lt_of_lt_of_le p.shorter h⟩

def map (f : α → β) (p : Parsed α cs) : Parsed β cs := ⟨f p.value, p.rest, p.shorter⟩

def andThen (p : Parsed α cs) (q : Parsed β p.rest) : Parsed β cs :=
  q.widen (Nat.le_of_lt p.shorter)

end Parsed

/-- Reads something off the front of a text. -/
abbrev Reader (α : Type) : Type := (cs : List Char) → Except ReadError (Parsed α cs)

/-! ### Blanks and marks -/

/-- The characters that may stand between any two marks. -/
def isBlank (c : Char) : Bool := c == ' ' || c == '\n' || c == '\t' || c == '\r'

/-- A text without the blanks it begins with. -/
def skipBlank (cs : List Char) : List Char := cs.dropWhile isBlank

theorem skipBlank_length_le (cs : List Char) : (skipBlank cs).length ≤ cs.length :=
  (List.dropWhile_suffix isBlank).length_le

def mark (c : Char) : Reader Unit := fun cs =>
  match h : skipBlank cs with
  | [] => .error .tooShort
  | d :: rest =>
    if d = c then
      .ok ⟨(), rest, by
        have := skipBlank_length_le cs
        rw [h] at this
        exact Nat.lt_of_succ_le (by simpa using this)⟩
    else .error .malformed

/-- Reads the rest of a word whose first character was read. -/
def word (w : List Char) (cs : List Char) : Except ReadError (List Char) :=
  match w, cs with
  | [], cs => .ok cs
  | _ :: _, [] => .error .tooShort
  | c :: w, d :: cs => if c = d then word w cs else .error .malformed

/-! ### Strings -/

/-- What a string is read for. -/
inductive Purpose
  | keep
  | skip
deriving DecidableEq, Repr

def hexValue? (c : Char) : Option Nat :=
  if '0' ≤ c ∧ c ≤ '9' then some (c.toNat - '0'.toNat)
  else if 'a' ≤ c ∧ c ≤ 'f' then some (c.toNat - 'a'.toNat + 10)
  else if 'A' ≤ c ∧ c ≤ 'F' then some (c.toNat - 'A'.toNat + 10)
  else none

/-- Reads four hexadecimal digits. A text of fewer than four octets is too short, whatever is in
it. -/
def hexFour (cs : List Char) : Except ReadError (Nat × List Char) :=
  if (cs.take 4).foldr (fun c n => c.utf8Size + n) 0 < 4 then .error .tooShort
  else
    match cs with
    | a :: b :: c :: d :: rest =>
      match hexValue? a, hexValue? b, hexValue? c, hexValue? d with
      | some a, some b, some c, some d => .ok (((a * 16 + b) * 16 + c) * 16 + d, rest)
      | _, _, _, _ => .error .malformed
    | _ => .error .malformed

/-- The first half of a surrogate pair. -/
def isLeading (n : Nat) : Bool := 0xd800 ≤ n && n < 0xdc00

/-- The second half of a surrogate pair. -/
def isTrailing (n : Nat) : Bool := 0xdc00 ≤ n && n < 0xe000

/-- Reads the second half of the surrogate pair that begins with `lead`. -/
def trailing (lead : Nat) (cs : List Char) : Except ReadError (Char × List Char) := do
  let (n, rest) ← hexFour (← word ['\\', 'u'] cs)
  if isTrailing n then
    return (Char.ofNat (0x10000 + (lead - 0xd800) * 0x400 + (n - 0xdc00)), rest)
  else throw .malformed

/-- The character that a letter behind a backslash stands for. -/
def shortEscape? : Char → Option Char
  | '"' => some '"'
  | '\\' => some '\\'
  | '/' => some '/'
  | 'b' => some '\x08'
  | 'f' => some '\x0c'
  | 'n' => some '\n'
  | 'r' => some '\r'
  | 't' => some '\t'
  | _ => none

def escape (purpose : Purpose) : List Char → Except ReadError (Char × List Char)
  | [] => .error .tooShort
  | c :: cs =>
    if c = 'u' then do
      let (n, rest) ← hexFour cs
      if purpose = .keep ∧ isTrailing n then throw .malformed
      else if purpose = .keep ∧ isLeading n then trailing n rest
      else return (Char.ofNat n, rest)
    else
      match shortEscape? c with
      | some c => .ok (c, cs)
      | none => .error .malformed

theorem hexFour_length_lt {cs rest : List Char} {n : Nat} (h : hexFour cs = .ok (n, rest)) :
    rest.length < cs.length := by
  unfold hexFour at h
  split at h
  · simp at h
  · split at h
    · split at h
      · simp only [Except.ok.injEq, Prod.mk.injEq] at h
        simp only [← h.2, List.length_cons]
        omega
      · simp at h
    · simp at h

theorem word_length_le {w cs rest : List Char} (h : word w cs = .ok rest) :
    rest.length ≤ cs.length := by
  fun_induction word w cs with
  | case1 => simp only [Except.ok.injEq] at h; simp [h]
  | case2 => simp at h
  | case3 w d cs ih => exact Nat.le_trans (ih h) (by simp)
  | case4 => simp at h

theorem trailing_length_lt {lead : Nat} {cs rest : List Char} {c : Char}
    (h : trailing lead cs = .ok (c, rest)) : rest.length < cs.length := by
  rw [trailing] at h
  cases hword : word ['\\', 'u'] cs with
  | error e => simp [bind, Except.bind, hword] at h
  | ok left =>
    have hleft := word_length_le hword
    cases hhex : hexFour left with
    | error e => simp [bind, Except.bind, hword, hhex] at h
    | ok p =>
      obtain ⟨n, left'⟩ := p
      have hleft' := hexFour_length_lt hhex
      simp only [bind, Except.bind, hword, hhex] at h
      by_cases htrailing : isTrailing n = true
      · rw [if_pos htrailing] at h
        obtain rfl : left' = rest := (Prod.mk.inj (Except.ok.inj h)).2
        exact Nat.lt_of_lt_of_le hleft' hleft
      · rw [if_neg htrailing] at h
        cases h

theorem escape_length_lt {purpose : Purpose} {cs rest : List Char} {c : Char}
    (h : escape purpose cs = .ok (c, rest)) : rest.length < cs.length := by
  cases cs with
  | nil => cases h
  | cons d tail =>
    rw [escape] at h
    by_cases hu : d = 'u'
    · rw [if_pos hu] at h
      cases hhex : hexFour tail with
      | error e => simp [bind, Except.bind, hhex] at h
      | ok p =>
        obtain ⟨n, left⟩ := p
        have hleft := hexFour_length_lt hhex
        simp only [bind, Except.bind, hhex] at h
        by_cases hbehind : purpose = .keep ∧ isTrailing n
        · rw [if_pos hbehind] at h
          cases h
        · rw [if_neg hbehind] at h
          by_cases hlead : purpose = .keep ∧ isLeading n
          · rw [if_pos hlead] at h
            exact Nat.lt_succ_of_lt (Nat.lt_trans (trailing_length_lt h) hleft)
          · rw [if_neg hlead] at h
            cases h
            exact Nat.lt_succ_of_lt hleft
    · rw [if_neg hu] at h
      cases hshort : shortEscape? d with
      | none => simp [hshort] at h
      | some c' =>
        simp only [hshort] at h
        cases h
        exact Nat.lt_succ_self _

/-- Reads a string up to its closing mark; `got` is what was read of it, the last first. -/
def stringOnto (purpose : Purpose) (got : List Char) (cs : List Char) :
    Except ReadError (Parsed String cs) :=
  match cs with
  | [] => .error .tooShort
  | c :: rest =>
    if c = '"' then .ok ⟨String.ofList got.reverse, rest, by simp⟩
    else if c = '\\' then
      match _h : escape purpose rest with
      | .error e => .error e
      | .ok (c, rest') =>
        (stringOnto purpose (c :: got) rest').map
          (·.widen (by have := escape_length_lt _h; simp only [List.length_cons]; omega))
    else if c < ' ' then .error .malformed
    else (stringOnto purpose (c :: got) rest).map (·.widen (by simp))
termination_by cs.length
decreasing_by
  · have := escape_length_lt _h
    simp only [List.length_cons]
    omega
  · simp

/-- Reads a string whose opening mark was read. -/
def stringBody (purpose : Purpose) : Reader String := stringOnto purpose []

/-! ### Numbers -/

def isDigit (c : Char) : Bool := '0' ≤ c && c ≤ '9'

/-- The digits that a text begins with, and the rest. -/
def digitRun (cs : List Char) : List Char × List Char :=
  (cs.takeWhile isDigit, cs.dropWhile isDigit)

theorem digitRun_length_le (cs : List Char) : (digitRun cs).2.length ≤ cs.length :=
  (List.dropWhile_suffix isDigit).length_le

/-- Integers up to this one are kept exactly. -/
def maxNatural : Nat := UInt64.size - 1

/-- Appends digits to a number as long as it stays exact. Answers the number, and how many digits
were used and how many not. -/
def gather (n : Nat) : List Char → Nat × Nat × Nat
  | [] => (n, 0, 0)
  | c :: cs =>
    let m := n * 10 + (c.toNat - '0'.toNat)
    if maxNatural < m then (n, 0, cs.length + 1)
    else
      let (n, used, unused) := gather m cs
      (n, used + 1, unused)

/-- The greatest power of ten that is held as it is. -/
def maxPowTen : Nat := 308

/-- The number nearest to `x * 10 ^ e`, computed in steps of at most `maxPowTen`, each of which is
rounded. Nothing is answered if a step is out of range. -/
def scale (x : Binary64) (e : Int) : Option Binary64 :=
  if e.natAbs ≤ maxPowTen then do
    let p ← Binary64.powTen? e.natAbs
    if 0 ≤ e then x.mul? p else x.div? p
  else if x.mantissa = 0 then some x
  else if 0 ≤ e then none
  else do
    let p ← Binary64.powTen? maxPowTen
    let y ← x.div? p
    scale y (e + maxPowTen)
termination_by e.natAbs
decreasing_by
  have : maxPowTen = 308 := rfl
  omega

/-- The fractional number `n * 10 ^ e`. -/
def fractionalNumber (minus : Bool) (n : Nat) (e : Int) : Except ReadError Number :=
  match (Binary64.ofRatio? n 1).bind (scale · e) with
  | some x => .ok (.fractional minus x)
  | none => .error .malformed

/-- Exponents up to this one are told apart. -/
def maxExponent : Nat := 0x7fffffff

/-- The number `n * 10 ^ (e ± exponent)` for an exponent given in digits. -/
def withExponent (minus : Bool) (n : Nat) (e : Int) (up : Bool) (digits : List Char) :
    Except ReadError Number :=
  let exponent := digits.foldl (fun m c => m * 10 + (c.toNat - '0'.toNat)) 0
  if maxExponent < exponent then
    if n ≠ 0 ∧ up then .error .malformed else .ok (.fractional minus ⟨0, Binary64.minExponent⟩)
  else fractionalNumber minus n (if up then e + exponent else e - exponent)

def exponentSign : List Char → Bool × List Char
  | '+' :: cs => (true, cs)
  | '-' :: cs => (false, cs)
  | cs => (true, cs)

/-- Reads what stands behind the letter of an exponent. -/
def exponentPart (minus : Bool) (n : Nat) (e : Int) (cs : List Char) :
    Except ReadError (Number × List Char) :=
  let (up, cs) := exponentSign cs
  match cs with
  | [] => .error .tooShort
  | c :: _ =>
    if isDigit c then
      let (digits, rest) := digitRun cs
      (withExponent minus n e up digits).map (·, rest)
    else .error .malformed

def isExponentMark (c : Char) : Bool := c == 'e' || c == 'E'

/-- Reads what stands behind a decimal point. -/
def fractionPart (minus : Bool) (n : Nat) (e : Int) (cs : List Char) :
    Except ReadError (Number × List Char) :=
  let (digits, rest) := digitRun cs
  if digits.isEmpty then .error (if cs.isEmpty then .tooShort else .malformed)
  else
    let (n, used, _) := gather n digits
    let e := e - used
    match rest with
    | c :: behind =>
      if isExponentMark c then exponentPart minus n e behind
      else (fractionalNumber minus n e).map (·, rest)
    | [] => (fractionalNumber minus n e).map (·, rest)

/-- Integers down to the negative of this one are kept exactly. -/
def maxNegative : Nat := 0x8000000000000000

/-- The integer `n` or `-n`. Negative integers with no room, and minus zero, are kept as fractional
numbers. -/
def integer (minus : Bool) (n : Nat) : Except ReadError Number :=
  if !minus then .ok (.natural n)
  else if 0 < n ∧ n ≤ maxNegative then .ok (.negative n)
  else fractionalNumber true n 0

/-- Reads what stands behind the digits of an integer part `n`, of which `unused` digits had no
room. -/
def afterInteger (minus : Bool) (n unused : Nat) (cs : List Char) :
    Except ReadError (Number × List Char) :=
  let plain : Except ReadError Number :=
    if unused = 0 then integer minus n else fractionalNumber minus n unused
  match cs with
  | c :: behind =>
    if c = '.' then fractionPart minus n unused behind
    else if isExponentMark c then exponentPart minus n unused behind
    else plain.map (·, cs)
  | [] => plain.map (·, cs)

/-- Reads a number behind its sign. A zero in front of other digits is refused. -/
def unsignedNumber (minus : Bool) (cs : List Char) : Except ReadError (Number × List Char) :=
  match cs with
  | [] => .error .tooShort
  | c :: rest =>
    if c = '0' then
      if (rest.head?.any isDigit) then .error .malformed else afterInteger minus 0 0 rest
    else if isDigit c then
      let (digits, rest) := digitRun cs
      let (n, _, unused) := gather 0 digits
      afterInteger minus n unused rest
    else .error .malformed

def number (cs : List Char) : Except ReadError (Number × List Char) :=
  match cs with
  | '-' :: rest => unsignedNumber true rest
  | cs => unsignedNumber false cs

/-! ### A number takes at least one character -/

theorem rest_of_map {x : Except ReadError Number} {n : Number} {rest left : List Char}
    (h : x.map (·, left) = .ok (n, rest)) : rest = left := by
  cases x with
  | error e => simp [Except.map] at h
  | ok m =>
    simp only [Except.map, Except.ok.injEq, Prod.mk.injEq] at h
    exact h.2.symm

theorem exponentSign_length_le (cs : List Char) : (exponentSign cs).2.length ≤ cs.length := by
  unfold exponentSign
  split <;> simp

theorem exponentPart_length_le {minus : Bool} {n : Nat} {e : Int} {cs rest : List Char}
    {m : Number} (h : exponentPart minus n e cs = .ok (m, rest)) : rest.length ≤ cs.length := by
  have hsign := exponentSign_length_le cs
  rw [exponentPart] at h
  rcases hcs : exponentSign cs with ⟨up, _ | ⟨c, tail⟩⟩
  · rw [hcs] at h
    cases h
  · rw [hcs] at h hsign
    by_cases hc : isDigit c = true
    · simp only [if_pos hc] at h
      rw [rest_of_map h]
      exact Nat.le_trans (digitRun_length_le _) hsign
    · simp only [if_neg hc] at h
      cases h

theorem fractionPart_length_le {minus : Bool} {n : Nat} {e : Int} {cs rest : List Char}
    {m : Number} (h : fractionPart minus n e cs = .ok (m, rest)) : rest.length ≤ cs.length := by
  have hdigits := digitRun_length_le cs
  rw [fractionPart] at h
  by_cases hnone : (digitRun cs).1.isEmpty = true
  · simp only [if_pos hnone] at h
    cases h
  · simp only [if_neg hnone] at h
    rcases hcs : (digitRun cs).2 with _ | ⟨c, behind⟩
    · simp only [hcs] at h
      rw [rest_of_map h]
      exact Nat.zero_le _
    · rw [hcs] at hdigits
      simp only [hcs] at h
      by_cases hmark : isExponentMark c = true
      · rw [if_pos hmark] at h
        exact Nat.le_trans (exponentPart_length_le h) (Nat.le_of_succ_le hdigits)
      · rw [if_neg hmark] at h
        rw [rest_of_map h]
        exact hdigits

theorem afterInteger_length_le {minus : Bool} {n unused : Nat} {cs rest : List Char}
    {m : Number} (h : afterInteger minus n unused cs = .ok (m, rest)) :
    rest.length ≤ cs.length := by
  cases cs with
  | nil => exact Nat.le_of_eq (congrArg List.length (rest_of_map h))
  | cons c behind =>
    simp only [afterInteger] at h
    by_cases hpoint : c = '.'
    · rw [if_pos hpoint] at h
      exact Nat.le_succ_of_le (fractionPart_length_le h)
    · rw [if_neg hpoint] at h
      by_cases hmark : isExponentMark c = true
      · rw [if_pos hmark] at h
        exact Nat.le_succ_of_le (exponentPart_length_le h)
      · rw [if_neg hmark] at h
        exact Nat.le_of_eq (congrArg List.length (rest_of_map h))

theorem unsignedNumber_length_lt {minus : Bool} {cs rest : List Char} {m : Number}
    (h : unsignedNumber minus cs = .ok (m, rest)) : rest.length < cs.length := by
  cases cs with
  | nil => cases h
  | cons c tail =>
    simp only [unsignedNumber] at h
    by_cases hzero : c = '0'
    · rw [if_pos hzero] at h
      by_cases hmore : tail.head?.any isDigit = true
      · rw [if_pos hmore] at h
        cases h
      · rw [if_neg hmore] at h
        exact Nat.lt_succ_of_le (afterInteger_length_le h)
    · rw [if_neg hzero] at h
      by_cases hc : isDigit c = true
      · rw [if_pos hc] at h
        have hle := afterInteger_length_le h
        have hrun : (digitRun (c :: tail)).2.length ≤ tail.length := by
          simp only [digitRun, List.dropWhile_cons, hc, if_true]
          exact (List.dropWhile_suffix isDigit).length_le
        exact Nat.lt_succ_of_le (Nat.le_trans hle hrun)
      · rw [if_neg hc] at h
        cases h

theorem number_length_lt {cs rest : List Char} {m : Number}
    (h : number cs = .ok (m, rest)) : rest.length < cs.length := by
  unfold number at h
  split at h
  · exact Nat.lt_trans (unsignedNumber_length_lt h) (by simp)
  · exact unsignedNumber_length_lt h

end Mailwire.Json
