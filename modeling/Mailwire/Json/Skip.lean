import Mailwire.Json.Reader

/-!
# Skipping JSON

A value that nobody asked for is passed over without being kept. The brackets that are open are
held in a list, so values may be nested to any depth.
-/

namespace Mailwire.Json

/-! ### Numbers -/

def skipDigits (cs : List Char) : Except ReadError (List Char) :=
  let (digits, rest) := digitRun cs
  if digits.isEmpty then .error .malformed else .ok rest

/-- Passes over the exponent that may follow. -/
def skipExponent (cs : List Char) : Except ReadError (List Char) :=
  match cs with
  | c :: rest => if isExponentMark c then skipDigits (exponentSign rest).2 else .ok cs
  | [] => .ok []

/-- Passes over the fraction and the exponent that may follow. -/
def skipFraction (cs : List Char) : Except ReadError (List Char) :=
  match cs with
  | c :: rest => if c = '.' then (skipDigits rest).bind skipExponent else skipExponent cs
  | [] => .ok []

def skipUnsigned (cs : List Char) : Except ReadError (List Char) :=
  match cs with
  | [] => .error .malformed
  | c :: rest =>
    if c = '0' then
      if rest.head?.any isDigit then .error .malformed else skipFraction rest
    else if isDigit c then skipFraction (digitRun rest).2
    else .error .malformed

/-! ### Each step takes something -/

theorem skipDigits_length_le {cs rest : List Char} (h : skipDigits cs = .ok rest) :
    rest.length ≤ cs.length := by
  rw [skipDigits] at h
  dsimp only at h
  split at h
  · simp at h
  · simp only [Except.ok.injEq] at h
    rw [← h]
    exact digitRun_length_le cs

theorem skipExponent_length_le {cs rest : List Char} (h : skipExponent cs = .ok rest) :
    rest.length ≤ cs.length := by
  cases cs with
  | nil =>
    cases h
    exact Nat.le_refl _
  | cons c tail =>
    rw [skipExponent] at h
    by_cases hmark : isExponentMark c = true
    · rw [if_pos hmark] at h
      exact Nat.le_succ_of_le
        (Nat.le_trans (skipDigits_length_le h) (exponentSign_length_le tail))
    · rw [if_neg hmark] at h
      cases h
      exact Nat.le_refl _

theorem skipFraction_length_le {cs rest : List Char} (h : skipFraction cs = .ok rest) :
    rest.length ≤ cs.length := by
  cases cs with
  | nil =>
    cases h
    exact Nat.le_refl _
  | cons c tail =>
    rw [skipFraction] at h
    by_cases hpoint : c = '.'
    · rw [if_pos hpoint] at h
      cases hdigits : skipDigits tail with
      | error e =>
        rw [hdigits] at h
        cases h
      | ok left =>
        rw [hdigits] at h
        have hleft := skipExponent_length_le (show skipExponent left = .ok rest from h)
        exact Nat.le_succ_of_le (Nat.le_trans hleft (skipDigits_length_le hdigits))
    · rw [if_neg hpoint] at h
      exact skipExponent_length_le h

theorem skipUnsigned_length_lt {cs rest : List Char} (h : skipUnsigned cs = .ok rest) :
    rest.length < cs.length := by
  cases cs with
  | nil => cases h
  | cons c tail =>
    rw [skipUnsigned] at h
    by_cases hzero : c = '0'
    · rw [if_pos hzero] at h
      by_cases hmore : tail.head?.any isDigit = true
      · rw [if_pos hmore] at h
        cases h
      · rw [if_neg hmore] at h
        exact Nat.lt_succ_of_le (skipFraction_length_le h)
    · rw [if_neg hzero] at h
      by_cases hc : isDigit c = true
      · rw [if_pos hc] at h
        exact Nat.lt_succ_of_le
          (Nat.le_trans (skipFraction_length_le h) (digitRun_length_le tail))
      · rw [if_neg hc] at h
        cases h

/-! ### Values -/

/-- The word that begins with a character, without that character. -/
def wordBehind? (c : Char) : Option (List Char) :=
  if c = 'n' then some ['u', 'l', 'l']
  else if c = 't' then some ['r', 'u', 'e']
  else if c = 'f' then some ['a', 'l', 's', 'e']
  else none

/-- Passes over a value that holds no others; `c` is its first character. -/
def skipScalar (c : Char) (cs : List Char) : Except ReadError (List Char) :=
  match wordBehind? c with
  | some w => word w cs
  | none =>
    if c = '"' then (stringBody .skip cs).map (·.rest)
    else if c = '-' then skipUnsigned cs
    else skipUnsigned (c :: cs)

theorem skipScalar_length_le {c : Char} {cs rest : List Char}
    (h : skipScalar c cs = .ok rest) : rest.length ≤ cs.length := by
  rw [skipScalar] at h
  split at h
  · exact word_length_le h
  · split at h
    · cases hs : stringBody .skip cs with
      | error e => rw [hs] at h; simp [Except.map] at h
      | ok p =>
        rw [hs] at h
        simp only [Except.map, Except.ok.injEq] at h
        rw [← h]
        exact Nat.le_of_lt p.shorter
    · split at h
      · exact Nat.le_of_lt (skipUnsigned_length_lt h)
      · exact Nat.le_of_lt_succ (skipUnsigned_length_lt h)

/-- A kind of brackets. -/
inductive Bracket
  | array
  | object
deriving DecidableEq, Repr

namespace Bracket

def opening : Bracket → Char
  | .array => '['
  | .object => '\x7b'

def closing : Bracket → Char
  | .array => ']'
  | .object => '\x7d'

end Bracket

/-- What may come next while values are passed over. -/
inductive Expected
  | value
  /-- A member or the end of brackets that have just been opened. -/
  | first
  /-- A comma or the end of brackets. -/
  | next
  | key
deriving DecidableEq, Repr

namespace Expected

/-- What has to follow a comma between brackets. -/
def behindComma : Bracket → Expected
  | .array => .value
  | .object => .key

/-- Looking at the first member takes nothing, so it has to come before looking at a value. -/
def rank : Expected → Nat
  | .first => 1
  | _ => 0

end Expected

theorem behindComma_rank (b : Bracket) : (Expected.behindComma b).rank = 0 := by
  cases b <;> rfl

/-- Passes over the rest of a value; `opened` are the brackets around the place. -/
def skipRest (opened : List Bracket) (expected : Expected) (cs : List Char) :
    Except ReadError (List Char) :=
  match hcs : skipBlank cs with
  | [] => .error .tooShort
  | c :: rest =>
    have hlt : rest.length < cs.length := by
      have := skipBlank_length_le cs
      rw [hcs] at this
      exact Nat.lt_of_succ_le (by simpa using this)
    match expected with
    | .value =>
      if c = '[' then skipRest (.array :: opened) .first rest
      else if c = '\x7b' then skipRest (.object :: opened) .first rest
      else
        match _h : skipScalar c rest with
        | .error e => .error e
        | .ok rest' => if opened.isEmpty then .ok rest' else skipRest opened .next rest'
    | .key =>
      if c = '"' then
        match stringBody .skip rest with
        | .error e => .error e
        | .ok p =>
          match mark ':' p.rest with
          | .error e => .error e
          | .ok q => skipRest opened .value q.rest
      else .error .malformed
    | .first =>
      match opened with
      | [] => .error .malformed
      | b :: outer =>
        if c = b.closing then if outer.isEmpty then .ok rest else skipRest outer .next rest
        else skipRest opened (Expected.behindComma b) cs
    | .next =>
      match opened with
      | [] => .error .malformed
      | b :: outer =>
        if c = b.closing then if outer.isEmpty then .ok rest else skipRest outer .next rest
        else if c = ',' then skipRest opened (Expected.behindComma b) rest
        else .error .malformed
termination_by (cs.length, expected.rank)
decreasing_by
  · exact Prod.Lex.left _ _ hlt
  · exact Prod.Lex.left _ _ hlt
  · exact Prod.Lex.left _ _ (Nat.lt_of_le_of_lt (skipScalar_length_le _h) hlt)
  · exact Prod.Lex.left _ _ (Nat.lt_trans q.shorter (Nat.lt_trans p.shorter hlt))
  · exact Prod.Lex.left _ _ hlt
  · rw [behindComma_rank]
    exact Prod.Lex.right _ (by decide)
  · exact Prod.Lex.left _ _ hlt
  · exact Prod.Lex.left _ _ hlt

theorem skipRest_length_lt {opened : List Bracket} {expected : Expected} {cs rest : List Char}
    (h : skipRest opened expected cs = .ok rest) : rest.length < cs.length := by
  fun_induction skipRest opened expected cs
  case case2 hlt ih => exact Nat.lt_trans (ih h) hlt
  case case3 hlt _ ih => exact Nat.lt_trans (ih h) hlt
  case case5 hlt _ _ _ hscalar _ =>
    cases h
    exact Nat.lt_of_le_of_lt (skipScalar_length_le hscalar) hlt
  case case6 hlt _ _ _ hscalar _ ih =>
    exact Nat.lt_trans (ih h) (Nat.lt_of_le_of_lt (skipScalar_length_le hscalar) hlt)
  case case9 p _ q _ _ hlt ih =>
    exact Nat.lt_trans (ih h) (Nat.lt_trans q.shorter (Nat.lt_trans p.shorter hlt))
  case case12 hlt => cases h; exact hlt
  case case13 hlt ih => exact Nat.lt_trans (ih h) hlt
  case case14 ih => exact ih h
  case case16 hlt => cases h; exact hlt
  case case17 hlt ih => exact Nat.lt_trans (ih h) hlt
  case case18 hlt _ ih => exact Nat.lt_trans (ih h) hlt
  all_goals cases h

def skipValue : Reader Unit := fun cs =>
  match _h : skipRest [] .value cs with
  | .error e => .error e
  | .ok rest => .ok ⟨(), rest, skipRest_length_lt _h⟩

end Mailwire.Json
