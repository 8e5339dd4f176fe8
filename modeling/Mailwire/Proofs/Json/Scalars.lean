import Mailwire.Json.Printer
import Mailwire.Json.Value
import Mailwire.Proofs.Json.Grammar

/-!
# Reading strings and numbers that were written

A reader takes what was written off a text, whatever follows, and answers the value (`Json.Takes`). For
a number something has to follow that does not go on with it. In an object this is a comma or the
closing bracket (`Json.Delimited`).

A string is followed character by character: each is written as itself or as an escape that is read as
this character (`Json.escapeChar_cases`).
-/

namespace Mailwire.Json

/-- With this rest behind it, the reader takes `front` off a text and reads `a`. -/
def Takes {α : Type} (reader : Reader α) (front : List Char) (a : α) (rest : List Char) : Prop :=
  ∃ h, reader (front ++ rest) = .ok ⟨a, rest, h⟩

/-- A comma or the end of an object comes next. -/
def Delimited (rest : List Char) : Prop :=
  ∃ c behind, rest = c :: behind ∧ (c = ',' ∨ c = Bracket.object.closing)

lemma Takes.map {α β : Type} {reader : Reader α} {front rest : List Char} {a : α}
    (h : Takes reader front a rest) (g : α → β) :
    Takes (fun cs => (reader cs).map fun p => p.map g) front (g a) rest := by
  obtain ⟨hlt, hread⟩ := h
  refine ⟨hlt, ?_⟩
  dsimp only
  rw [hread]
  rfl

/-- What a reader takes off a text, and what it leaves. -/
def taken {α : Type} (reader : Reader α) (cs : List Char) : Except ReadError (α × List Char) :=
  (reader cs).map fun p => (p.value, p.rest)

lemma taken_eq_ok {α : Type} {reader : Reader α} {cs rest : List Char} {a : α} :
    taken reader cs = .ok (a, rest) ↔ ∃ p, reader cs = .ok p ∧ p.value = a ∧ p.rest = rest := by
  rw [taken]
  cases reader cs with
  | error e => simp [Except.map]
  | ok p => simp [Except.map]

lemma takes_iff {α : Type} {reader : Reader α} {front rest : List Char} {a : α} :
    Takes reader front a rest ↔ taken reader (front ++ rest) = .ok (a, rest) := by
  rw [taken_eq_ok]
  constructor
  · rintro ⟨hlt, hread⟩
    exact ⟨_, hread, rfl, rfl⟩
  · rintro ⟨⟨value, behind, hlt⟩, hread, hvalue, hrest⟩
    dsimp only at hvalue hrest
    subst hvalue hrest
    exact ⟨hlt, hread⟩

lemma map_widen {α : Type} {cs cs' : List Char} (x : Except ReadError (Parsed α cs'))
    (h : cs'.length ≤ cs.length) :
    (x.map (·.widen h)).map (fun p => (p.value, p.rest)) = x.map fun p => (p.value, p.rest) := by
  cases x <;> rfl

lemma skipBlank_cons {c : Char} (h : isBlank c = false) (cs : List Char) :
    skipBlank (c :: cs) = c :: cs := by
  rw [skipBlank, List.dropWhile_cons, h]
  rfl

lemma mark_cons {c : Char} (h : isBlank c = false) (rest : List Char) :
    mark c (c :: rest) = .ok ⟨(), rest, Nat.lt_succ_self _⟩ := by
  rw [mark]
  split
  next hnil => rw [skipBlank_cons h] at hnil; cases hnil
  next d behind hcons =>
    rw [skipBlank_cons h] at hcons
    cases hcons
    rw [if_pos rfl]

/-! ### Strings -/

lemma hexValue?_digitChar {d : Nat} (h : d < 16) : hexValue? (Nat.digitChar d) = some d := by
  interval_cases d <;> rfl

lemma utf8Size_digitChar {d : Nat} (h : d < 16) : (Nat.digitChar d).utf8Size = 1 := by
  interval_cases d <;> rfl

/-- A control character is read from its number. -/
lemma escape_number {c : Char} (h : c < ' ') (more : List Char) :
    escape .keep ('u' :: '0' :: '0' :: Nat.digitChar (c.toNat / 16)
        :: Nat.digitChar (c.toNat % 16) :: more) = .ok (c, more) := by
  have hsmall : c.toNat < 32 := h
  have hhigh : c.toNat / 16 < 16 := by omega
  have hlow : c.toNat % 16 < 16 := Nat.mod_lt _ (by decide)
  have hvalue : ((0 * 16 + 0) * 16 + c.toNat / 16) * 16 + c.toNat % 16 = c.toNat := by omega
  have hhex : hexFour ('0' :: '0' :: Nat.digitChar (c.toNat / 16) :: Nat.digitChar (c.toNat % 16)
      :: more) = .ok (c.toNat, more) := by
    have hzero : hexValue? '0' = some 0 := rfl
    have hlength : ('0' : Char).utf8Size = 1 := rfl
    rw [hexFour]
    simp only [List.take_succ_cons, List.take_zero, List.foldr_cons, List.foldr_nil, hzero, hlength,
      hexValue?_digitChar hhigh, hexValue?_digitChar hlow, utf8Size_digitChar hhigh,
      utf8Size_digitChar hlow, hvalue]
    rfl
  have htrailing : isTrailing c.toNat = false := by
    simp only [isTrailing, Bool.and_eq_false_iff, decide_eq_false_iff_not]
    omega
  have hleading : isLeading c.toNat = false := by
    simp only [isLeading, Bool.and_eq_false_iff, decide_eq_false_iff_not]
    omega
  rw [escape, if_pos rfl, hhex]
  simp [bind, Except.bind, htrailing, hleading, pure, Except.pure, Char.ofNat_toNat]

/-- A character is written as itself, or as an escape that is read as this character. -/
lemma escapeChar_cases (c : Char) :
    (escapeChar c = [c] ∧ c ≠ '"' ∧ c ≠ '\\' ∧ ¬ c < ' ') ∨
      ∃ body, escapeChar c = '\\' :: body ∧
        ∀ more, escape .keep (body ++ more) = .ok (c, more) := by
  have hshort : ∀ {x : Char}, shortEscape? x = some c → x ≠ 'u' →
      ∀ more, escape .keep ([x] ++ more) = .ok (c, more) := by
    intro x hx hu more
    rw [List.singleton_append, escape, if_neg hu, hx]
  rw [escapeChar]
  split_ifs with hquote hbackslash hb hf hn hr ht hcontrol
  · exact Or.inr ⟨_, rfl, hshort (by rw [hquote]; rfl) (by decide)⟩
  · exact Or.inr ⟨_, rfl, hshort (by rw [hbackslash]; rfl) (by decide)⟩
  · exact Or.inr ⟨_, rfl, hshort (by rw [hb]; rfl) (by decide)⟩
  · exact Or.inr ⟨_, rfl, hshort (by rw [hf]; rfl) (by decide)⟩
  · exact Or.inr ⟨_, rfl, hshort (by rw [hn]; rfl) (by decide)⟩
  · exact Or.inr ⟨_, rfl, hshort (by rw [hr]; rfl) (by decide)⟩
  · exact Or.inr ⟨_, rfl, hshort (by rw [ht]; rfl) (by decide)⟩
  · exact Or.inr ⟨_, rfl, escape_number hcontrol⟩
  · exact Or.inl ⟨rfl, hquote, hbackslash, hcontrol⟩

/-- The rest of a string is read character by character, up to its closing mark. -/
lemma stringOnto_escaped (got cs rest : List Char) :
    ∃ h, stringOnto .keep got (cs.flatMap escapeChar ++ '"' :: rest)
      = .ok ⟨String.ofList (got.reverse ++ cs), rest, h⟩ := by
  induction cs generalizing got with
  | nil =>
    rw [List.flatMap_nil, List.nil_append, List.append_nil]
    refine ⟨Nat.lt_succ_self _, ?_⟩
    rw [stringOnto, if_pos rfl]
  | cons c cs ih =>
    obtain ⟨hlt, hread⟩ := ih (c :: got)
    have hall : (c :: got).reverse ++ cs = got.reverse ++ c :: cs := by simp
    rw [hall] at hread
    rw [List.flatMap_cons]
    rcases escapeChar_cases c with ⟨hplain, hquote, hbackslash, hcontrol⟩ | ⟨body, hbody, hescape⟩
    · rw [hplain, List.singleton_append, List.cons_append]
      refine ⟨Nat.lt_succ_of_lt hlt, ?_⟩
      rw [stringOnto, if_neg hquote, if_neg hbackslash, if_neg hcontrol, hread]
      rfl
    · rw [hbody, List.cons_append, List.cons_append, List.append_assoc]
      refine ⟨?_, ?_⟩
      · have hbehind := (List.suffix_append body (cs.flatMap escapeChar ++ '"' :: rest)).length_le
        exact Nat.lt_succ_of_lt (Nat.lt_of_lt_of_le hlt hbehind)
      · rw [stringOnto, if_neg (by decide), if_pos rfl]
        split
        next e herror => rw [hescape] at herror; cases herror
        next c' rest' hok =>
          rw [hescape] at hok
          cases hok
          rw [hread]
          rfl

lemma takes_stringBody (s : String) (rest : List Char) :
    Takes (stringBody .keep) (s.toList.flatMap escapeChar ++ ['"']) s rest := by
  obtain ⟨hlt, hread⟩ := stringOnto_escaped [] s.toList rest
  rw [List.reverse_nil, List.nil_append, String.ofList_toList] at hread
  rw [Takes, List.append_assoc]
  exact ⟨hlt, hread⟩

lemma taken_string {cs behind : List Char} (h : skipBlank cs = '"' :: behind) :
    taken string cs = taken (stringBody .keep) behind := by
  rw [taken, string]
  split
  next hnil => rw [h] at hnil; cases hnil
  next c rest hcons =>
    rw [h] at hcons
    cases hcons
    rw [if_pos rfl, map_widen]
    rfl

/-- A string is read as it was written, whatever characters it has. -/
theorem takes_string (s : String) (rest : List Char) : Takes string (printString s) s rest := by
  have hquote : skipBlank (printString s ++ rest)
      = '"' :: (s.toList.flatMap escapeChar ++ ['"'] ++ rest) := skipBlank_cons rfl _
  rw [takes_iff, taken_string hquote]
  exact takes_iff.mp (takes_stringBody s rest)

/-! ### Numbers -/

lemma isDigit_of_mem_toDigits {n : Nat} {c : Char} (h : c ∈ Nat.toDigits 10 n) :
    isDigit c = true := by
  have hdigit := Nat.isDigit_of_mem_toDigits (by decide) (by decide) h
  rw [Char.isDigit, Bool.and_eq_true, decide_eq_true_eq, decide_eq_true_eq] at hdigit
  rw [isDigit, Bool.and_eq_true, decide_eq_true_eq, decide_eq_true_eq]
  exact hdigit

/-- Only zero is written with a zero in front. -/
lemma head_toDigits_ne_zero {n : Nat} (hn : 0 < n) {c : Char} {more : List Char}
    (h : Nat.toDigits 10 n = c :: more) : c ≠ '0' := by
  induction n using Nat.strong_induction_on generalizing more with
  | _ n ih =>
    rw [Nat.toDigits_eq_if (by decide)] at h
    split_ifs at h with hsmall
    · obtain ⟨rfl, -⟩ := List.cons.inj h
      interval_cases n <;> decide
    · obtain ⟨d, front, hfront⟩ := List.exists_cons_of_ne_nil
        (Nat.toDigits_ne_nil (n := n / 10) (b := 10))
      rw [hfront, List.cons_append] at h
      obtain ⟨rfl, -⟩ := List.cons.inj h
      exact ih (n / 10) (by omega) (by omega) hfront

lemma le_ofDigitChars (n : Nat) (cs : List Char) : n ≤ Nat.ofDigitChars 10 cs n := by
  rw [Nat.ofDigitChars_eq_ofDigitChars_zero]
  have hone : 1 ≤ 10 ^ cs.length := Nat.one_le_pow _ _ (by decide)
  exact Nat.le_trans (Nat.le_mul_of_pos_left n hone) (Nat.le_add_right _ _)

/-- Digits are gathered to the number that they are, if there is room for it. -/
lemma gather_eq {n : Nat} {cs : List Char} (h : Nat.ofDigitChars 10 cs n ≤ maxNatural) :
    gather n cs = (Nat.ofDigitChars 10 cs n, cs.length, 0) := by
  induction cs generalizing n with
  | nil => rfl
  | cons c cs ih =>
    rw [Nat.ofDigitChars_cons, Nat.mul_comm] at h ⊢
    have hroom := Nat.le_trans (le_ofDigitChars _ cs) h
    rw [gather]
    dsimp only
    rw [if_neg (Nat.not_lt.mpr hroom), ih h]
    rfl

/-- No digit, point or exponent comes next. -/
lemma Delimited.apart {rest : List Char} (h : Delimited rest) : Apart rest := by
  obtain ⟨c, behind, rfl, rfl | rfl⟩ := h
  · exact .cons (by decide) behind
  · exact .cons (by decide) behind

lemma Apart.not_digit {rest : List Char} (h : Apart rest) : ∀ c ∈ rest.head?, isDigit c = false :=
  fun c hc => (h c hc).1

lemma afterInteger_apart (n : Nat) {rest : List Char} (h : Apart rest) :
    afterInteger false n 0 rest = .ok (.natural n, rest) := by
  cases rest with
  | nil => rfl
  | cons c behind =>
    obtain ⟨-, hpoint, hexponent⟩ := h c rfl
    rw [afterInteger, if_neg hpoint, hexponent]
    rfl

lemma digitRun_append {digits rest : List Char} (h : ∀ c ∈ digits, isDigit c = true)
    (hrest : ∀ c ∈ rest.head?, isDigit c = false) : digitRun (digits ++ rest) = (digits, rest) := by
  induction digits with
  | nil =>
    cases rest with
    | nil => rfl
    | cons c rest => simp [digitRun, hrest c rfl]
  | cons d digits ih =>
    obtain ⟨hd, hdigits⟩ := List.forall_mem_cons.mp h
    have hrun := Prod.mk.inj (ih hdigits)
    rw [digitRun, List.cons_append, List.takeWhile_cons, List.dropWhile_cons, hd]
    exact Prod.ext (congrArg (d :: ·) hrun.1) hrun.2

/-- The digits of an integer part are gathered, and then what stands behind them is looked at. -/
lemma unsignedNumber_whole (minus : Bool) {whole : List Char} (h : IsInteger whole) {tail : List Char}
    (htail : ∀ c ∈ tail.head?, isDigit c = false) :
    unsignedNumber minus (whole ++ tail)
      = afterInteger minus (gather 0 whole).1 (gather 0 whole).2.2 tail := by
  cases h with
  | zero =>
    have hzero : tail.head?.any isDigit = false := by
      cases tail with
      | nil => rfl
      | cons c tail => simpa using htail c rfl
    rw [List.singleton_append, unsignedNumber, if_pos rfl, hzero]
    rfl
  | @digits c more hzero hall =>
    rw [List.cons_append, unsignedNumber, if_neg hzero, if_pos (hall c List.mem_cons_self),
      ← List.cons_append, digitRun_append hall htail]

lemma IsInteger.cons {whole : List Char} (h : IsInteger whole) :
    ∃ c more, whole = c :: more ∧ isDigit c = true := by
  cases h with
  | zero => exact ⟨_, _, rfl, rfl⟩
  | digits _ hall => exact ⟨_, _, rfl, hall _ List.mem_cons_self⟩

/-- A number that begins with a digit has no sign. -/
lemma number_of_isDigit {c : Char} (h : isDigit c = true) (more : List Char) :
    number (c :: more) = unsignedNumber false (c :: more) := by
  rw [number]
  rintro cs heq
  cases heq
  exact absurd h (by decide)

lemma isInteger_toDigits (n : Nat) : IsInteger (Nat.toDigits 10 n) := by
  rcases Nat.eq_zero_or_pos n with rfl | hpos
  · exact .zero
  · obtain ⟨c, more, hdigits⟩ := List.exists_cons_of_ne_nil (Nat.toDigits_ne_nil (n := n) (b := 10))
    have hall : ∀ c ∈ Nat.toDigits 10 n, isDigit c = true := fun c => isDigit_of_mem_toDigits
    rw [hdigits] at hall ⊢
    exact .digits (head_toDigits_ne_zero hpos hdigits) hall

/-- The digits of a number that there is room for are read as this number. -/
lemma number_toDigits {n : Nat} (hn : n ≤ maxNatural) {rest : List Char} (hrest : Apart rest) :
    number (Nat.toDigits 10 n ++ rest) = .ok (.natural n, rest) := by
  have hinteger := isInteger_toDigits n
  have hvalue : Nat.ofDigitChars 10 (Nat.toDigits 10 n) 0 = n := Nat.ofDigitChars_ten_toDigits
  have hgather : gather 0 (Nat.toDigits 10 n) = (n, (Nat.toDigits 10 n).length, 0) := by
    rw [gather_eq (by rwa [hvalue]), hvalue]
  have hwhole := unsignedNumber_whole false hinteger hrest.not_digit
  obtain ⟨c, more, hdigits, hc⟩ := hinteger.cons
  rw [hgather, afterInteger_apart n hrest] at hwhole
  rw [hdigits, List.cons_append] at hwhole ⊢
  rw [number_of_isDigit hc, hwhole]

lemma isBlank_of_isDigit {c : Char} (h : isDigit c = true) : isBlank c = false := by
  have hblank : isBlank c = true → isDigit c = false := by
    simp only [isBlank, Bool.or_eq_true, beq_iff_eq]
    rintro (((rfl | rfl) | rfl) | rfl) <;> decide
  by_contra hnot
  rw [Bool.not_eq_false] at hnot
  rw [hblank hnot] at h
  cases h

lemma taken_natural {cs more rest : List Char} {c : Char} {n bound : Nat} {expected : String}
    (h : skipBlank cs = c :: more) (hc : c = '-' ∨ isDigit c = true)
    (hread : number (c :: more) = .ok (.natural n, rest)) (hn : n < bound) :
    taken (natural bound expected) cs = .ok (n, rest) := by
  have hfits : (Number.natural n).toNat? bound expected = .ok n := if_pos hn
  rw [taken, natural]
  split
  next hnil => rw [h] at hnil; cases hnil
  next d behind hcons =>
    rw [h] at hcons
    cases hcons
    rw [if_pos hc]
    split
    next e herror => rw [hread] at herror; cases herror
    next m behind hok =>
      rw [hread] at hok
      cases hok
      split
      next misfit hmisfit => rw [hfits] at hmisfit; cases hmisfit
      next value hvalue =>
        rw [hfits] at hvalue
        cases hvalue
        rfl

/-- A number is read as it was written, if it is below the bound. -/
theorem takes_natural {n bound : Nat} (hn : n < bound) (hbound : bound ≤ UInt64.size)
    (expected : String) {rest : List Char} (hrest : Delimited rest) :
    Takes (natural bound expected) (printNatural n) n rest := by
  have hroom : n ≤ maxNatural := Nat.le_sub_one_of_lt (Nat.lt_of_lt_of_le hn hbound)
  have hnumber := number_toDigits hroom hrest.apart
  obtain ⟨c, more, hdigits, hc⟩ := (isInteger_toDigits n).cons
  have hblank : skipBlank (printNatural n ++ rest) = c :: (more ++ rest) := by
    rw [printNatural, hdigits, List.cons_append, skipBlank_cons (isBlank_of_isDigit hc)]
  rw [hdigits, List.cons_append] at hnumber
  exact takes_iff.mpr (taken_natural hblank (Or.inr hc) hnumber hn)

end Mailwire.Json
