import Mailwire.Proofs.Json.Record
import Mailwire.Proofs.Json.Skipping

/-!
# Readers that take whole values

A reader of strings or of numbers that reads a value at all takes it to its end, and then reads the same
wherever the value stands (`Json.Settled`). A string is read as the text that is meant by what stands between
its marks, and if none is meant, it is not read (`Json.spells_of_taken`, `Json.Spells.taken_keep`).
-/

namespace Mailwire.Json

/-- The reader reads a value as `a`, wherever the value stands. -/
def ReadsAs {α : Type} (reader : Reader α) (v : List Char) (a : α) : Prop :=
  ∀ {before rest}, Blank before → Apart rest → taken reader (before ++ (v ++ rest)) = .ok (a, rest)

/-- If the reader reads a value anywhere, it takes all of it, and reads the same everywhere. -/
def Settled {α : Type} (reader : Reader α) : Prop :=
  ∀ {v before rest a rest'}, IsValue v → Blank before → Apart rest →
    taken reader (before ++ (v ++ rest)) = .ok (a, rest') → rest' = rest ∧ ReadsAs reader v a

variable {α β : Type}

lemma taken_map (reader : Reader α) (g : α → β) (cs : List Char) :
    taken (fun cs => (reader cs).map fun p => p.map g) cs
      = (taken reader cs).map fun (a, rest) => (g a, rest) := by
  rw [taken, taken]
  cases reader cs <;> rfl

lemma Settled.map {reader : Reader α} (h : Settled reader) (g : α → β) :
    Settled fun cs => (reader cs).map fun p => p.map g := by
  intro v before rest b rest' hv hbefore hrest hread
  rw [taken_map] at hread
  cases htaken : taken reader (before ++ (v ++ rest)) with
  | error e =>
    rw [htaken] at hread
    cases hread
  | ok p =>
    obtain ⟨a, behind⟩ := p
    rw [htaken] at hread
    cases hread
    obtain ⟨hbehind, hreads⟩ := h hv hbefore hrest htaken
    refine ⟨hbehind, ?_⟩
    intro before rest hbefore hrest
    rw [taken_map, hreads hbefore hrest]
    rfl

/-! ### What a string spells -/

lemma hexFour_sound {cs rest : List Char} {n : Nat} (h : hexFour cs = .ok (n, rest)) :
    ∃ a b c d, cs = a :: b :: c :: d :: rest ∧ Code a b c d n := by
  unfold hexFour at h
  split_ifs at h with hshort
  split at h
  next a b c d behind =>
    split at h
    next w x y z ha hb hc hd =>
      cases h
      exact ⟨a, b, c, d, rfl, w, x, y, z, ha, hb, hc, hd, rfl⟩
    next => cases h
  next => cases h

lemma word_sound {w cs rest : List Char} (h : word w cs = .ok rest) : cs = w ++ rest := by
  fun_induction word w cs with
  | case1 =>
    cases h
    rfl
  | case2 => cases h
  | case3 w d cs ih => rw [ih h, List.cons_append]
  | case4 => cases h

/-- What is read behind a backslash spells the character that is read. -/
lemma escape_sound {cs rest : List Char} {c : Char} (h : escape .keep cs = .ok (c, rest)) :
    ∃ raw, cs = raw ++ rest ∧
      ∀ {more text}, Spells more text → Spells ('\\' :: (raw ++ more)) (c :: text) := by
  cases cs with
  | nil => cases h
  | cons x cs =>
    rw [escape] at h
    split_ifs at h with hu
    · subst hu
      obtain ⟨⟨n, behind⟩, hhex, hkind⟩ := Schema.bind_eq_ok h
      obtain ⟨a, b, c, d, rfl, hn⟩ := hexFour_sound hhex
      simp only [true_and] at hkind
      split_ifs at hkind with htrailing hleading
      · rw [trailing] at hkind
        obtain ⟨low, hword, hsecond⟩ := Schema.bind_eq_ok hkind
        obtain ⟨⟨n', behind'⟩, hhex', hpair⟩ := Schema.bind_eq_ok hsecond
        obtain rfl := word_sound hword
        obtain ⟨a', b', c', d', rfl, hn'⟩ := hexFour_sound hhex'
        dsimp only at hpair
        split_ifs at hpair with htrailing'
        simp only [pure, Except.pure, Except.ok.injEq, Prod.mk.injEq] at hpair
        obtain ⟨rfl, rfl⟩ := hpair
        exact ⟨['u', a, b, c, d, '\\', 'u', a', b', c', d'], rfl, .pair hn hleading hn' htrailing'⟩
      · cases hkind
        refine ⟨['u', a, b, c, d], rfl, .code hn ?_ ?_⟩
        · simpa using hleading
        · simpa using htrailing
    · split at h
      next c' hshort =>
        cases h
        exact ⟨[x], rfl, .short hshort⟩
      next => cases h

/-- What is read as a string spells what it is read as. -/
lemma spells_of_taken {got cs rest : List Char} {s : String}
    (h : taken (stringOnto .keep got) cs = .ok (s, rest)) :
    ∃ raw text, cs = raw ++ '"' :: rest ∧ Spells raw text ∧ s = String.ofList (got.reverse ++ text) := by
  induction hlength : cs.length using Nat.strong_induction_on generalizing got cs with
  | _ length ih =>
    subst hlength
    cases cs with
    | nil =>
      rw [taken, stringOnto] at h
      cases h
    | cons c behind =>
      by_cases hquote : c = '"'
      · subst hquote
        rw [taken_string_end] at h
        cases h
        exact ⟨[], [], rfl, .nil, by rw [List.append_nil]⟩
      by_cases hbackslash : c = '\\'
      · subst hbackslash
        rw [taken_string_escape] at h
        obtain ⟨⟨c, left⟩, hescape, hleft⟩ := Schema.bind_eq_ok h
        have hshorter := escape_length_lt hescape
        obtain ⟨front, rfl, hspells⟩ := escape_sound hescape
        obtain ⟨raw, text, rfl, hraw, rfl⟩ := ih left.length (Nat.lt_succ_of_lt hshorter) hleft rfl
        exact ⟨'\\' :: (front ++ raw), c :: text, by simp, hspells hraw, by simp⟩
      by_cases hcontrol : c < ' '
      · rw [taken, stringOnto, if_neg hquote, if_neg hbackslash, if_pos hcontrol] at h
        cases h
      · have hc : Plain c := ⟨hquote, hbackslash, hcontrol⟩
        rw [taken_string_plain .keep got hc] at h
        obtain ⟨raw, text, rfl, hraw, rfl⟩ := ih behind.length (Nat.lt_succ_self _) h rfl
        exact ⟨c :: raw, c :: text, rfl, .plain hc hraw, by simp⟩

lemma escape_keep_code {a b c d : Char} {n : Nat} (h : Code a b c d n) (hleading : isLeading n = false)
    (htrailing : isTrailing n = false) (rest : List Char) :
    escape .keep ('u' :: a :: b :: c :: d :: rest) = .ok (Char.ofNat n, rest) := by
  rw [escape, if_pos rfl, hexFour_of_code h]
  simp [bind, Except.bind, hleading, htrailing, pure, Except.pure]

lemma escape_keep_pair {a b c d a' b' c' d' : Char} {n n' : Nat} (h : Code a b c d n)
    (hleading : isLeading n = true) (h' : Code a' b' c' d' n') (htrailing : isTrailing n' = true)
    (rest : List Char) :
    escape .keep ('u' :: a :: b :: c :: d :: '\\' :: 'u' :: a' :: b' :: c' :: d' :: rest)
      = .ok (Char.ofNat (0x10000 + (n - 0xd800) * 0x400 + (n' - 0xdc00)), rest) := by
  have hfirst : isTrailing n = false := by
    simp only [isLeading, isTrailing, Bool.and_eq_true, Bool.and_eq_false_iff, decide_eq_true_eq,
      decide_eq_false_iff_not] at hleading ⊢
    omega
  have hword : word ['\\', 'u'] ('\\' :: 'u' :: a' :: b' :: c' :: d' :: rest)
      = .ok (a' :: b' :: c' :: d' :: rest) := rfl
  rw [escape, if_pos rfl, hexFour_of_code h]
  simp only [bind, Except.bind, hfirst, hleading, trailing]
  rw [hword]
  simp only [hexFour_of_code h', htrailing]
  rfl

/-- A string is read as the text that it spells. -/
lemma Spells.taken_keep {raw text : List Char} (h : Spells raw text) (got rest : List Char) :
    taken (stringOnto .keep got) (raw ++ '"' :: rest)
      = .ok (String.ofList (got.reverse ++ text), rest) := by
  have hall : ∀ (c : Char) (text : List Char), got.reverse ++ c :: text = (c :: got).reverse ++ text := by
    simp
  induction h generalizing got with
  | nil =>
    rw [List.nil_append, taken_string_end, List.append_nil]
  | @plain c cs text hc _ ih =>
    rw [List.cons_append, taken_string_plain .keep got hc, hall]
    exact ih _ (by simp)
  | @short x c cs text hx _ ih =>
    rw [List.cons_append, List.cons_append, taken_string_escape, escape_short .keep hx, hall]
    exact ih _ (by simp)
  | @code a b c d n cs text hn hleading htrailing _ ih =>
    simp only [List.cons_append]
    rw [taken_string_escape, escape_keep_code hn hleading htrailing, hall]
    exact ih _ (by simp)
  | @pair a b c d a' b' c' d' n n' cs text hn hleading hn' htrailing _ ih =>
    simp only [List.cons_append]
    rw [taken_string_escape, escape_keep_pair hn hleading hn' htrailing, hall]
    exact ih _ (by simp)

/-- The closing mark of a string is found in one place only. -/
lemma Contents.spells_of_taken {raw rest rest' : List Char} {s : String} (h : Contents raw)
    (hread : taken (stringBody .keep) (raw ++ '"' :: rest) = .ok (s, rest')) :
    rest' = rest ∧ Spells raw s.toList := by
  obtain ⟨raw', text, hsplit, hspells, rfl⟩ := Json.spells_of_taken hread
  obtain ⟨s, hskip⟩ := taken_skip_contents h [] rest
  obtain ⟨s', hskip'⟩ := taken_skip_contents hspells.contents [] rest'
  rw [hsplit, hskip'] at hskip
  cases hskip
  rw [List.append_cancel_right_eq] at hsplit
  subst hsplit
  refine ⟨rfl, ?_⟩
  simpa using hspells

/-- One text at most is meant. -/
lemma Spells.unique {raw text text' : List Char} (h : Spells raw text) (h' : Spells raw text') :
    text = text' := by
  have hread := h.taken_keep [] []
  rw [h'.taken_keep [] []] at hread
  exact String.ofList_injective (Prod.mk.inj (Except.ok.inj hread)).1.symm

/-! ### What a value begins with -/

/-- The first character of a value says what kind of value it is. -/
lemma IsValue.of_cons {v more : List Char} {c : Char} (h : IsValue v) (hv : v = c :: more) :
    (c = '"' → ∃ cs, more = cs ++ ['"'] ∧ Contents cs) ∧
    (c = '-' ∨ isDigit c = true → IsNumber v) ∧
    (c = '[' → ∃ inner elements, v = arrayText inner elements ∧ Blank inner ∧
      ∀ e ∈ elements, e.Spaced ∧ IsValue e.value) ∧
    (c = '\x7b' → ∃ inner members, v = objectText inner members ∧ Blank inner ∧
      ∀ m ∈ members, m.Shaped ∧ IsValue m.value) := by
  cases h with
  | word h =>
    simp only [List.mem_cons, List.not_mem_nil, or_false] at h
    rcases h with rfl | rfl | rfl <;> cases hv <;>
      exact ⟨fun h => absurd h (by decide), fun h => absurd h (by decide),
        fun h => absurd h (by decide), fun h => absurd h (by decide)⟩
  | number h =>
    have hfirst : c ≠ '"' ∧ c ≠ '[' ∧ c ≠ '\x7b' := by
      cases h with
      | plain h =>
        obtain ⟨d, digits, hcons, hd⟩ := h.cons
        rw [hv] at hcons
        cases hcons
        obtain ⟨-, hquote, -, harray, hobject, -⟩ := wordBehind?_of_isDigit hd
        exact ⟨hquote, harray, hobject⟩
      | minus h =>
        cases hv
        decide
    exact ⟨fun h => absurd h hfirst.1, fun _ => h, fun h => absurd h hfirst.2.1,
      fun h => absurd h hfirst.2.2⟩
  | @string cs h =>
    cases hv
    exact ⟨fun _ => ⟨cs, rfl, h⟩, fun h => absurd h (by decide), fun h => absurd h (by decide),
      fun h => absurd h (by decide)⟩
  | @array inner elements hinner hspaced hvalue =>
    cases hv
    refine ⟨fun h => absurd h (by decide), fun h => absurd h (by decide), fun _ => ?_,
      fun h => absurd h (by decide)⟩
    exact ⟨inner, elements, rfl, hinner, fun e he => ⟨hspaced e he, hvalue e he⟩⟩
  | @object inner members hinner hshaped hvalue =>
    cases hv
    refine ⟨fun h => absurd h (by decide), fun h => absurd h (by decide), fun h => absurd h (by decide),
      fun _ => ?_⟩
    exact ⟨inner, members, rfl, hinner, fun m hm => ⟨hshaped m hm, hvalue m hm⟩⟩

/-- The blanks in front of a value are passed over up to its first character. -/
lemma IsValue.skipBlank {v before : List Char} (h : IsValue v) (hbefore : Blank before)
    (rest : List Char) :
    ∃ c more, v = c :: more ∧ Json.skipBlank (before ++ (v ++ rest)) = c :: (more ++ rest) := by
  obtain ⟨c, more, rfl, hblank, -⟩ := h.begins
  refine ⟨c, more, rfl, ?_⟩
  rw [skipBlank_append hbefore, List.cons_append, skipBlank_cons hblank]

lemma wrongType_ne_ok {expected : String} {c : Char} {rest : List Char} {a : α} :
    (wrongType expected c rest : Except ReadError α) ≠ .ok a := by
  rw [wrongType]
  cases foundAt c rest with
  | error e => simp [Except.bind]
  | ok found => simp [Except.bind]

/-! ### Readers of strings -/

lemma head_of_taken_string {cs rest : List Char} {s : String} (h : taken string cs = .ok (s, rest)) :
    ∃ behind, skipBlank cs = '"' :: behind := by
  obtain ⟨p, hread, -⟩ := taken_eq_ok.mp h
  rw [string] at hread
  split at hread
  next => cases hread
  next c behind hcons =>
    split_ifs at hread with hquote
    · exact ⟨behind, by rw [hcons, hquote]⟩
    · exact absurd hread wrongType_ne_ok

theorem settled_string : Settled string := by
  intro v before rest s rest' hv hbefore hrest hread
  obtain ⟨behind, hquote⟩ := head_of_taken_string hread
  obtain ⟨c, more, rfl, hskip⟩ := hv.skipBlank hbefore rest
  rw [hskip] at hquote
  cases hquote
  obtain ⟨hstring, -⟩ := hv.of_cons rfl
  obtain ⟨cs, rfl, hcs⟩ := hstring rfl
  rw [taken_string hskip, List.append_assoc, List.singleton_append] at hread
  obtain ⟨rfl, hspells⟩ := hcs.spells_of_taken hread
  refine ⟨rfl, ?_⟩
  intro before rest hbefore hrest
  have hquote : skipBlank (before ++ ('"' :: (cs ++ ['"']) ++ rest)) = '"' :: (cs ++ '"' :: rest) := by
    rw [skipBlank_append hbefore, List.cons_append, skipBlank_cons rfl, List.append_assoc]
    rfl
  rw [taken_string hquote, stringBody, hspells.taken_keep]
  simp

/-! ### Readers of numbers -/

/-- Only an integer without sign, point and exponent is read as a natural number. -/
def IsFractional (result : Except ReadError (Number × List Char)) : Prop :=
  ∀ n rest, result ≠ .ok (.natural n, rest)

lemma isFractional_fractionalNumber (minus : Bool) (n : Nat) (e : Int) (rest : List Char) :
    IsFractional ((fractionalNumber minus n e).map (·, rest)) := by
  intro m rest' h
  rw [fractionalNumber] at h
  split at h
  · cases h
  · cases h

lemma isFractional_exponentPart (minus : Bool) (n : Nat) (e : Int) (cs : List Char) :
    IsFractional (exponentPart minus n e cs) := by
  intro m rest' h
  rw [exponentPart] at h
  dsimp only at h
  split at h
  · cases h
  · split_ifs at h
    rw [withExponent] at h
    split_ifs at h
    · cases h
    · cases h
    · exact isFractional_fractionalNumber _ _ _ _ _ _ h
    · exact isFractional_fractionalNumber _ _ _ _ _ _ h

lemma isFractional_fractionPart (minus : Bool) (n : Nat) (e : Int) (cs : List Char) :
    IsFractional (fractionPart minus n e cs) := by
  intro m rest' h
  rw [fractionPart] at h
  dsimp only at h
  split_ifs at h
  split at h
  · split_ifs at h
    · exact isFractional_exponentPart _ _ _ _ _ _ h
    · exact isFractional_fractionalNumber _ _ _ _ _ _ h
  · exact isFractional_fractionalNumber _ _ _ _ _ _ h

/-- If digits are read as a natural number, there is room for them and neither a fraction nor an exponent
follows. -/
lemma natural_of_afterInteger {minus : Bool} {n unused a : Nat} {cs rest : List Char}
    (h : afterInteger minus n unused cs = .ok (.natural a, rest)) :
    minus = false ∧ unused = 0 ∧ ∀ c ∈ cs.head?, c ≠ '.' ∧ isExponentMark c = false := by
  have hplain : ((if unused = 0 then integer minus n else fractionalNumber minus n unused).map (·, cs)
      : Except ReadError (Number × List Char)) = .ok (.natural a, rest) → minus = false ∧ unused = 0 := by
    intro h
    split_ifs at h with hunused
    · refine ⟨?_, hunused⟩
      rw [integer] at h
      split_ifs at h with hminus
      · simpa using hminus
      · cases h
      · exact absurd h (isFractional_fractionalNumber _ _ _ _ _ _)
    · exact absurd h (isFractional_fractionalNumber _ _ _ _ _ _)
  cases cs with
  | nil =>
    rw [afterInteger] at h
    obtain ⟨hminus, hunused⟩ := hplain h
    exact ⟨hminus, hunused, by simp⟩
  | cons c behind =>
    rw [afterInteger] at h
    by_cases hpoint : c = '.'
    · rw [if_pos hpoint] at h
      exact absurd h (isFractional_fractionPart _ _ _ _ _ _)
    by_cases hmark : isExponentMark c = true
    · rw [if_neg hpoint, if_pos hmark] at h
      exact absurd h (isFractional_exponentPart _ _ _ _ _ _)
    · rw [if_neg hpoint, if_neg hmark] at h
      obtain ⟨hminus, hunused⟩ := hplain h
      refine ⟨hminus, hunused, ?_⟩
      rintro d ⟨⟩
      exact ⟨hpoint, by simpa using hmark⟩

/-- A number that is read as a natural number is read so wherever it stands, and to its end. -/
lemma IsNumber.natural {v rest rest' : List Char} {n : Nat} (h : IsNumber v) (hrest : Apart rest)
    (hread : number (v ++ rest) = .ok (.natural n, rest')) :
    rest' = rest ∧ ∀ {behind}, Apart behind → number (v ++ behind) = .ok (.natural n, behind) := by
  have hunsigned : ∀ {minus : Bool} {cs}, IsUnsigned cs →
      unsignedNumber minus (cs ++ rest) = .ok (.natural n, rest') →
      minus = false ∧ rest' = rest ∧ IsInteger cs ∧ (gather 0 cs).1 = n ∧ (gather 0 cs).2.2 = 0 := by
    rintro minus _ ⟨hwhole, hfraction, hexponent⟩ hread
    rw [List.append_assoc, List.append_assoc,
      unsignedNumber_whole minus hwhole (hfraction.head hexponent hrest)] at hread
    obtain ⟨rfl, hunused, hend⟩ := natural_of_afterInteger hread
    cases hfraction with
    | digits => exact absurd rfl (hend _ rfl).1
    | absent =>
      cases hexponent with
      | digits hmark =>
        have hnot := (hend _ rfl).2
        rw [hmark] at hnot
        cases hnot
      | absent =>
        rw [hunused, List.nil_append, List.nil_append, afterInteger_apart _ hrest] at hread
        cases hread
        rw [List.append_nil, List.append_nil]
        exact ⟨rfl, rfl, hwhole, rfl, hunused⟩
  cases h with
  | plain h =>
    obtain ⟨c, more, rfl, hc⟩ := h.cons
    rw [List.cons_append, number_of_isDigit hc, ← List.cons_append] at hread
    obtain ⟨-, rfl, hwhole, rfl, hunused⟩ := hunsigned h hread
    refine ⟨rfl, ?_⟩
    intro behind hbehind
    have hread := unsignedNumber_whole false hwhole hbehind.not_digit
    rw [hunused, afterInteger_apart _ hbehind, List.cons_append] at hread
    rw [List.cons_append, number_of_isDigit hc, hread]
  | minus h =>
    obtain ⟨hminus, -⟩ := hunsigned h hread
    cases hminus

lemma of_taken_natural {bound n : Nat} {expected : String} {cs rest : List Char}
    (h : taken (natural bound expected) cs = .ok (n, rest)) :
    ∃ c more, skipBlank cs = c :: more ∧ (c = '-' ∨ isDigit c = true) ∧
      number (c :: more) = .ok (.natural n, rest) ∧ n < bound := by
  obtain ⟨p, hread, rfl, rfl⟩ := taken_eq_ok.mp h
  rw [natural] at hread
  split at hread
  next => cases hread
  next c more hcons =>
    split_ifs at hread with hc
    · split at hread
      next => cases hread
      next m behind hnumber =>
        split at hread
        next => cases hread
        next value hvalue =>
          cases hread
          refine ⟨c, more, hcons, hc, ?_⟩
          cases m with
          | natural k =>
            rw [Number.toNat?] at hvalue
            split_ifs at hvalue with hbound
            cases hvalue
            exact ⟨hnumber, hbound⟩
          | negative k => cases hvalue
          | fractional minus x => cases hvalue
    · exact absurd hread wrongType_ne_ok

theorem settled_natural (bound : Nat) (expected : String) : Settled (natural bound expected) := by
  intro v before rest n rest' hv hbefore hrest hread
  obtain ⟨c, more, hcons, hc, hnumber, hn⟩ := of_taken_natural hread
  obtain ⟨d, digits, rfl, hskip⟩ := hv.skipBlank hbefore rest
  rw [hskip] at hcons
  cases hcons
  obtain ⟨-, hkind, -⟩ := hv.of_cons rfl
  obtain ⟨rfl, hreads⟩ := (hkind hc).natural hrest hnumber
  refine ⟨rfl, ?_⟩
  intro before rest hbefore hrest
  obtain ⟨d, digits', hcons, hskip⟩ := hv.skipBlank hbefore rest
  cases hcons
  exact taken_natural hskip hc (hreads hrest) hn

end Mailwire.Json
