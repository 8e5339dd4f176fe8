import Mailwire.Proofs.Json.Scalars

/-!
# Skipping stops at the end of a value

Whatever value the grammar knows, it is passed over to its end and no further, at any depth
(`Json.IsValue.skipped`). As the end that skipping finds is the only one, this settles where a value of the
grammar ends in a text.

The induction is on the value. Between brackets each element and each member is passed over up to the comma or
the bracket behind it (`Json.Skipped`), and so are all of them in a row (`Json.skipRest_items`).
-/

namespace Mailwire.Json

/-! ### Numbers -/

/-- An exponent mark is no digit and no point. -/
lemma of_isExponentMark {c : Char} (h : isExponentMark c = true) :
    isDigit c = false ∧ c ≠ '.' := by
  simp only [isExponentMark, Bool.or_eq_true, beq_iff_eq] at h
  rcases h with rfl | rfl <;> decide

/-- No digit comes behind the digits of a part. -/
lemma IsExponent.head {exponent rest : List Char} (h : IsExponent exponent) (hrest : Apart rest) :
    ∀ c ∈ (exponent ++ rest).head?, isDigit c = false ∧ c ≠ '.' := by
  cases h with
  | absent =>
    intro c hc
    obtain ⟨hdigit, hpoint, -⟩ := hrest c hc
    exact ⟨hdigit, hpoint⟩
  | digits hmark _ _ =>
    rintro c ⟨⟩
    exact of_isExponentMark hmark

lemma IsFraction.head {fraction exponent rest : List Char} (h : IsFraction fraction)
    (hexponent : IsExponent exponent) (hrest : Apart rest) :
    ∀ c ∈ (fraction ++ (exponent ++ rest)).head?, isDigit c = false := by
  cases h with
  | absent => exact fun c hc => (hexponent.head hrest c hc).1
  | digits _ =>
    rintro c ⟨⟩
    decide

lemma skipDigits_append {digits rest : List Char} (h : Digits digits)
    (hrest : ∀ c ∈ rest.head?, isDigit c = false) : skipDigits (digits ++ rest) = .ok rest := by
  have hempty : digits.isEmpty = false := by simpa using h.1
  rw [skipDigits, digitRun_append h.2 hrest]
  simp [hempty]

lemma exponentSign_append {sign digits rest : List Char} (hsign : sign = [] ∨ sign = ['+'] ∨ sign = ['-'])
    (h : Digits digits) : (exponentSign (sign ++ (digits ++ rest))).2 = digits ++ rest := by
  rcases hsign with rfl | rfl | rfl
  · obtain ⟨hne, hall⟩ := h
    obtain ⟨d, more, rfl⟩ := List.exists_cons_of_ne_nil hne
    have hd : isDigit d = true := hall d List.mem_cons_self
    rw [List.nil_append, List.cons_append, exponentSign]
    · rintro cs heq
      obtain ⟨rfl, -⟩ := List.cons.inj heq
      exact absurd hd (by decide)
    · rintro cs heq
      obtain ⟨rfl, -⟩ := List.cons.inj heq
      exact absurd hd (by decide)
  · rfl
  · rfl

lemma skipExponent_append {exponent rest : List Char} (h : IsExponent exponent) (hrest : Apart rest) :
    skipExponent (exponent ++ rest) = .ok rest := by
  cases h with
  | absent =>
    cases rest with
    | nil => rfl
    | cons c rest =>
      obtain ⟨-, -, hmark⟩ := hrest c rfl
      simp [skipExponent, hmark]
  | digits hmark hsign hdigits =>
    rw [List.cons_append, List.append_assoc, skipExponent, if_pos hmark,
      exponentSign_append hsign hdigits]
    exact skipDigits_append hdigits fun c hc => (hrest c hc).1

lemma skipFraction_append {fraction exponent rest : List Char} (h : IsFraction fraction)
    (hexponent : IsExponent exponent) (hrest : Apart rest) :
    skipFraction (fraction ++ (exponent ++ rest)) = .ok rest := by
  have hhead := hexponent.head hrest
  have hskip := skipExponent_append hexponent hrest
  cases h with
  | absent =>
    rw [List.nil_append]
    generalize exponent ++ rest = cs at hhead hskip
    cases cs with
    | nil => exact hskip
    | cons c cs => rw [skipFraction, if_neg (hhead c rfl).2, hskip]
  | digits hdigits =>
    rw [List.cons_append, skipFraction, if_pos rfl,
      skipDigits_append hdigits fun c hc => (hhead c hc).1]
    exact hskip

lemma skipUnsigned_append {cs rest : List Char} (h : IsUnsigned cs) (hrest : Apart rest) :
    skipUnsigned (cs ++ rest) = .ok rest := by
  obtain @⟨whole, fraction, exponent, hwhole, hfraction, hexponent⟩ := h
  have hhead := hfraction.head hexponent hrest
  have hskip := skipFraction_append hfraction hexponent hrest
  rw [List.append_assoc, List.append_assoc]
  generalize fraction ++ (exponent ++ rest) = tail at hhead hskip
  cases hwhole with
  | zero =>
    have hzero : tail.head?.any isDigit = false := by
      cases tail with
      | nil => rfl
      | cons c tail => simpa using hhead c rfl
    rw [List.singleton_append, skipUnsigned, if_pos rfl, hzero]
    exact hskip
  | @digits c more hzero hall =>
    obtain ⟨hc, hmore⟩ := List.forall_mem_cons.mp hall
    rw [List.cons_append, skipUnsigned, if_neg hzero, if_pos hc, digitRun_append hmore hhead]
    exact hskip

/-! ### Strings -/

lemma hexFour_of_code {a b c d : Char} {n : Nat} (h : Code a b c d n) (rest : List Char) :
    hexFour (a :: b :: c :: d :: rest) = .ok (n, rest) := by
  obtain ⟨w, x, y, z, ha, hb, hc, hd, rfl⟩ := h
  have hlength : ¬ a.utf8Size + (b.utf8Size + (c.utf8Size + (d.utf8Size + 0))) < 4 := by
    have := a.utf8Size_pos
    have := b.utf8Size_pos
    have := c.utf8Size_pos
    have := d.utf8Size_pos
    omega
  rw [hexFour]
  simp only [List.take_succ_cons, List.take_zero, List.foldr_cons, List.foldr_nil, if_neg hlength, ha, hb,
    hc, hd]

section

variable (purpose : Purpose) (got : List Char)

lemma taken_string_end (rest : List Char) :
    taken (stringOnto purpose got) ('"' :: rest) = .ok (String.ofList got.reverse, rest) := by
  rw [taken, stringOnto, if_pos rfl]
  rfl

lemma taken_string_plain {c : Char} (h : Plain c) (rest : List Char) :
    taken (stringOnto purpose got) (c :: rest) = taken (stringOnto purpose (c :: got)) rest := by
  obtain ⟨hquote, hbackslash, hcontrol⟩ := h
  rw [taken, stringOnto, if_neg hquote, if_neg hbackslash, if_neg hcontrol, map_widen]
  rfl

lemma taken_string_escape (rest : List Char) :
    taken (stringOnto purpose got) ('\\' :: rest)
      = (escape purpose rest).bind fun (c, rest') => taken (stringOnto purpose (c :: got)) rest' := by
  rw [taken, stringOnto, if_neg (by decide), if_pos rfl]
  split
  next e herror =>
    rw [herror]
    rfl
  next c rest' hok =>
    rw [map_widen, hok]
    rfl

lemma escape_short {x c : Char} (h : shortEscape? x = some c) (rest : List Char) :
    escape purpose (x :: rest) = .ok (c, rest) := by
  have hu : x ≠ 'u' := by
    rintro rfl
    cases h
  rw [escape, if_neg hu, h]

end

lemma escape_skip_code {a b c d : Char} {n : Nat} (h : Code a b c d n) (rest : List Char) :
    escape .skip ('u' :: a :: b :: c :: d :: rest) = .ok (Char.ofNat n, rest) := by
  rw [escape, if_pos rfl, hexFour_of_code h]
  rfl

/-- A string is passed over up to its closing mark. -/
lemma taken_skip_contents {cs : List Char} (h : Contents cs) (got rest : List Char) :
    ∃ s, taken (stringOnto .skip got) (cs ++ '"' :: rest) = .ok (s, rest) := by
  induction h generalizing got with
  | nil => exact ⟨_, taken_string_end .skip got rest⟩
  | @plain c cs hc _ ih =>
    rw [List.cons_append, taken_string_plain .skip got hc]
    exact ih _
  | @short x c cs hx _ ih =>
    rw [List.cons_append, List.cons_append, taken_string_escape, escape_short .skip hx]
    exact ih _
  | @code a b c d n cs hn _ ih =>
    simp only [List.cons_append]
    rw [taken_string_escape, escape_skip_code hn]
    exact ih _

/-! ### Steps between values -/

/-- What becomes of the rest of a text behind a value between these brackets. -/
def resume (opened : List Bracket) (rest : List Char) : Except ReadError (List Char) :=
  if opened.isEmpty then .ok rest else skipRest opened .next rest

section

variable {opened : List Bracket} {b : Bracket} {c : Char} {cs rest : List Char}

lemma skipRest_value (h : skipBlank cs = c :: rest) :
    skipRest opened .value cs =
      if c = '[' then skipRest (.array :: opened) .first rest
      else if c = '\x7b' then skipRest (.object :: opened) .first rest
      else (skipScalar c rest).bind (resume opened) := by
  rw [skipRest]
  split
  next hnil => rw [h] at hnil; cases hnil
  next d behind hcons =>
    rw [h] at hcons
    cases hcons
    dsimp only
    congr 2
    split
    next e herror =>
      rw [herror]
      rfl
    next rest' hok =>
      rw [hok]
      rfl

lemma skipRest_key (h : skipBlank cs = '"' :: rest) :
    skipRest opened .key cs = (taken (stringBody .skip) rest).bind fun (_, rest') =>
      (taken (mark ':') rest').bind fun (_, behind) => skipRest opened .value behind := by
  rw [skipRest]
  split
  next hnil => rw [h] at hnil; cases hnil
  next d behind hcons =>
    rw [h] at hcons
    cases hcons
    simp only [if_true, taken]
    cases stringBody .skip rest with
    | error e => rfl
    | ok p =>
      simp only [Except.map, Except.bind]
      cases mark ':' p.rest with
      | error e => rfl
      | ok q => rfl

lemma skipRest_first (h : skipBlank cs = c :: rest) :
    skipRest (b :: opened) .first cs =
      if c = b.closing then resume opened rest else skipRest (b :: opened) (.behindComma b) cs := by
  rw [skipRest]
  split
  next hnil => rw [h] at hnil; cases hnil
  next d behind hcons =>
    rw [h] at hcons
    cases hcons
    rfl

lemma skipRest_next (h : skipBlank cs = c :: rest) :
    skipRest (b :: opened) .next cs =
      if c = b.closing then resume opened rest
      else if c = ',' then skipRest (b :: opened) (.behindComma b) rest
      else .error .malformed := by
  rw [skipRest]
  split
  next hnil => rw [h] at hnil; cases hnil
  next d behind hcons =>
    rw [h] at hcons
    cases hcons
    rfl

end

lemma skipRest_nil {opened : List Bracket} {expected : Expected} {cs : List Char}
    (h : skipBlank cs = []) : skipRest opened expected cs = .error .tooShort := by
  rw [skipRest]
  split
  next => rfl
  next d behind hcons => rw [h] at hcons; cases hcons

/-- Blanks in front of a value make no difference. -/
lemma skipRest_blank {blank : List Char} (h : Blank blank) (opened : List Bracket) (cs : List Char) :
    skipRest opened .value (blank ++ cs) = skipRest opened .value cs := by
  have hblank := skipBlank_append h cs
  rcases hcs : skipBlank cs with _ | ⟨c, rest⟩
  · rw [skipRest_nil hcs, skipRest_nil (hblank.trans hcs)]
  · rw [skipRest_value hcs, skipRest_value (hblank.trans hcs)]

/-! ### Items between brackets -/

/-- Between brackets, an item is passed over up to the blanks behind it, and it does not begin with the
closing bracket. -/
structure Skipped (b : Bracket) (item : List Char) : Prop where
  begins : ∀ tail, ∃ c more, skipBlank (item ++ tail) = c :: more ∧ c ≠ b.closing
  passed : ∀ {blank tail : List Char} (opened : List Bracket), Blank blank → Apart tail →
    ∃ behind, Blank behind ∧ skipRest (b :: opened) (.behindComma b) (blank ++ (item ++ tail))
      = skipRest (b :: opened) .next (behind ++ tail)

lemma Bracket.closing_facts (b : Bracket) :
    isBlank b.closing = false ∧ b.closing ≠ ',' ∧ isDigit b.closing = false ∧ b.closing ≠ '.' ∧
      isExponentMark b.closing = false := by
  cases b <;> decide

lemma skipBlank_closing {blank : List Char} (h : Blank blank) (b : Bracket) (rest : List Char) :
    skipBlank (blank ++ b.closing :: rest) = b.closing :: rest := by
  rw [skipBlank_append h, skipBlank_cons b.closing_facts.1]

lemma skipBlank_comma {blank : List Char} (h : Blank blank) (rest : List Char) :
    skipBlank (blank ++ ',' :: rest) = ',' :: rest := by
  rw [skipBlank_append h, skipBlank_cons rfl]

/-- A number may end in front of the next item, or of the closing bracket. -/
lemma apart_further (b : Bracket) (items : List (List Char)) (rest : List Char) :
    Apart (further items ++ b.closing :: rest) := by
  cases items with
  | nil => exact .cons b.closing_facts.2.2 _
  | cons => exact .cons (by decide) _

section

variable {b : Bracket} {items : List (List Char)} {blank : List Char}

lemma skipRest_further (h : ∀ item ∈ items, Skipped b item) (hblank : Blank blank)
    (opened : List Bracket) (rest : List Char) :
    skipRest (b :: opened) .next (blank ++ (further items ++ b.closing :: rest))
      = resume opened rest := by
  induction items generalizing blank with
  | nil => rw [further, List.flatMap_nil, List.nil_append, skipRest_next (skipBlank_closing hblank b rest),
      if_pos rfl]
  | cons item items ih =>
    obtain ⟨hitem, hitems⟩ := List.forall_mem_cons.mp h
    obtain ⟨behind, hbehind, hpassed⟩ := hitem.passed opened .nil (apart_further b items rest)
    have hsplit : further (item :: items) ++ b.closing :: rest
        = ',' :: (item ++ (further items ++ b.closing :: rest)) := by simp [further]
    rw [hsplit, skipRest_next (skipBlank_comma hblank _), if_neg b.closing_facts.2.1.symm, if_pos rfl]
    exact hpassed.trans (ih hitems hbehind)

/-- Brackets that were opened are passed over up to the bracket that closes them. -/
lemma skipRest_items (h : ∀ item ∈ items, Skipped b item) (hblank : Blank blank)
    (opened : List Bracket) (rest : List Char) :
    skipRest (b :: opened) .first (blank ++ (joined items ++ b.closing :: rest))
      = resume opened rest := by
  cases items with
  | nil => rw [joined, List.nil_append, skipRest_first (skipBlank_closing hblank b rest), if_pos rfl]
  | cons item items =>
    obtain ⟨hitem, hitems⟩ := List.forall_mem_cons.mp h
    obtain ⟨c, more, hbegins, hc⟩ := hitem.begins (further items ++ b.closing :: rest)
    obtain ⟨behind, hbehind, hpassed⟩ := hitem.passed opened hblank (apart_further b items rest)
    rw [joined, List.append_assoc, skipRest_first ((skipBlank_append hblank _).trans hbegins), if_neg hc,
      hpassed, skipRest_further hitems hbehind]

end

/-! ### Values -/

lemma wordBehind?_of_isDigit {c : Char} (h : isDigit c = true) :
    wordBehind? c = none ∧ c ≠ '"' ∧ c ≠ '-' ∧ c ≠ '[' ∧ c ≠ '\x7b' ∧ c ≠ ']' := by
  have hne : ∀ d, isDigit d = false → c ≠ d := by
    rintro d hd rfl
    rw [h] at hd
    cases hd
  refine ⟨?_, hne _ rfl, hne _ rfl, hne _ rfl, hne _ rfl, hne _ rfl⟩
  rw [wordBehind?, if_neg (hne _ rfl), if_neg (hne _ rfl), if_neg (hne _ rfl)]

lemma IsUnsigned.cons {cs : List Char} (h : IsUnsigned cs) :
    ∃ c more, cs = c :: more ∧ isDigit c = true := by
  obtain ⟨hwhole, -, -⟩ := h
  obtain ⟨c, more, rfl, hc⟩ := hwhole.cons
  exact ⟨c, _, List.cons_append, hc⟩

/-- No value begins with a blank or a closing bracket. -/
lemma IsValue.begins {v : List Char} (h : IsValue v) :
    ∃ c more, v = c :: more ∧ isBlank c = false ∧ c ≠ ']' := by
  have hunsigned : ∀ {cs}, IsUnsigned cs → ∃ c more, cs = c :: more ∧ isBlank c = false ∧ c ≠ ']' := by
    intro cs h
    obtain ⟨c, more, rfl, hc⟩ := h.cons
    obtain ⟨-, -, -, -, -, hclosing⟩ := wordBehind?_of_isDigit hc
    exact ⟨c, more, rfl, isBlank_of_isDigit hc, hclosing⟩
  cases h with
  | word h =>
    simp only [List.mem_cons, List.not_mem_nil, or_false] at h
    rcases h with rfl | rfl | rfl <;> exact ⟨_, _, rfl, by decide, by decide⟩
  | number h =>
    cases h with
    | plain h => exact hunsigned h
    | minus => exact ⟨_, _, rfl, by decide, by decide⟩
  | string => exact ⟨_, _, rfl, by decide, by decide⟩
  | array => exact ⟨_, _, rfl, by decide, by decide⟩
  | object => exact ⟨_, _, rfl, by decide, by decide⟩

lemma mark_append {blank : List Char} (h : Blank blank) {c : Char} (hc : isBlank c = false)
    (rest : List Char) : taken (mark c) (blank ++ c :: rest) = .ok ((), rest) := by
  have hblank : skipBlank (blank ++ c :: rest) = c :: rest := by
    rw [skipBlank_append h, skipBlank_cons hc]
  rw [taken, mark]
  split
  next hnil => rw [hblank] at hnil; cases hnil
  next d behind hcons =>
    rw [hblank] at hcons
    cases hcons
    rw [if_pos rfl]
    rfl

/-- A value is passed over in the array that it is an element of. -/
lemma Element.skipped {e : Element} (hspaced : e.Spaced) (hvalue : IsValue e.value)
    (h : ∀ opened {rest}, Apart rest → skipRest opened .value (e.value ++ rest) = resume opened rest) :
    Skipped .array e.text := by
  constructor
  · intro tail
    obtain ⟨c, more, hcons, hblank, hclosing⟩ := hvalue.begins
    refine ⟨c, more ++ (e.behind ++ tail), ?_, hclosing⟩
    rw [text, List.append_assoc, skipBlank_append hspaced.before, hcons, List.append_assoc,
      List.cons_append, skipBlank_cons hblank]
  · intro blank tail opened hblank htail
    refine ⟨e.behind, hspaced.behind, ?_⟩
    rw [Expected.behindComma, skipRest_blank hblank, text, List.append_assoc,
      skipRest_blank hspaced.before, List.append_assoc, h _ (htail.append hspaced.behind)]
    rfl

/-- A value is passed over in the object that it is a member of, and its key as well. -/
lemma Member.skipped {m : Member} (hshaped : m.Shaped)
    (h : ∀ opened {rest}, Apart rest → skipRest opened .value (m.value ++ rest) = resume opened rest) :
    Skipped .object m.text := by
  have hfront : ∀ {blank} tail, Blank blank → skipBlank (blank ++ (m.text ++ tail))
      = '"' :: (m.key ++ '"' :: (m.between ++ ':' :: (m.toElement.text ++ tail))) := by
    intro blank tail hblank
    rw [skipBlank_append hblank, text, List.append_assoc, skipBlank_append hshaped.front,
      List.cons_append, skipBlank_cons rfl]
    simp
  constructor
  · intro tail
    exact ⟨_, _, hfront tail .nil, by decide⟩
  · intro blank tail opened hblank htail
    refine ⟨m.behind, hshaped.spaced.behind, ?_⟩
    obtain ⟨s, hkey⟩ := taken_skip_contents hshaped.key []
      (m.between ++ ':' :: (m.toElement.text ++ tail))
    rw [Expected.behindComma, skipRest_key (hfront tail hblank), stringBody, hkey]
    simp only [Except.bind]
    rw [mark_append hshaped.between rfl]
    simp only
    rw [Element.text, List.append_assoc, skipRest_blank hshaped.spaced.before, List.append_assoc,
      h _ (htail.append hshaped.spaced.behind)]
    rfl

/-- A value without others in it is passed over. -/
lemma skipRest_scalar {c : Char} {more rest : List Char} (hblank : isBlank c = false)
    (harray : c ≠ '[') (hobject : c ≠ '\x7b') (h : skipScalar c (more ++ rest) = .ok rest)
    (opened : List Bracket) : skipRest opened .value (c :: more ++ rest) = resume opened rest := by
  rw [List.cons_append, skipRest_value (skipBlank_cons hblank _), if_neg harray, if_neg hobject, h]
  rfl

lemma skipScalar_string {cs : List Char} (h : Contents cs) (rest : List Char) :
    skipScalar '"' (cs ++ ['"'] ++ rest) = .ok rest := by
  obtain ⟨s, hskip⟩ := taken_skip_contents h [] rest
  obtain ⟨p, hread, -, hrest⟩ := taken_eq_ok.mp hskip
  rw [List.append_assoc, List.singleton_append]
  show (stringOnto .skip [] (cs ++ '"' :: rest)).map (·.rest) = .ok rest
  rw [hread]
  exact congrArg Except.ok hrest

/-- A value is passed over to its end. -/
theorem IsValue.skipped {v : List Char} (h : IsValue v) (opened : List Bracket) {rest : List Char}
    (hrest : Apart rest) : skipRest opened .value (v ++ rest) = resume opened rest := by
  induction h generalizing opened rest with
  | word h =>
    simp only [List.mem_cons, List.not_mem_nil, or_false] at h
    rcases h with rfl | rfl | rfl
    · exact @skipRest_scalar 'n' ['u', 'l', 'l'] rest rfl (by decide) (by decide) rfl opened
    · exact @skipRest_scalar 't' ['r', 'u', 'e'] rest rfl (by decide) (by decide) rfl opened
    · exact @skipRest_scalar 'f' ['a', 'l', 's', 'e'] rest rfl (by decide) (by decide) rfl opened
  | number h =>
    cases h with
    | plain h =>
      have hskip := skipUnsigned_append h hrest
      obtain ⟨c, more, rfl, hc⟩ := h.cons
      obtain ⟨hword, hquote, hminus, harray, hobject, -⟩ := wordBehind?_of_isDigit hc
      refine skipRest_scalar (isBlank_of_isDigit hc) harray hobject ?_ opened
      rw [skipScalar, hword]
      dsimp only
      rw [if_neg hquote, if_neg hminus]
      exact hskip
    | @minus cs h =>
      have hskip : skipScalar '-' (cs ++ rest) = .ok rest := skipUnsigned_append h hrest
      exact skipRest_scalar rfl (by decide) (by decide) hskip opened
  | string h => exact skipRest_scalar rfl (by decide) (by decide) (skipScalar_string h rest) opened
  | @array inner elements hinner hspaced hvalue ih =>
    have hitems : ∀ item ∈ elements.map Element.text, Skipped .array item := by
      rintro _ hitem
      obtain ⟨e, he, rfl⟩ := List.mem_map.mp hitem
      exact Element.skipped (hspaced e he) (hvalue e he) (ih e he)
    have hsplit : arrayText inner elements ++ rest
        = '[' :: (inner ++ (joined (elements.map Element.text) ++ Bracket.array.closing :: rest)) := by
      simp [arrayText, bracketed, Bracket.opening]
    rw [hsplit, skipRest_value (skipBlank_cons rfl _), if_pos rfl, skipRest_items hitems hinner]
  | @object inner members hinner hshaped hvalue ih =>
    have hitems : ∀ item ∈ members.map Member.text, Skipped .object item := by
      rintro _ hitem
      obtain ⟨m, hm, rfl⟩ := List.mem_map.mp hitem
      exact Member.skipped (hshaped m hm) (ih m hm)
    have hsplit : objectText inner members ++ rest
        = '\x7b' :: (inner ++ (joined (members.map Member.text) ++ Bracket.object.closing :: rest)) := by
      simp [objectText, bracketed, Bracket.opening]
    rw [hsplit, skipRest_value (skipBlank_cons rfl _), if_neg (by decide), if_pos rfl,
      skipRest_items hitems hinner]

end Mailwire.Json
