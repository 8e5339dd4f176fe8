import Mailwire.Proofs.Text.Utf8

/-!
# The text of any octets

What octets are as a text is said without the reader, by the encodings of characters alone. They fall
into parts (`Text.Parted`): the octets of a character, or an ill-formed part, which is as long as it
can be while it still begins a character, and one octet long if its first octet begins none. In a text
each ill-formed part stands as one replacement character (`Text.Lossy`).

All octets fall into parts in just one way, and it is how they are read (`Text.parted_iff`). So lossy
decoding answers the one text of any octets (`Text.lossy_iff`), and strict decoding answers a text
exactly if the octets are those of the text (`Text.decode?_eq_some_iff`).
-/

namespace Mailwire

namespace Text

/-! ### What the parts are -/

/-- Octets that the encoding of a character begins with. -/
def Begins (front : Octets) : Prop := ∃ c : Char, front <+: String.utf8EncodeChar c

/-- A part that is in front of octets where no character is: it begins a character, or is one octet
alone, and nothing longer begins a character there. -/
structure IllFormed (part rest : Octets) : Prop where
  nonempty : part ≠ []
  begins : Begins part ∨ part.length = 1
  longest : ∀ front, front <+: part ++ rest → Begins front → front.length ≤ part.length
  no_char : ∀ c, ¬ String.utf8EncodeChar c <+: part ++ rest

/-- Octets in parts: a character for its octets, and `none` for an ill-formed part. -/
inductive Parted : Octets → List (Option Char) → Prop
  | nil : Parted [] []
  | char (c : Char) {rest : Octets} {ps : List (Option Char)} (h : Parted rest ps) :
      Parted (String.utf8EncodeChar c ++ rest) (some c :: ps)
  | illFormed {part rest : Octets} {ps : List (Option Char)} (hpart : IllFormed part rest)
      (h : Parted rest ps) : Parted (part ++ rest) (none :: ps)

/-- A text has all characters that octets have, and a replacement character for each ill-formed
part. -/
def Lossy (octets : Octets) (text : String) : Prop :=
  ∃ ps, Parted octets ps ∧ text = String.ofList (ps.map (·.getD replacement))

/-! ### Characters that are read -/

lemma toNat_ofNat_of_valid {v : Nat} (h : v.isValidChar) : (Char.ofNat v).val.toNat = v := by
  rw [Char.ofNat, dif_pos h]
  exact UInt32.toNat_ofNatLT

lemma utf8EncodeChar_two {five six : Nat} (hlow : 2 ≤ five) (hhigh : five < 32) (hsix : six < 64) :
    String.utf8EncodeChar (Char.ofNat (five * 64 + six))
      = [UInt8.ofNat (five + 192), UInt8.ofNat (six + 128)] := by
  have hvalue := toNat_ofNat_of_valid (v := five * 64 + six) (.inl (by omega))
  rw [String.utf8EncodeChar, hvalue, if_neg (by omega), if_pos (by omega)]
  rw [show (five * 64 + six) / 64 % 32 = five by omega, show (five * 64 + six) % 64 = six by omega]

lemma utf8EncodeChar_three {four six last : Nat} (hfour : four < 16) (hsix : six < 64)
    (hlast : last < 64) (hlong : 0x20 ≤ four * 64 + six)
    (hsurrogate : four * 64 + six < 0x360 ∨ 0x37f < four * 64 + six) :
    String.utf8EncodeChar (Char.ofNat ((four * 64 + six) * 64 + last))
      = [UInt8.ofNat (four + 224), UInt8.ofNat (six + 128), UInt8.ofNat (last + 128)] := by
  have hvalue := toNat_ofNat_of_valid (v := (four * 64 + six) * 64 + last) (by
    unfold Nat.isValidChar
    omega)
  generalize hv : (four * 64 + six) * 64 + last = v at hvalue ⊢
  rw [String.utf8EncodeChar, hvalue, if_neg (by omega), if_neg (by omega), if_pos (by omega)]
  rw [show v / 4096 % 16 = four by omega, show v / 64 % 64 = six by omega,
    show v % 64 = last by omega]

lemma utf8EncodeChar_four {three six more last : Nat} (hsix : six < 64) (hmore : more < 64)
    (hlast : last < 64) (hlong : 0x10 ≤ three * 64 + six) (hgreatest : three * 64 + six < 0x110) :
    String.utf8EncodeChar (Char.ofNat (((three * 64 + six) * 64 + more) * 64 + last))
      = [UInt8.ofNat (three + 240), UInt8.ofNat (six + 128), UInt8.ofNat (more + 128),
        UInt8.ofNat (last + 128)] := by
  have hvalue := toNat_ofNat_of_valid (v := ((three * 64 + six) * 64 + more) * 64 + last) (by
    unfold Nat.isValidChar
    omega)
  generalize hv : ((three * 64 + six) * 64 + more) * 64 + last = v at hvalue ⊢
  rw [String.utf8EncodeChar, hvalue, if_neg (by omega), if_neg (by omega), if_neg (by omega)]
  rw [show v / 262144 % 8 = three by omega, show v / 4096 % 64 = six by omega,
    show v / 64 % 64 = more by omega, show v % 64 = last by omega]

/-- What an announcement says, in the bits that the leading octet carries. -/
inductive Leads : UInt8 → Lead → Prop
  | two {five : Nat} (low : 2 ≤ five) (high : five < 32) :
      Leads (UInt8.ofNat (five + 192)) ⟨five, 0x80, 0xbf, 0⟩
  | three {four : Nat} (high : four < 16) :
      Leads (UInt8.ofNat (four + 224))
        ⟨four, if four = 0 then 0xa0 else 0x80, if four = 13 then 0x9f else 0xbf, 1⟩
  | four {three : Nat} (high : three < 5) :
      Leads (UInt8.ofNat (three + 240))
        ⟨three, if three = 0 then 0x90 else 0x80, if three = 4 then 0x8f else 0xbf, 2⟩

lemma leads_of_lead? {b : UInt8} {l : Lead} (h : lead? b = some l) : Leads b l := by
  have hlead : ¬ b.toNat < 0xc2 := by
    intro hlt
    rw [lead?, if_pos (UInt8.lt_iff_toNat_lt.mpr hlt)] at h
    cases h
  have hoctet : ∀ bits base, bits + base = b.toNat → b = UInt8.ofNat (bits + base) := by
    intro bits base hsum
    rw [hsum, UInt8.ofNat_toNat]
  by_cases htwo : b.toNat < 0xe0
  · obtain ⟨five, hfive⟩ : ∃ five, five + 192 = b.toNat := ⟨b.toNat - 192, by omega⟩
    obtain rfl := hoctet five 192 hfive
    rw [lead?_two (by omega) (by omega)] at h
    cases h
    exact .two (by omega) (by omega)
  by_cases hthree : b.toNat < 0xf0
  · obtain ⟨four, hfour⟩ : ∃ four, four + 224 = b.toNat := ⟨b.toNat - 224, by omega⟩
    obtain rfl := hoctet four 224 hfour
    rw [lead?_three (by omega)] at h
    cases h
    exact .three (by omega)
  by_cases hfour : b.toNat < 0xf5
  · obtain ⟨three, hthree⟩ : ∃ three, three + 240 = b.toNat := ⟨b.toNat - 240, by omega⟩
    obtain rfl := hoctet three 240 hthree
    rw [lead?_four (by omega)] at h
    cases h
    exact .four (by omega)
  · have hnone : lead? b = none := by
      simp only [lead?, UInt8.lt_iff_toNat_lt, ← UInt8.toNat_inj, UInt8.reduceToNat]
      split_ifs <;> first | rfl | omega
    rw [hnone] at h
    cases h

/-- An octet that continues a character, and what there is behind it. -/
lemma continuation_some {value more v : Nat} {low high : UInt8} {octets left : Octets}
    (hlow : 0x80 ≤ low.toNat) (hhigh : high.toNat ≤ 0xbf) :
    continuation value low high more octets = (some v, left) →
    ∃ six rest, six < 64 ∧ low.toNat ≤ six + 128 ∧ six + 128 ≤ high.toNat ∧
      octets = UInt8.ofNat (six + 128) :: rest ∧
      (match more with
        | 0 => (some (value * 64 + six), rest)
        | more + 1 => continuation (value * 64 + six) 0x80 0xbf more rest) = (some v, left) := by
  intro h
  cases octets with
  | nil => cases more <;> cases h
  | cons b rest =>
    by_cases hfits : low ≤ b ∧ b ≤ high
    · rw [UInt8.le_iff_toNat_le, UInt8.le_iff_toNat_le] at hfits
      obtain ⟨six, hsix⟩ : ∃ six, six + 128 = b.toNat := ⟨b.toNat - 128, by omega⟩
      rw [← hsix] at hfits
      have hb : b = UInt8.ofNat (six + 128) := by rw [hsix, UInt8.ofNat_toNat]
      subst hb
      rw [continuation_cons (by omega) hfits.1 hfits.2] at h
      exact ⟨six, rest, by omega, hfits.1, hfits.2, rfl, h⟩
    · rw [continuation, if_neg hfits] at h
      cases h

lemma continuation_inner_some {value more v : Nat} {octets left : Octets} :
    continuation value 0x80 0xbf more octets = (some v, left) →
    ∃ six rest, six < 64 ∧ octets = UInt8.ofNat (six + 128) :: rest ∧
      (match more with
        | 0 => (some (value * 64 + six), rest)
        | more + 1 => continuation (value * 64 + six) 0x80 0xbf more rest) = (some v, left) := by
  intro h
  obtain ⟨six, rest, hsix, -, -, hoctets, hrest⟩ := continuation_some (by decide) (by decide) h
  exact ⟨six, rest, hsix, hoctets, hrest⟩

/-- A value that is read behind a leading octet is that of the character in front. -/
lemma Leads.eq_of_continuation {b : UInt8} {l : Lead} (hleads : Leads b l) {rest left : Octets}
    {v : Nat} (h : continuation l.value l.low l.high l.more rest = (some v, left)) :
    b :: rest = String.utf8EncodeChar (Char.ofNat v) ++ left := by
  cases hleads with
  | @two five hlow hhigh =>
    obtain ⟨six, rest, hsix, rfl, hend⟩ := continuation_inner_some h
    cases hend
    rw [utf8EncodeChar_two hlow hhigh hsix]
    rfl
  | @three four hfour =>
    obtain ⟨six, rest, hsix, hleast, hmost, rfl, hbehind⟩ := continuation_some
      (by dsimp only; split_ifs <;> decide) (by dsimp only; split_ifs <;> decide) h
    obtain ⟨last, rest, hlast, rfl, hend⟩ := continuation_inner_some hbehind
    cases hend
    have hlong : 0x20 ≤ four * 64 + six := by
      by_cases hfirst : four = 0
      · have hleast : 160 ≤ six + 128 := by simpa [hfirst] using hleast
        omega
      · omega
    have hsurrogate : four * 64 + six < 0x360 ∨ 0x37f < four * 64 + six := by
      by_cases hthirteen : four = 13
      · have hmost : six + 128 ≤ 159 := by simpa [hthirteen] using hmost
        omega
      · omega
    rw [utf8EncodeChar_three hfour hsix hlast hlong hsurrogate]
    rfl
  | @four three hthree =>
    obtain ⟨six, rest, hsix, hleast, hmost, rfl, hbehind⟩ := continuation_some
      (by dsimp only; split_ifs <;> decide) (by dsimp only; split_ifs <;> decide) h
    obtain ⟨more, rest, hmore, rfl, hbehind'⟩ := continuation_inner_some hbehind
    obtain ⟨last, rest, hlast, rfl, hend⟩ := continuation_inner_some hbehind'
    cases hend
    have hlong : 0x10 ≤ three * 64 + six := by
      by_cases hfirst : three = 0
      · have hleast : 144 ≤ six + 128 := by simpa [hfirst] using hleast
        omega
      · omega
    have hgreatest : three * 64 + six < 0x110 := by
      by_cases hlargest : three = 4
      · have hmost : six + 128 ≤ 143 := by simpa [hlargest] using hmost
        omega
      · omega
    rw [utf8EncodeChar_four hsix hmore hlast hlong hgreatest]
    rfl

/-- A character that is read is what the octets begin with. -/
lemma eq_of_firstChar {b : UInt8} {rest left : Octets} {c : Char}
    (h : firstChar b rest = (some c, left)) : b :: rest = String.utf8EncodeChar c ++ left := by
  by_cases hascii : b < 0x80
  · rw [firstChar, if_pos hascii] at h
    cases h
    rw [UInt8.lt_iff_toNat_lt] at hascii
    have hvalue := toNat_ofNat_of_valid (v := b.toNat) (.inl (Nat.lt_trans hascii (by decide)))
    rw [Octets.utf8EncodeChar_ascii (by rw [hvalue]; exact Nat.le_of_lt_succ hascii), hvalue,
      UInt8.ofNat_toNat]
    rfl
  · cases hlead : lead? b with
    | none =>
      rw [firstChar, if_neg hascii, hlead] at h
      cases h
    | some l =>
      rw [firstChar_of_lead hlead, Prod.mk.injEq, Option.map_eq_some_iff] at h
      obtain ⟨⟨v, hv, rfl⟩, hleft⟩ := h
      exact (leads_of_lead? hlead).eq_of_continuation (Prod.ext hv hleft)

/-- A character is read exactly if the octets begin with it. -/
theorem firstChar_eq_some_iff {b : UInt8} {rest left : Octets} {c : Char} :
    firstChar b rest = (some c, left) ↔ b :: rest = String.utf8EncodeChar c ++ left := by
  constructor
  · exact eq_of_firstChar
  · intro h
    obtain ⟨b', more, hoctets, hread⟩ := firstChar_utf8EncodeChar c left
    rw [hoctets, List.cons_append, List.cons.injEq] at h
    rw [h.1, h.2, hread]

/-! ### Ill-formed parts that are read -/

/-- What a character needs is there in some continuation of each kind. -/
lemma continuation_complete (value : Nat) {low high : UInt8} (hrange : low ≤ high) (more : Nat) :
    ∃ v, continuation value low high more (low :: List.replicate more 0x80) = (some v, []) := by
  induction more generalizing value low high with
  | zero =>
    refine ⟨value * 64 + (low.toNat - 0x80), ?_⟩
    rw [continuation, if_pos ⟨UInt8.le_refl low, hrange⟩]
    rfl
  | succ more ih =>
    obtain ⟨v, hv⟩ :=
      ih (value * 64 + (low.toNat - 0x80)) (by decide : (0x80 : UInt8) ≤ 0xbf)
    refine ⟨v, ?_⟩
    rw [continuation, if_pos ⟨UInt8.le_refl low, hrange⟩]
    exact hv

/-- Where the octets of a character break off, what fits could have gone on, and it breaks off
there whatever follows the octet that does not fit. -/
lemma continuation_none {value more : Nat} {low high : UInt8} {octets left : Octets}
    (hrange : low ≤ high) (h : continuation value low high more octets = (none, left)) :
    ∃ taken, octets = taken ++ left ∧
      (∃ missing v, continuation value low high more (taken ++ missing) = (some v, [])) ∧
      ∀ next behind, left = next :: behind → ∀ other,
        continuation value low high more (taken ++ next :: other) = (none, next :: other) := by
  induction octets generalizing value low high more with
  | nil =>
    obtain ⟨v, hv⟩ := continuation_complete value hrange more
    have hleft : left = [] := by cases more <;> cases h <;> rfl
    subst hleft
    exact ⟨[], rfl, ⟨_, v, hv⟩, nofun⟩
  | cons b rest ih =>
    by_cases hfits : low ≤ b ∧ b ≤ high
    · rw [continuation, if_pos hfits] at h
      cases more with
      | zero => cases h
      | succ more =>
        obtain ⟨taken, hoctets, ⟨missing, v, hmissing⟩, hstops⟩ := ih (by decide) h
        refine ⟨b :: taken, by rw [hoctets]; rfl, ⟨missing, v, ?_⟩, ?_⟩
        · rw [List.cons_append, continuation, if_pos hfits]
          exact hmissing
        · intro next behind hleft other
          rw [List.cons_append, continuation, if_pos hfits]
          exact hstops next behind hleft other
    · rw [continuation, if_neg hfits] at h
      cases h
      obtain ⟨v, hv⟩ := continuation_complete value hrange more
      refine ⟨[], rfl, ⟨_, v, hv⟩, ?_⟩
      rintro next behind hnext other
      cases hnext
      rw [List.nil_append, continuation, if_neg hfits]

lemma Leads.low_le {b : UInt8} {l : Lead} (h : Leads b l) : l.low ≤ l.high := by
  cases h with
  | two => exact (by decide : (0x80 : UInt8) ≤ 0xbf)
  | three =>
    dsimp only
    split_ifs <;> first | decide | omega
  | four =>
    dsimp only
    split_ifs <;> first | decide | omega

/-- An ill-formed part that is read is one octet or begins a character, and it is read whatever
follows the octet behind it. -/
lemma firstChar_none {b : UInt8} {rest left : Octets} (h : firstChar b rest = (none, left)) :
    ∃ taken, rest = taken ++ left ∧ (taken = [] ∨ Begins (b :: taken)) ∧
      ∀ next behind, left = next :: behind → ∀ other,
        firstChar b (taken ++ next :: other) = (none, next :: other) := by
  have hascii : ¬ b < 0x80 := by
    intro hascii
    rw [firstChar, if_pos hascii] at h
    cases h
  cases hlead : lead? b with
  | none =>
    have hnone : ∀ octets, firstChar b octets = (none, octets) := by
      intro octets
      rw [firstChar, if_neg hascii, hlead]
    obtain rfl : rest = left := (Prod.mk.inj ((hnone rest).symm.trans h)).2
    exact ⟨[], rfl, .inl rfl, fun next _ _ other => hnone (next :: other)⟩
  | some l =>
    rw [firstChar_of_lead hlead, Prod.mk.injEq, Option.map_eq_none_iff] at h
    obtain ⟨taken, hrest, ⟨missing, v, hmissing⟩, hstops⟩ :=
      continuation_none (leads_of_lead? hlead).low_le (Prod.ext h.1 h.2)
    refine ⟨taken, hrest, .inr ⟨Char.ofNat v, missing, ?_⟩, ?_⟩
    · simpa using (leads_of_lead? hlead).eq_of_continuation hmissing
    · intro next behind hleft other
      rw [firstChar_of_lead hlead, hstops next behind hleft other]
      rfl

/-- What is read as no character is an ill-formed part. -/
theorem illFormed_of_firstChar {b : UInt8} {rest left : Octets}
    (h : firstChar b rest = (none, left)) :
    ∃ taken, rest = taken ++ left ∧ IllFormed (b :: taken) left := by
  obtain ⟨taken, rfl, hbegins, hstops⟩ := firstChar_none h
  refine ⟨taken, rfl, List.cons_ne_nil _ _, ?_, ?_, ?_⟩
  · cases hbegins with
    | inl hnil => exact .inr (by rw [hnil]; rfl)
    | inr hbegins => exact .inl hbegins
  · rintro front hfront ⟨c, missing, hmissing⟩
    by_contra hlong
    obtain ⟨extra, rfl⟩ : b :: taken <+: front :=
      List.prefix_of_prefix_length_le (List.prefix_append _ _) hfront (Nat.le_of_not_le hlong)
    obtain ⟨behind, rfl⟩ : extra <+: left := by simpa using hfront
    cases extra with
    | nil => simp at hlong
    | cons next extra =>
      -- the octet that does not fit would be one of the character
      have hread : firstChar b (taken ++ next :: (extra ++ missing)) = (some c, []) := by
        rw [firstChar_eq_some_iff, List.append_nil, ← hmissing]
        simp
      rw [hstops next _ rfl] at hread
      cases hread
  · rintro c ⟨behind, hbehind⟩
    have hread : firstChar b (taken ++ left) = (some c, behind) :=
      firstChar_eq_some_iff.mpr hbehind.symm
    rw [h] at hread
    cases hread

/-- No ill-formed part in front of octets is longer than another. -/
lemma IllFormed.length_le {part rest part' rest' : Octets} (h : IllFormed part rest)
    (h' : IllFormed part' rest') (heq : part ++ rest = part' ++ rest') :
    part.length ≤ part'.length := by
  cases h.begins with
  | inl hbegins =>
    apply h'.longest part _ hbegins
    rw [← heq]
    exact List.prefix_append _ _
  | inr hone =>
    rw [hone]
    exact List.length_pos_iff.mpr h'.nonempty

/-! ### All octets -/

lemma partsOnto_append (got behind : List (Option Char)) (octets : Octets) :
    partsOnto (got ++ behind) octets = partsOnto got octets ++ behind := by
  fun_induction partsOnto got octets with
  | case1 got => rw [partsOnto]
  | case2 got b rest ih => rw [partsOnto, ← List.cons_append, ih]

@[simp] lemma parts_nil : parts [] = [] := by
  rw [parts, partsOnto]
  rfl

lemma parts_cons (b : UInt8) (rest : Octets) :
    parts (b :: rest) = (firstChar b rest).1 :: parts (firstChar b rest).2 := by
  have hrest := partsOnto_append [] [(firstChar b rest).1] (firstChar b rest).2
  rw [List.nil_append] at hrest
  rw [parts, parts, partsOnto, hrest, List.reverse_append]
  rfl

/-- Octets are read in their parts. -/
theorem parted_parts (octets : Octets) : Parted octets (parts octets) := by
  induction hlength : octets.length using Nat.strong_induction_on generalizing octets with
  | _ length ih =>
    cases octets with
    | nil =>
      rw [parts_nil]
      exact .nil
    | cons b rest =>
      have hshorter := Nat.lt_succ_of_le (firstChar_length_le b rest)
      rw [parts_cons]
      rcases hread : firstChar b rest with ⟨_ | c, left⟩
      · rw [hread] at hshorter
        obtain ⟨taken, rfl, hpart⟩ := illFormed_of_firstChar hread
        exact .illFormed hpart (ih _ (hlength ▸ hshorter) left rfl)
      · rw [hread] at hshorter
        rw [firstChar_eq_some_iff.mp hread]
        exact .char c (ih _ (hlength ▸ hshorter) left rfl)

/-- There is no other way to part octets. -/
theorem Parted.eq_parts {octets : Octets} {ps : List (Option Char)} (h : Parted octets ps) :
    ps = parts octets := by
  induction h with
  | nil => exact parts_nil.symm
  | @char c rest ps h ih =>
    obtain ⟨b, more, hoctets, hread⟩ := firstChar_utf8EncodeChar c rest
    rw [hoctets, List.cons_append, parts_cons, hread, ih]
  | @illFormed part rest ps hpart h ih =>
    obtain ⟨b, more, rfl⟩ := List.exists_cons_of_ne_nil hpart.nonempty
    rw [List.cons_append, parts_cons]
    rcases hread : firstChar b (more ++ rest) with ⟨_ | c, left⟩
    · obtain ⟨taken, htaken, hpart'⟩ := illFormed_of_firstChar hread
      have heq : b :: more ++ rest = b :: taken ++ left := congrArg (b :: ·) htaken
      have hlength := Nat.le_antisymm (hpart.length_le hpart' heq) (hpart'.length_le hpart heq.symm)
      obtain ⟨-, rfl⟩ := List.append_inj heq hlength
      rw [ih]
    · exact absurd ⟨left, (firstChar_eq_some_iff.mp hread).symm⟩ (hpart.no_char c)

theorem parted_iff (octets : Octets) (ps : List (Option Char)) :
    Parted octets ps ↔ ps = parts octets := by
  constructor
  · exact Parted.eq_parts
  · rintro rfl
    exact parted_parts octets

/-- Lossy decoding answers the one text of any octets. -/
theorem lossy_iff (octets : Octets) (text : String) :
    Lossy octets text ↔ text = decodeLossy octets := by
  simp only [Lossy, parted_iff, exists_eq_left, decodeLossy]

-- three octets that begin a character are one part, and those of a surrogate are one each
example : decodeLossy [0xf0, 0x9f, 0x92, 0x61, 0xed, 0xa0, 0x80] = "\uFFFDa\uFFFD\uFFFD\uFFFD" := by
  decide +kernel

/-- Octets without an ill-formed part are those of their characters. -/
lemma Parted.eq_ofString {octets : Octets} {ps : List (Option Char)} (h : Parted octets ps)
    (hps : ∀ part ∈ ps, part.isSome) : octets = Octets.ofString (String.ofList (ps.filterMap id)) := by
  rw [Octets.ofString_ofList]
  induction h with
  | nil => rfl
  | @char c rest ps h ih =>
    obtain ⟨-, hrest⟩ := List.forall_mem_cons.mp hps
    show String.utf8EncodeChar c ++ rest
      = String.utf8EncodeChar c ++ (ps.filterMap id).flatMap String.utf8EncodeChar
    rw [← ih hrest]
  | illFormed hpart h ih =>
    obtain ⟨hnone, -⟩ := List.forall_mem_cons.mp hps
    cases hnone

/-- Strict decoding answers a text exactly if the octets are those of the text. -/
theorem decode?_eq_some_iff (octets : Octets) (text : String) :
    decode? octets = some text ↔ octets = Octets.ofString text := by
  constructor
  · intro h
    rw [decode?] at h
    split_ifs at h with hall
    rw [List.all_eq_true] at hall
    rw [← Option.some.inj h]
    exact (parted_parts octets).eq_ofString hall
  · rintro rfl
    exact decode?_ofString text

end Text

end Mailwire
