import Mathlib.Tactic
import Mailwire.Text.Utf8

/-!
# Decoding what was encoded

The octets of a character are read as that character, whatever follows them
(`Text.firstChar_utf8EncodeChar`), so the octets of a text are read as the text, strictly and lossily
(`Text.decode?_ofString`, `Text.decodeLossy_ofString`).

An octet of an ASCII character stands in no other character (`Octets.mem_utf8EncodeChar_iff`).
-/

namespace Mailwire

namespace Text

/-! ### One character -/

/-- An octet that continues a character adds six bits. -/
lemma continuation_cons {low high : UInt8} {six : Nat} (hsix : six < 64)
    (hlow : low.toNat ≤ six + 128) (hhigh : six + 128 ≤ high.toNat) (value more : Nat)
    (rest : Octets) :
    continuation value low high more (UInt8.ofNat (six + 128) :: rest)
      = match more with
        | 0 => (some (value * 64 + six), rest)
        | more + 1 => continuation (value * 64 + six) 0x80 0xbf more rest := by
  have hnat : (UInt8.ofNat (six + 128)).toNat = six + 128 := by
    rw [UInt8.toNat_ofNat']
    omega
  rw [continuation, if_pos]
  · cases more with
    | zero => simp only [hnat, Nat.add_sub_cancel]
    | succ more => simp only [hnat, Nat.add_sub_cancel]
  · rw [UInt8.le_iff_toNat_le, UInt8.le_iff_toNat_le, hnat]
    exact ⟨hlow, hhigh⟩

lemma continuation_inner {six : Nat} (hsix : six < 64) (value more : Nat) (rest : Octets) :
    continuation value 0x80 0xbf more (UInt8.ofNat (six + 128) :: rest)
      = match more with
        | 0 => (some (value * 64 + six), rest)
        | more + 1 => continuation (value * 64 + six) 0x80 0xbf more rest :=
  continuation_cons hsix (Nat.le_add_left _ _) (Nat.le_of_lt_succ (Nat.add_lt_add_right hsix _))
    value more rest

lemma lead?_two {five : Nat} (hlow : 2 ≤ five) (hhigh : five < 32) :
    lead? (UInt8.ofNat (five + 192)) = some ⟨five, 0x80, 0xbf, 0⟩ := by
  interval_cases five <;> rfl

/-- Behind two of the leading octets of three there is no room for all octets. -/
lemma lead?_three {four : Nat} (h : four < 16) :
    lead? (UInt8.ofNat (four + 224))
      = some ⟨four, if four = 0 then 0xa0 else 0x80, if four = 13 then 0x9f else 0xbf, 1⟩ := by
  interval_cases four <;> rfl

lemma lead?_four {three : Nat} (h : three < 5) :
    lead? (UInt8.ofNat (three + 240))
      = some ⟨three, if three = 0 then 0x90 else 0x80, if three = 4 then 0x8f else 0xbf, 2⟩ := by
  interval_cases three <;> rfl

lemma firstChar_of_lead {b : UInt8} {l : Lead} (h : lead? b = some l) (rest : Octets) :
    firstChar b rest = ((continuation l.value l.low l.high l.more rest).1.map Char.ofNat,
      (continuation l.value l.low l.high l.more rest).2) := by
  have hlead : ¬ b < 0x80 := by
    intro hlt
    have hlt : b < 0xc2 := UInt8.lt_trans hlt (by decide)
    simp [lead?, hlt] at h
  rw [firstChar, if_neg hlead, h]

lemma firstChar_two (five : Nat) {six : Nat} (hlow : 2 ≤ five) (hhigh : five < 32) (hsix : six < 64)
    (rest : Octets) :
    firstChar (UInt8.ofNat (five + 192)) (UInt8.ofNat (six + 128) :: rest)
      = (some (Char.ofNat (five * 64 + six)), rest) := by
  rw [firstChar_of_lead (lead?_two hlow hhigh), continuation_inner hsix]
  rfl

/-- Three octets hold no values for which two are enough, and no surrogates. -/
lemma firstChar_three (four : Nat) {six last : Nat} (hfour : four < 16) (hsix : six < 64)
    (hlast : last < 64) (hlong : 0x20 ≤ four * 64 + six)
    (hsurrogate : four * 64 + six < 0x360 ∨ 0x37f < four * 64 + six) (rest : Octets) :
    firstChar (UInt8.ofNat (four + 224)) (UInt8.ofNat (six + 128) :: UInt8.ofNat (last + 128) :: rest)
      = (some (Char.ofNat ((four * 64 + six) * 64 + last)), rest) := by
  have hlow : (if four = 0 then 0xa0 else 0x80 : UInt8).toNat ≤ six + 128 := by
    split_ifs with hleast
    · show 160 ≤ _
      omega
    · exact Nat.le_add_left _ _
  have hhigh : six + 128 ≤ (if four = 13 then 0x9f else 0xbf : UInt8).toNat := by
    split_ifs with hmiddle
    · show _ ≤ 159
      omega
    · show _ ≤ 191
      omega
  rw [firstChar_of_lead (lead?_three hfour), continuation_cons hsix hlow hhigh]
  dsimp only
  rw [continuation_inner hlast]
  rfl

/-- Four octets hold no values for which three are enough, and none above the last character. -/
lemma firstChar_four (three : Nat) {six more last : Nat} (hsix : six < 64)
    (hmore : more < 64) (hlast : last < 64) (hlong : 0x10 ≤ three * 64 + six)
    (hgreatest : three * 64 + six < 0x110) (rest : Octets) :
    firstChar (UInt8.ofNat (three + 240)) (UInt8.ofNat (six + 128) :: UInt8.ofNat (more + 128)
        :: UInt8.ofNat (last + 128) :: rest)
      = (some (Char.ofNat (((three * 64 + six) * 64 + more) * 64 + last)), rest) := by
  have hlow : (if three = 0 then 0x90 else 0x80 : UInt8).toNat ≤ six + 128 := by
    split_ifs with hleast
    · show 144 ≤ _
      omega
    · exact Nat.le_add_left _ _
  have hhigh : six + 128 ≤ (if three = 4 then 0x8f else 0xbf : UInt8).toNat := by
    split_ifs with hlast
    · show _ ≤ 143
      omega
    · show _ ≤ 191
      omega
  rw [firstChar_of_lead (lead?_four (by omega)), continuation_cons hsix hlow hhigh]
  dsimp only
  rw [continuation_inner hmore]
  dsimp only
  rw [continuation_inner hlast]
  rfl

/-- The octets of a character are read as the character, and nothing behind them is. -/
theorem firstChar_utf8EncodeChar (c : Char) (rest : Octets) :
    ∃ b more, String.utf8EncodeChar c = b :: more ∧ firstChar b (more ++ rest) = (some c, rest) := by
  have hvalue : Char.ofNat c.val.toNat = c := Char.ofNat_toNat c
  have hvalid : c.val.toNat < 0xd800 ∨ 0xdfff < c.val.toNat ∧ c.val.toNat < 0x110000 := c.valid
  rw [String.utf8EncodeChar]
  generalize c.val.toNat = v at hvalue hvalid
  have hsix : ∀ n : Nat, n % 64 < 64 := fun n => Nat.mod_lt n (by decide)
  split_ifs with hone htwo hthree
  · refine ⟨_, _, rfl, ?_⟩
    have hnat : (UInt8.ofNat v).toNat = v := by
      rw [UInt8.toNat_ofNat']
      omega
    have hascii : UInt8.ofNat v < 0x80 := by
      rw [UInt8.lt_iff_toNat_lt, hnat]
      exact Nat.lt_succ_of_le hone
    rw [firstChar, if_pos hascii, hnat, hvalue, List.nil_append]
  · have hsum : v / 64 % 32 * 64 + v % 64 = v := by omega
    have hread := firstChar_two (v / 64 % 32) (by omega) (by omega) (hsix v) rest
    rw [hsum, hvalue] at hread
    exact ⟨_, _, rfl, hread⟩
  · have hsum : (v / 4096 % 16 * 64 + v / 64 % 64) * 64 + v % 64 = v := by omega
    have hread := firstChar_three (v / 4096 % 16) (by omega) (hsix (v / 64)) (hsix v)
      (by omega) (by omega) rest
    rw [hsum, hvalue] at hread
    exact ⟨_, _, rfl, hread⟩
  · have hsum : ((v / 262144 % 8 * 64 + v / 4096 % 64) * 64 + v / 64 % 64) * 64 + v % 64 = v := by
      omega
    have hread := firstChar_four (v / 262144 % 8) (hsix (v / 4096)) (hsix (v / 64))
      (hsix v) (by omega) (by omega) rest
    rw [hsum, hvalue] at hread
    exact ⟨_, _, rfl, hread⟩

/-! ### Texts -/

lemma partsOnto_chars (got : List (Option Char)) (cs : List Char) :
    partsOnto got (cs.flatMap String.utf8EncodeChar) = (cs.map some).reverse ++ got := by
  induction cs generalizing got with
  | nil => rw [List.flatMap_nil, partsOnto]; rfl
  | cons c cs ih =>
    obtain ⟨b, more, hoctets, hfirst⟩ :=
      firstChar_utf8EncodeChar c (cs.flatMap String.utf8EncodeChar)
    rw [List.flatMap_cons, hoctets, List.cons_append, partsOnto, hfirst, ih]
    simp

/-- The octets of a text have its characters as their parts. -/
lemma parts_ofString (s : String) : parts (Octets.ofString s) = s.toList.map some := by
  rw [parts, Octets.ofString, partsOnto_chars]
  simp

theorem decodeLossy_ofString (s : String) : decodeLossy (Octets.ofString s) = s := by
  simp [decodeLossy, parts_ofString, Function.comp_def, String.ofList_toList]

theorem decode?_ofString (s : String) : decode? (Octets.ofString s) = some s := by
  simp [decode?, parts_ofString, String.ofList_toList]

/-- Where strict decoding answers, lossy decoding answers the same. -/
lemma decodeLossy_of_decode? {bs : Octets} {s : String} (h : decode? bs = some s) :
    decodeLossy bs = s := by
  have hparts : ∀ ps : List (Option Char), (∀ part ∈ ps, part.isSome) →
      ps.map (·.getD replacement) = ps.filterMap id := by
    intro ps hps
    induction ps with
    | nil => rfl
    | cons part ps ih =>
      obtain ⟨hpart, hrest⟩ := List.forall_mem_cons.mp hps
      obtain ⟨c, rfl⟩ := Option.isSome_iff_exists.mp hpart
      exact congrArg (c :: ·) (ih hrest)
  rw [decode?] at h
  split_ifs at h with hall
  rw [List.all_eq_true] at hall
  rw [decodeLossy, hparts _ hall]
  exact Option.some.inj h

end Text

namespace Octets

lemma length_ofString (s : String) : (ofString s).length = s.utf8ByteSize := by
  conv_rhs => rw [← String.ofList_toList (s := s)]
  rw [ofString, String.utf8ByteSize, String.toByteArray_ofList, List.utf8Encode,
    List.size_toByteArray]

lemma ofString_ofList (cs : List Char) :
    ofString (String.ofList cs) = cs.flatMap String.utf8EncodeChar := by
  rw [ofString, String.toList_ofList]

lemma utf8EncodeChar_ascii {c : Char} (h : c.val.toNat ≤ 127) :
    String.utf8EncodeChar c = [UInt8.ofNat c.val.toNat] := by
  rw [String.utf8EncodeChar, if_pos h]

/-- The octets of a character that is not ASCII are all large. -/
lemma le_of_mem_utf8EncodeChar {c : Char} (h : 127 < c.val.toNat) :
    ∀ b ∈ String.utf8EncodeChar c, 128 ≤ b.toNat := by
  have hlarge : ∀ n, 128 ≤ n → n < 256 → 128 ≤ (UInt8.ofNat n).toNat := by
    intro n hlow hhigh
    rw [UInt8.toNat_ofNat']
    omega
  rw [String.utf8EncodeChar, if_neg (by omega)]
  generalize c.val.toNat = v at h
  split_ifs with htwo hthree
  · simp only [List.forall_mem_cons]
    exact ⟨hlarge _ (by omega) (by omega), hlarge _ (by omega) (by omega), nofun⟩
  · simp only [List.forall_mem_cons]
    exact ⟨hlarge _ (by omega) (by omega), hlarge _ (by omega) (by omega),
      hlarge _ (by omega) (by omega), nofun⟩
  · simp only [List.forall_mem_cons]
    exact ⟨hlarge _ (by omega) (by omega), hlarge _ (by omega) (by omega),
      hlarge _ (by omega) (by omega), hlarge _ (by omega) (by omega), nofun⟩

/-- An octet of an ASCII character stands in no other character. -/
lemma mem_utf8EncodeChar_iff {b : UInt8} (hb : b.toNat ≤ 127) (c : Char) :
    b ∈ String.utf8EncodeChar c ↔ c.val.toNat = b.toNat := by
  by_cases h : c.val.toNat ≤ 127
  · rw [utf8EncodeChar_ascii h, List.mem_singleton, ← UInt8.toNat_inj, UInt8.toNat_ofNat']
    omega
  · constructor
    · intro hmem
      have := le_of_mem_utf8EncodeChar (Nat.lt_of_not_le h) b hmem
      omega
    · omega

end Octets

end Mailwire
