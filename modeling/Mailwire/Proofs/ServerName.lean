import Mailwire.Proofs.Address
import Mailwire.ServerName

/-!
# Names of servers are never addresses

A DNS name that a server can be asked for by ends in a label that is not a number, and it holds no
octet but those of labels and dots. So it ends in one dot at most, and no literal of an address is
such a name: a dotted literal ends in a number, and a literal in groups holds a colon
(`ServerName.parse?_literal`).
-/

namespace Mailwire

namespace DnsName

/-! ### Labels -/

lemma labels_ne_nil (name : Octets) : labels name ≠ [] := by
  cases name with
  | nil => simp [labels]
  | cons b rest =>
    rw [labels]
    split_ifs
    · simp
    · split <;> simp

/-- A dot ends one row of labels and begins another. -/
lemma labels_append (front behind : Octets) :
    labels (front ++ dot :: behind) = labels front ++ labels behind := by
  induction front with
  | nil => simp [labels]
  | cons b front ih =>
    by_cases hb : b = dot
    · simp [labels, hb, ih]
    · obtain ⟨l, more, hl⟩ := List.exists_cons_of_ne_nil (labels_ne_nil front)
      simp [labels, hb, ih, hl]

lemma labels_of_notMem {label : Octets} (h : dot ∉ label) : labels label = [label] := by
  induction label with
  | nil => rfl
  | cons b label ih =>
    obtain ⟨hb, hlabel⟩ := not_or.mp (List.mem_cons.not.mp h)
    simp [labels, Ne.symm hb, ih hlabel]

lemma mem_labels {b : UInt8} {name : Octets} (h : b ∈ name) :
    b = dot ∨ ∃ label ∈ labels name, b ∈ label := by
  induction name with
  | nil => cases h
  | cons a rest ih =>
    obtain ⟨l, more, hl⟩ := List.exists_cons_of_ne_nil (labels_ne_nil rest)
    by_cases ha : a = dot
    · rcases List.mem_cons.mp h with rfl | hrest
      · exact .inl ha
      · rcases ih hrest with hdot | ⟨label, hlabel, hmem⟩
        · exact .inl hdot
        · exact .inr ⟨label, by simp [labels, ha, hlabel], hmem⟩
    · have hrow : labels (a :: rest) = (a :: l) :: more := by simp [labels, ha, hl]
      rcases List.mem_cons.mp h with rfl | hrest
      · exact .inr ⟨b :: l, by simp [hrow], by simp⟩
      · rcases ih hrest with hdot | ⟨label, hlabel, hmem⟩
        · exact .inl hdot
        · right
          rw [hl] at hlabel
          rcases List.mem_cons.mp hlabel with rfl | hmore
          · exact ⟨a :: label, by simp [hrow], by simp [hmem]⟩
          · exact ⟨label, by simp [hrow, hmore], hmem⟩

/-! ### Valid rows -/

lemma validLabel_of_mem {row : List Octets} {label : Octets} (h : validLabels row)
    (hlabel : label ∈ row) : validLabel label := by
  simp only [validLabels, Bool.and_eq_true, List.all_eq_true] at h
  exact h.1.2 label hlabel

/-- A valid row of labels holds no octet but dots and those that are allowed in labels. -/
lemma eq_dot_or_isLabelOctet {name : Octets} (h : validLabels (labels name)) {b : UInt8}
    (hb : b ∈ name) : b = dot ∨ isLabelOctet b := by
  rcases mem_labels hb with hdot | ⟨label, hlabel, hmem⟩
  · exact .inl hdot
  · right
    have hvalid := validLabel_of_mem h hlabel
    simp only [validLabel, Bool.and_eq_true, List.all_eq_true] at hvalid
    exact hvalid.1.1.2 b hmem

lemma getLast?_ne_dot {name : Octets} (h : validLabels (labels name)) :
    name.getLast? ≠ some dot := by
  intro hdot
  obtain ⟨front, rfl⟩ := List.getLast?_eq_some_iff.mp hdot
  have hempty : [] ∈ labels (front ++ [dot]) := by simp [labels_append, labels]
  have hvalid := validLabel_of_mem h hempty
  simp [validLabel] at hvalid

/-- Behind a dot at the end of a valid row there is no number. -/
lemma not_validLabels_number {front number : Octets} (hdigits : ∀ b ∈ number, isDigit b) :
    ¬ validLabels (labels (front ++ dot :: number)) := by
  intro h
  have hdot : dot ∉ number := by
    intro hmem
    exact absurd (hdigits dot hmem) (by decide)
  rw [labels_append, labels_of_notMem hdot] at h
  simp only [validLabels, List.getLast?_concat, Bool.and_eq_true, Bool.not_eq_true'] at h
  have hall : number.all isDigit := List.all_eq_true.mpr hdigits
  simp [hall] at h

lemma getLast?_number_ne_dot {front number : Octets} (hne : number ≠ [])
    (hdigits : ∀ b ∈ number, isDigit b) : (front ++ dot :: number).getLast? ≠ some dot := by
  obtain ⟨start, last, rfl⟩ := (List.eq_nil_or_concat' number).resolve_left hne
  have hlast : isDigit last := hdigits last (by simp)
  have hconcat : front ++ dot :: (start ++ [last]) = (front ++ dot :: start) ++ [last] := by simp
  rw [hconcat, List.getLast?_concat]
  rintro ⟨⟩
  exact absurd hlast (by decide)

/-! ### Final dots -/

lemma withoutFinalDot_of_ne {name : Octets} (h : name.getLast? ≠ some dot) :
    withoutFinalDot name = name :=
  if_neg h

lemma withoutFinalDot_concat (name : Octets) : withoutFinalDot (name ++ [dot]) = name := by
  simp [withoutFinalDot]

lemma mem_withoutFinalDot {b : UInt8} {name : Octets} (h : b ∈ name) (hb : b ≠ dot) :
    b ∈ withoutFinalDot name := by
  by_cases hdot : name.getLast? = some dot
  · obtain ⟨front, rfl⟩ := List.getLast?_eq_some_iff.mp hdot
    rw [withoutFinalDot_concat]
    simpa [hb] using h
  · rwa [withoutFinalDot_of_ne hdot]

end DnsName

namespace IpAddress

/-! ### Literals as octets -/

lemma utf8EncodeChar_digit {c : Char} (h : (digit? 10 c).isSome) :
    ∀ b ∈ String.utf8EncodeChar c, DnsName.isDigit b := by
  have hrange : 0x30 ≤ c.toNat ∧ c.toNat ≤ 0x39 := by
    by_cases hdigit : '0' ≤ c ∧ c ≤ '9'
    · exact hdigit
    · simp only [digit?, hdigit, if_false] at h
      split_ifs at h <;> simp at h
  have hsmall : c.toNat ≤ 0x7f := by omega
  intro b hb
  obtain rfl : b = UInt8.ofNat c.toNat := by simpa [String.utf8EncodeChar, hsmall] using hb
  have hmod : c.toNat % 2 ^ 8 = c.toNat := Nat.mod_eq_of_lt (by omega)
  simp only [DnsName.isDigit, UInt8.le_iff_toNat_le, UInt8.toNat_ofNat', hmod, Bool.and_eq_true,
    decide_eq_true_eq]
  exact hrange

end IpAddress

namespace ServerName

/-- No literal of an address is a DNS name that a server can be asked for by. -/
theorem parse?_literal {host : String} (h : DnsName.isReference (Octets.ofString host)) :
    IpAddress.parse? host = none := by
  simp only [DnsName.isReference, Bool.and_eq_true] at h
  obtain ⟨-, hvalid⟩ := h
  by_contra hsome
  obtain ⟨ip, hip⟩ := Option.ne_none_iff_exists'.mp hsome
  rcases IpAddress.parse?_split hip with ⟨front, number, hsplit, hne, hdigits⟩ | hcolon
  · have hname : Octets.ofString host = front.flatMap String.utf8EncodeChar
        ++ DnsName.dot :: number.flatMap String.utf8EncodeChar := by
      rw [Octets.ofString, hsplit, List.flatMap_append, List.flatMap_cons]
      rfl
    have hoctets : ∀ b ∈ number.flatMap String.utf8EncodeChar, DnsName.isDigit b := by
      intro b hb
      obtain ⟨c, hc, hmem⟩ := List.mem_flatMap.mp hb
      exact IpAddress.utf8EncodeChar_digit (hdigits c hc) b hmem
    have hsome : number.flatMap String.utf8EncodeChar ≠ [] := by
      intro hnone
      obtain ⟨c, hc⟩ := List.exists_mem_of_ne_nil number hne
      exact String.utf8EncodeChar_ne_nil (List.flatMap_eq_nil_iff.mp hnone c hc)
    rw [hname, DnsName.withoutFinalDot_of_ne (DnsName.getLast?_number_ne_dot hsome hoctets)]
      at hvalid
    exact DnsName.not_validLabels_number hoctets hvalid
  · have hmem : (0x3a : UInt8) ∈ Octets.ofString host :=
      List.mem_flatMap.mpr ⟨':', hcolon, by decide⟩
    have hkept := DnsName.mem_withoutFinalDot hmem (by decide)
    rcases DnsName.eq_dot_or_isLabelOctet hvalid hkept with hdot | hlabel
    · exact absurd hdot (by decide)
    · exact absurd hlabel (by decide)

end ServerName

end Mailwire
