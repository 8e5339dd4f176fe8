import Mathlib.Tactic
import Mailwire.Certificate.Basic

/-!
# Damaged certificates

An element says itself how long it is, so it is read as it was whatever octets follow it
(`Der.readElement_append`). A front part of an element is therefore no element: with the rest behind it
there would be octets left (`Der.readElement_cut`).

A certificate is one element with nothing behind it. If octets are cut off it, or others are added, what
remains is no certificate (`Certificate.parse_damaged`).
-/

namespace Mailwire

namespace Der

lemma readLength_append {bs rest : Octets} {n : Nat} (h : readLength bs = some (n, rest))
    (more : Octets) : readLength (bs ++ more) = some (n, rest ++ more) := by
  cases bs with
  | nil => cases h
  | cons b tail =>
    rw [List.cons_append]
    simp only [readLength] at h ⊢
    by_cases hshort : b < 0x80
    · rw [if_pos hshort] at h ⊢
      obtain ⟨rfl, rfl⟩ := Prod.mk.inj (Option.some.inj h)
      rfl
    · rw [if_neg hshort] at h ⊢
      split_ifs at h with hcount hleast
      obtain ⟨rfl, rfl⟩ := Prod.mk.inj (Option.some.inj h)
      have hlength : b.toNat - 0x80 ≤ tail.length := by
        rw [List.length_take] at hcount
        omega
      rw [List.take_append_of_le_length hlength, List.drop_append_of_le_length hlength,
        if_neg hcount, if_neg hleast]

/-- An element is read as it was, whatever follows it. -/
theorem readElement_append {bs rest : Octets} {e : Element} (h : readElement bs = some (e, rest))
    (more : Octets) : readElement (bs ++ more) = some (e, rest ++ more) := by
  cases bs with
  | nil => cases h
  | cons tag tail =>
    rw [readElement] at h
    rw [List.cons_append, readElement]
    split_ifs at h ⊢ with hlong
    cases hlength : readLength tail with
    | none =>
      rw [hlength] at h
      cases h
    | some p =>
      obtain ⟨n, behind⟩ := p
      rw [hlength] at h
      rw [readLength_append hlength more]
      dsimp only at h ⊢
      split_ifs at h with hcontent
      cases h
      have hroom : n ≤ behind.length := by
        rw [List.length_take] at hcontent
        omega
      rw [List.take_append_of_le_length hroom, List.drop_append_of_le_length hroom, if_neg hcontent]

/-- A front part of an element is no element. -/
theorem readElement_cut {front behind : Octets} {e : Element}
    (h : readElement (front ++ behind) = some (e, [])) (hcut : behind ≠ []) :
    readElement front = none := by
  by_contra hsome
  obtain ⟨⟨e', rest⟩, hfront⟩ := Option.ne_none_iff_exists'.mp hsome
  rw [readElement_append hfront behind] at h
  have hnothing : rest ++ behind = [] := (Prod.mk.inj (Option.some.inj h)).2
  exact hcut (List.append_eq_nil_iff.mp hnothing).2

lemma expect_eq_some {tag : UInt8} {bs content rest : Octets} :
    expect tag bs = some (content, rest) ↔ readElement bs = some (⟨tag, content⟩, rest) := by
  rw [expect]
  rcases readElement bs with _ | ⟨⟨tag', content'⟩, rest'⟩
  · simp
  · dsimp only
    split_ifs with htag
    · simp [htag]
    · simp [htag]

lemma expect_append {tag : UInt8} {bs content rest : Octets}
    (h : expect tag bs = some (content, rest)) (more : Octets) :
    expect tag (bs ++ more) = some (content, rest ++ more) :=
  expect_eq_some.mpr (readElement_append (expect_eq_some.mp h) more)

lemma expect_cut {tag : UInt8} {front behind content : Octets}
    (h : expect tag (front ++ behind) = some (content, [])) (hcut : behind ≠ []) :
    expect tag front = none := by
  rw [expect, readElement_cut (expect_eq_some.mp h) hcut]

end Der

namespace Certificate

variable {α β : Type}

lemma wellFormed_bind_eq_ok {x : Option α} {f : α → Except CertificateProblem β} {b : β} :
    (wellFormed x >>= f) = .ok b ↔ ∃ a, x = some a ∧ f a = .ok b := by
  cases x with
  | none => simp [wellFormed, bind, Except.bind]
  | some a => simp [wellFormed, bind, Except.bind]

lemma nothingLeft_bind_eq_ok {rest : Octets} {f : Unit → Except CertificateProblem β} {b : β} :
    (nothingLeft rest >>= f) = .ok b ↔ rest = [] ∧ f () = .ok b := by
  cases rest with
  | nil => simp [nothingLeft, bind, Except.bind]
  | cons => simp [nothingLeft, bind, Except.bind]

/-- The outer layer is one element with nothing behind it, which holds three elements. -/
lemma readSigned_eq_ok {der : Octets} {signed : Signed} :
    readSigned der = .ok signed ↔
      ∃ content behind behind' bits, Der.expect Der.Tag.sequence der = some (content, []) ∧
        Der.expect Der.Tag.sequence content = some (signed.body, behind) ∧
        Der.expect Der.Tag.sequence behind = some (signed.algorithm, behind') ∧
        Der.expectBitOctets behind' = some (bits, []) := by
  rw [readSigned]
  simp only [wellFormed_bind_eq_ok, nothingLeft_bind_eq_ok]
  constructor
  · rintro ⟨⟨content, _⟩, hder, ⟨body, behind⟩, hbody, ⟨algorithm, behind'⟩, halgorithm,
      ⟨bits, _⟩, hbits, rfl, rfl, hsigned⟩
    cases hsigned
    exact ⟨content, behind, behind', bits, hder, hbody, halgorithm, hbits⟩
  · rintro ⟨content, behind, behind', bits, hder, hbody, halgorithm, hbits⟩
    exact ⟨_, hder, _, hbody, _, halgorithm, _, hbits, rfl, rfl, rfl⟩

/-- Octets that are left of others when some are cut off at the end, or when some are added. -/
inductive Damaged (der : Octets) : Octets → Prop
  | cut {front behind : Octets} (split : der = front ++ behind) (off : behind ≠ []) :
      Damaged der front
  | extended {more : Octets} (added : more ≠ []) : Damaged der (der ++ more)

/-- What remains of a certificate that is damaged is no certificate. -/
theorem parse_damaged {der other : Octets} {c : Certificate} (h : parse der = .ok c)
    (hdamaged : Damaged der other) : parse other = .error .badEncoding := by
  have hsigned : ∃ signed, readSigned der = .ok signed := by
    rw [parse, read] at h
    cases hder : readSigned der with
    | error problem =>
      rw [hder] at h
      cases h
    | ok signed => exact ⟨signed, rfl⟩
  obtain ⟨signed, hsigned⟩ := hsigned
  obtain ⟨content, behind, behind', bits, hder, hbody, halgorithm, hbits⟩ :=
    readSigned_eq_ok.mp hsigned
  suffices hother : readSigned other = .error .badEncoding by
    rw [parse, read, hother]
    rfl
  cases hdamaged with
  | cut hsplit hoff =>
    rw [hsplit] at hder
    rw [readSigned, Der.expect_cut hder hoff]
    rfl
  | @extended more hadded =>
    -- all that is inside is well-formed, but something is left behind it
    obtain ⟨b, more, rfl⟩ := List.exists_cons_of_ne_nil hadded
    rw [readSigned, Der.expect_append hder]
    simp [wellFormed, nothingLeft, bind, Except.bind, hbody, halgorithm, hbits]

end Certificate

end Mailwire
