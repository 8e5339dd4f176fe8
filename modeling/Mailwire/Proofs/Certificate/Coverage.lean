import Mathlib.Data.List.DropRight
import Mailwire.Certificate.Matching
import Mailwire.Proofs.ServerName

/-!
# Which names cover a server

Two rules decide whether a presented name fits a server, and they treat final dots, case and
wildcards differently. For a server that can be asked for, both together come to one relation,
`AltName.Covers`: what the strict rule lets a star stand for, the suffix rule does as well
(`AltName.covers_dns_iff`).
-/

namespace Mailwire

/-- The DNS name of a host, as certificates are compared with it. -/
def DnsName.canonical (host : String) : Octets :=
  Octets.toLower (DnsName.withoutFinalDot (Octets.ofString host))

namespace AltName

open DnsName

/-- Which names cover which servers. -/
inductive Covers : AltName → ServerName → Prop
  /-- An address is covered by its own octets. -/
  | ip (address : IpAddress) : Covers (.ip address.octets) (.ip address)
  /-- A DNS name is covered by itself, in whatever case. -/
  | same {host : String} {name : Octets} (short : name.length ≤ maxLength)
      (valid : validLabels (labels name)) (eq : canonical host = Octets.toLower name) :
      Covers (.dns name) (.dns host)
  /-- A DNS name is covered by a star above it, at any depth. -/
  | below {host : String} {suffix front : Octets} (short : suffix.length + 2 ≤ maxLength)
      (valid : validLabels (labels (withoutFinalDot suffix)))
      (two : 2 ≤ (labels (withoutFinalDot suffix)).length) (nonempty : front ≠ [])
      (eq : canonical host = front ++ dot :: Octets.toLower (withoutFinalDot suffix)) :
      Covers (.dns (star :: dot :: suffix)) (.dns host)

/-! ### Names before the first malformed one -/

/-- A name that is read from the octets of a list before any malformed one. -/
inductive Presented : Octets → AltName → Prop
  | first {bs rest : Octets} {e : Der.Element} {name : AltName}
      (read : Der.readElement bs = some (e, rest)) (wellFormed : ofElement? e = some name) :
      Presented bs name
  | later {bs rest : Octets} {e : Der.Element} {name other : AltName}
      (read : Der.readElement bs = some (e, rest)) (wellFormed : ofElement? e = some other)
      (behind : Presented rest name) : Presented bs name

lemma mem_readOnto (names : List AltName) (bs : Octets) (name : AltName) :
    name ∈ (readOnto names bs).1 ↔ name ∈ names ∨ Presented bs name := by
  fun_induction readOnto names bs with
  | case1 names bs hempty =>
    obtain rfl : bs = [] := by simpa using hempty
    constructor
    · exact .inl
    · rintro (hmem | ⟨hread, -⟩ | ⟨hread, -, -⟩)
      · exact hmem
      · cases hread
      · cases hread
  | case2 names bs _ hread =>
    constructor
    · exact .inl
    · rintro (hmem | ⟨hread', -⟩ | ⟨hread', -, -⟩)
      · exact hmem
      · cases hread.symm.trans hread'
      · cases hread.symm.trans hread'
  | case3 names bs _ e rest hread hnone =>
    constructor
    · exact .inl
    · rintro (hmem | ⟨hread', hsome⟩ | ⟨hread', hsome, -⟩)
      · exact hmem
      · cases hread.symm.trans hread'
        cases hnone.symm.trans hsome
      · cases hread.symm.trans hread'
        cases hnone.symm.trans hsome
  | case4 names bs _ e rest hread first hfirst ih =>
    rw [ih, List.mem_cons]
    constructor
    · rintro ((rfl | hmem) | hbehind)
      · exact .inr (.first hread hfirst)
      · exact .inl hmem
      · exact .inr (.later hread hfirst hbehind)
    · rintro (hmem | ⟨hread', hsome⟩ | ⟨hread', hsome, hbehind⟩)
      · exact .inl (.inr hmem)
      · cases hread.symm.trans hread'
        cases hfirst.symm.trans hsome
        exact .inl (.inl rfl)
      · cases hread.symm.trans hread'
        exact .inr hbehind

lemma mem_readAll {bs : Octets} {name : AltName} :
    name ∈ (readAll bs).1 ↔ Presented bs name := by
  simp [readAll, mem_readOnto]

end AltName

namespace Certificate

/-- A certificate presents the alternative names that come before the first malformed one. -/
def Presents (c : Certificate) (name : AltName) : Prop :=
  ∃ id content, c.extensions.find? (·.1 == subjectAltName) = some (id, content) ∧
    AltName.Presented content name

lemma mem_altNames {c : Certificate} {name : AltName} :
    name ∈ c.altNames.1 ↔ c.Presents name := by
  rw [altNames, Presents]
  split
  next id content hfind => simp [hfind, AltName.mem_readAll]
  next hnone => simp [hnone]

end Certificate

namespace DnsName

/-! ### Final dots -/

lemma withoutFinalDots_of_ne {name : Octets} (h : name.getLast? ≠ some dot) :
    withoutFinalDots name = name := by
  apply List.rdropWhile_eq_self_iff.mpr
  intro hne hdot
  exact h (by rw [List.getLast?_eq_some_getLast hne, eq_of_beq hdot])

/-- A server that can be asked for has one final dot at most. -/
lemma withoutFinalDots_eq {name : Octets} (h : isReference name) :
    withoutFinalDots name = withoutFinalDot name := by
  simp only [isReference, Bool.and_eq_true] at h
  have hlast := getLast?_ne_dot h.2
  by_cases hdot : name.getLast? = some dot
  · obtain ⟨front, rfl⟩ := List.getLast?_eq_some_iff.mp hdot
    rw [withoutFinalDot_concat] at hlast ⊢
    calc withoutFinalDots (front ++ [dot])
        = withoutFinalDots front := List.rdropWhile_concat_pos _ _ _ (beq_self_eq_true dot)
      _ = front := withoutFinalDots_of_ne hlast
  · rw [withoutFinalDots_of_ne hdot, withoutFinalDot_of_ne hdot]

/-! ### Wildcards -/

lemma wildcardSuffix?_eq_some {name suffix : Octets} :
    wildcardSuffix? name = some suffix ↔ name = star :: dot :: suffix := by
  constructor
  · intro h
    rw [wildcardSuffix?.eq_def] at h
    split at h
    · split_ifs at h with hstar
      obtain ⟨rfl, rfl⟩ := hstar
      obtain rfl := Option.some.inj h
      rfl
    · cases h
  · rintro rfl
    simp [wildcardSuffix?]

lemma not_validLabels_wildcard (suffix : Octets) :
    ¬ validLabels (labels (star :: dot :: suffix)) := by
  intro h
  have hstar : [star] ∈ labels (star :: dot :: suffix) := by
    rw [show star :: dot :: suffix = [star] ++ dot :: suffix from rfl, labels_append]
    simp [labels_of_notMem (show dot ∉ [star] by decide)]
  exact absurd (validLabel_of_mem h hstar) (by decide)

lemma withoutFinalDot_suffix {suffix : Octets} (h : validSuffix suffix) :
    withoutFinalDot suffix = suffix := by
  simp only [validSuffix, Bool.and_eq_true] at h
  exact withoutFinalDot_of_ne (getLast?_ne_dot h.1)

lemma isBelow_iff {suffix server : Octets} :
    isBelow suffix server ↔ ∃ front, front ≠ [] ∧ server = front ++ dot :: suffix := by
  simp only [isBelow, Bool.and_eq_true, List.isSuffixOf_iff_suffix, decide_eq_true_eq]
  constructor
  · rintro ⟨⟨front, rfl⟩, hlength⟩
    refine ⟨front, ?_, rfl⟩
    rintro rfl
    simp at hlength
  · rintro ⟨front, hne, rfl⟩
    have hpos : 0 < front.length := List.length_pos_iff.mpr hne
    refine ⟨⟨front, rfl⟩, ?_⟩
    simp only [List.length_append, List.length_cons]
    omega

lemma isWildcard_iff {suffix : Octets} :
    isWildcard (star :: dot :: suffix) ↔
      suffix.length + 2 ≤ maxLength ∧ validLabels (labels (withoutFinalDot suffix)) ∧
        2 ≤ (labels (withoutFinalDot suffix)).length := by
  simp only [isWildcard, validSuffix, wildcardSuffix?_eq_some.mpr rfl, List.length_cons,
    Bool.and_eq_true, decide_eq_true_eq]

/-- What a star may stand for by the strict rule, it may by the suffix rule. -/
lemma below_of_presentedMatches {suffix server : Octets}
    (h : presentedMatches (star :: dot :: suffix) server) :
    isWildcard (star :: dot :: suffix) ∧ ∃ front, front ≠ [] ∧
      Octets.toLower (withoutFinalDot server)
        = front ++ dot :: Octets.toLower (withoutFinalDot suffix) := by
  simp only [presentedMatches, isPresented, wildcardSuffix?_eq_some.mpr rfl, Bool.and_eq_true,
    decide_eq_true_eq, bne_iff_ne, beq_iff_eq] at h
  obtain ⟨⟨hshort, hvalid⟩, ⟨hhead, -⟩, hbehind⟩ := h
  have hwildcard : isWildcard (star :: dot :: suffix) := by
    simp only [isWildcard, wildcardSuffix?_eq_some.mpr rfl, withoutFinalDot_suffix hvalid,
      Bool.and_eq_true, decide_eq_true_eq]
    exact ⟨hshort, hvalid⟩
  refine ⟨hwildcard, ?_⟩
  rw [withoutFinalDot_suffix hvalid]
  have hsplit := List.takeWhile_append_dropWhile (p := (· != dot))
    (l := Octets.toLower (withoutFinalDot server))
  rw [hbehind] at hsplit
  refine ⟨_, ?_, hsplit.symm⟩
  intro hnone
  rw [hnone] at hsplit
  rw [← hsplit] at hhead
  exact hhead rfl

end DnsName

namespace AltName

open DnsName

/-! ### Both rules together -/

lemma covers_wildcard_iff {host : String} {suffix : Octets} :
    (AltName.dns (star :: dot :: suffix)).Covers (.dns host) ↔
      isWildcard (star :: dot :: suffix) ∧ ∃ front, front ≠ [] ∧
        canonical host = front ++ dot :: Octets.toLower (withoutFinalDot suffix) := by
  constructor
  · intro h
    cases h with
    | same _ hvalid _ => exact absurd hvalid (not_validLabels_wildcard suffix)
    | below hshort hvalid htwo hne heq =>
      exact ⟨isWildcard_iff.mpr ⟨hshort, hvalid, htwo⟩, _, hne, heq⟩
  · rintro ⟨hwildcard, front, hne, heq⟩
    obtain ⟨hshort, hvalid, htwo⟩ := isWildcard_iff.mp hwildcard
    exact .below hshort hvalid htwo hne heq

lemma covers_of_noWildcard {host : String} {name : Octets} (h : wildcardSuffix? name = none) :
    (AltName.dns name).Covers (.dns host) ↔
      name.length ≤ maxLength ∧ validLabels (labels name) ∧
        canonical host = Octets.toLower name := by
  constructor
  · intro hcovers
    cases hcovers with
    | same hshort hvalid heq => exact ⟨hshort, hvalid, heq⟩
    | below => cases h.symm.trans (wildcardSuffix?_eq_some.mpr rfl)
  · rintro ⟨hshort, hvalid, heq⟩
    exact .same hshort hvalid heq

lemma names_noWildcard {host : String} {name : Octets} (h : wildcardSuffix? name = none) :
    (AltName.dns name).names (.dns host) ↔
      name.length ≤ maxLength ∧ validLabels (labels name) ∧
        canonical host = Octets.toLower name := by
  simp [names, presentedMatches, isPresented, h, canonical, and_assoc]

lemma isAbove_noWildcard {host name : Octets} (h : wildcardSuffix? name = none) :
    (AltName.dns name).isAbove host = false := by
  simp [isAbove, coveredSuffix?, h]

lemma isAbove_wildcard {host suffix : Octets} :
    (AltName.dns (star :: dot :: suffix)).isAbove host ↔
      isWildcard (star :: dot :: suffix) ∧ ∃ front, front ≠ [] ∧
        host = front ++ dot :: Octets.toLower (withoutFinalDot suffix) := by
  rw [isAbove, coveredSuffix?, wildcardSuffix?_eq_some.mpr rfl]
  by_cases hwildcard : isWildcard (star :: dot :: suffix)
  · simp [hwildcard, isBelow_iff]
  · simp [hwildcard]

/-- For a DNS name that a server can be asked for by, a name covers it if and only if it fits by
one of the two rules. -/
theorem covers_dns_iff {host : String} (h : isReference (Octets.ofString host))
    (name : AltName) :
    name.Covers (.dns host) ↔ name.names (.dns host) ∨
      name.isAbove (Octets.toLower (withoutFinalDots (Octets.ofString host))) := by
  rw [withoutFinalDots_eq h]
  cases name with
  | dns name =>
    cases hwildcard : wildcardSuffix? name with
    | some suffix =>
      obtain rfl := wildcardSuffix?_eq_some.mp hwildcard
      rw [covers_wildcard_iff, isAbove_wildcard]
      constructor
      · exact .inr
      · rintro (hnames | habove)
        · exact below_of_presentedMatches hnames
        · exact habove
    | none =>
      rw [covers_of_noWildcard hwildcard, names_noWildcard hwildcard, isAbove_noWildcard hwildcard]
      simp
  | _ =>
    constructor
    · rintro ⟨⟩
    · rintro (hnames | habove)
      · cases hnames
      · cases habove

lemma covers_ip_iff (address : IpAddress) (name : AltName) :
    name.Covers (.ip address) ↔ name.names (.ip address) := by
  constructor
  · rintro ⟨⟩
    simp [names]
  · intro h
    cases name with
    | ip octets =>
      obtain rfl : octets = address.octets := by simpa [names] using h
      exact .ip address
    | _ => cases h

end AltName

end Mailwire
