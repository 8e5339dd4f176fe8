import Mathlib.Data.List.TakeWhile
import Mathlib.Tactic
import Mailwire.Address

/-!
# What literals of addresses look like

A dotted literal ends in a number behind a dot, and a literal in groups holds a colon
(`IpAddress.parse?_split`). Both follow from what the readers of the parts leave behind, which is
always an end of the text.
-/

namespace Mailwire

namespace IpAddress

/-! ### Numbers and dots -/

lemma digits_split (base : Nat) (cs : List Char) :
    ∃ run, cs = run ++ (digits base cs).2.2 ∧ run.length = (digits base cs).2.1 ∧
      ∀ c ∈ run, (digit? base c).isSome := by
  refine ⟨cs.takeWhile fun c => (digit? base c).isSome, ?_, rfl, fun c hc => ?_⟩
  · exact (List.prefix_iff_eq_append.mp (List.takeWhile_prefix _)).symm
  · exact List.mem_takeWhile_imp (p := fun c => (digit? base c).isSome) hc

lemma decimalPart_split {cs rest : List Char} {n : UInt8} (h : decimalPart cs = some (n, rest)) :
    ∃ number, cs = number ++ rest ∧ number ≠ [] ∧ ∀ c ∈ number, (digit? 10 c).isSome := by
  obtain ⟨number, hsplit, hcount, hdigits⟩ := digits_split 10 cs
  rw [decimalPart] at h
  split at h
  next value count behind hrun =>
    split_ifs at h with hbad
    obtain ⟨-, rfl⟩ : _ ∧ behind = rest := by simpa using h
    rw [hrun] at hsplit hcount
    refine ⟨number, hsplit, ?_, hdigits⟩
    rintro rfl
    exact hbad (.inl hcount.symm)

lemma expect_eq_some {c : Char} {cs rest : List Char} (h : expect c cs = some rest) :
    cs = c :: rest := by
  cases cs with
  | nil => cases h
  | cons d cs =>
    rw [expect] at h
    split_ifs at h with hd
    obtain rfl : cs = rest := by simpa using h
    rw [hd]

/-- A dotted literal ends in a number behind a dot. -/
lemma dottedLiteral_split {cs rest : List Char} {parts : UInt8 × UInt8 × UInt8 × UInt8}
    (h : dottedLiteral cs = some (parts, rest)) :
    ∃ front number, cs = front ++ '.' :: number ++ rest ∧ number ≠ [] ∧
      ∀ c ∈ number, (digit? 10 c).isSome := by
  simp only [dottedLiteral, Option.bind_eq_bind, Option.bind_eq_some_iff, Prod.exists] at h
  obtain ⟨a, cs₁, ha, cs₂, hdot₁, b, cs₃, hb, cs₄, hdot₂, c, cs₅, hc, cs₆, hdot₃, d, cs₇, hd, h⟩ :=
    h
  obtain ⟨-, rfl⟩ : _ ∧ cs₇ = rest := by simpa using h
  obtain ⟨first, rfl, -, -⟩ := decimalPart_split ha
  obtain rfl := expect_eq_some hdot₁
  obtain ⟨second, rfl, -, -⟩ := decimalPart_split hb
  obtain rfl := expect_eq_some hdot₂
  obtain ⟨third, rfl, -, -⟩ := decimalPart_split hc
  obtain rfl := expect_eq_some hdot₃
  obtain ⟨fourth, rfl, hne, hdigits⟩ := decimalPart_split hd
  exact ⟨first ++ '.' :: second ++ '.' :: third, fourth, by simp, hne, hdigits⟩

/-! ### Groups and colons -/

lemma hexGroup_suffix {cs rest : List Char} {g : UInt16} (h : hexGroup cs = some (g, rest)) :
    rest <:+ cs := by
  obtain ⟨run, hsplit, -, -⟩ := digits_split 16 cs
  rw [hexGroup] at h
  split at h
  next value count behind hrun =>
    split_ifs at h
    obtain ⟨-, rfl⟩ : _ ∧ behind = rest := by simpa using h
    rw [hrun] at hsplit
    exact ⟨run, hsplit.symm⟩

/-- What is left behind groups is an end of the text. -/
lemma groupRun_suffix (limit : Nat) (first : Bool) (cs : List Char) :
    (groupRun limit first cs).2.2 <:+ cs := by
  have hbehind : ∀ (first : Bool) (cs behind : List Char),
      (if first then some cs else expect ':' cs) = some behind → behind <:+ cs := by
    intro first cs behind h
    split_ifs at h
    · obtain rfl : cs = behind := by simpa using h
      exact List.suffix_rfl
    · rw [expect_eq_some h]
      exact List.suffix_cons _ _
  fun_induction groupRun limit first cs with
  | case1 => exact List.suffix_rfl
  | case2 first cs limit behind a b c d rest hdotted =>
    split_ifs at hdotted
    obtain ⟨start, hstart, hliteral⟩ := Option.bind_eq_some_iff.mp hdotted
    obtain ⟨front, number, hsplit, -, -⟩ := dottedLiteral_split hliteral
    exact List.IsSuffix.trans ⟨_, hsplit.symm⟩ (hbehind first cs start hstart)
  | case3 => exact List.suffix_rfl
  | case4 first cs limit behind _ g rest hgroup groups dotted end_ hrun ih =>
    obtain ⟨start, hstart, hhex⟩ := Option.bind_eq_some_iff.mp hgroup
    rw [hrun] at ih
    exact (ih.trans (hexGroup_suffix hhex)).trans (hbehind first cs start hstart)

lemma colon_of_groupRun {limit : Nat} {cs : List Char} (h : (groupRun limit false cs).1 ≠ []) :
    ':' ∈ cs := by
  cases hcolon : expect ':' cs with
  | some rest =>
    rw [expect_eq_some hcolon]
    exact List.mem_cons_self
  | none =>
    cases limit with
    | zero => simp [groupRun] at h
    | succ limit => simp [groupRun, hcolon] at h

/-- Eight groups cannot be read without a colon between them. -/
lemma colon_of_eight_groups {cs : List Char} (h : (groupRun 8 true cs).1.length = 8) :
    ':' ∈ cs := by
  rw [groupRun] at h
  simp only [if_true, Option.bind_some] at h
  split at h
  · simp at h
  · split at h
    · simp at h
    · next g rest hgroup =>
      have hmore : (groupRun 7 false rest).1 ≠ [] := by
        intro hnone
        simp [hnone] at h
      exact (hexGroup_suffix hgroup).subset (colon_of_groupRun hmore)

lemma colon_of_groupsLiteral {cs rest : List Char} {groups : List UInt16}
    (h : groupsLiteral cs = some (groups, rest)) : ':' ∈ cs := by
  rw [groupsLiteral] at h
  rcases hrun : groupRun 8 true cs with ⟨head, dotted, behind⟩
  by_cases height : head.length = 8
  · exact colon_of_eight_groups (by rw [hrun]; exact height)
  · have hsuffix := groupRun_suffix 8 true cs
    rw [hrun] at hsuffix
    cases hcolon : expect ':' behind with
    | some more =>
      rw [expect_eq_some hcolon] at hsuffix
      exact hsuffix.subset List.mem_cons_self
    | none => simp [hrun, height, hcolon] at h

lemma parse?_split {host : String} {ip : IpAddress} (h : parse? host = some ip) :
    (∃ front number, host.toList = front ++ '.' :: number ∧ number ≠ [] ∧
      ∀ c ∈ number, (digit? 10 c).isSome) ∨ ':' ∈ host.toList := by
  rw [parse?] at h
  split at h
  next hdotted =>
    obtain ⟨front, number, hsplit, hne, hdigits⟩ := dottedLiteral_split hdotted
    exact .inl ⟨front, number, by simpa using hsplit, hne, hdigits⟩
  next =>
    split at h
    next hgroups => exact .inr (colon_of_groupsLiteral hgroups)
    next => cases h

end IpAddress

end Mailwire
