import Mathlib.Tactic
import Mailwire.Wire.Basic

/-!
# What a wire has taken

Whatever a write answers, the far end has taken a front part of the octets, in order, and has taken
nothing else (`Wire.write_taken`, `Wire.writeAll_taken`).
-/

namespace Mailwire

namespace Wire

/-- All octets that the far end has taken. -/
def taken (w : Wire) : Octets := w.sent.toList

@[simp] lemma taken_give (octets : Octets) (count : Nat) (w : Wire) :
    (w.give octets count).taken = w.taken ++ octets.take count := by
  simp [taken, give]

/-- The octets that an answer to a write says were taken. -/
def accepted (octets : Octets) : Except (Fault IoError) Nat → Octets
  | .ok n => octets.take n
  | .error _ => []

@[simp] lemma accepted_ok (octets : Octets) (n : Nat) :
    accepted octets (.ok n) = octets.take n := rfl

@[simp] lemma accepted_error (octets : Octets) (f : Fault IoError) :
    accepted octets (.error f) = [] := rfl

/-- A write hands over as many octets as it says, and none if it fails. -/
theorem write_taken {deadline : Option Nat} {octets : Octets} {w w' : Wire}
    {answer : Except (Fault IoError) Nat} (h : w.write deadline octets = (answer, w')) :
    w'.taken = w.taken ++ accepted octets answer := by
  rw [write] at h
  split_ifs at h with hcut
  · cases h
    simp [taken]
  · split at h
    · dsimp only at h
      split_ifs at h with hroom
      · cases h
        exact taken_give octets octets.length _
      · cases h
        exact taken_give octets _ _
    · cases h
      simp [taken]
    · cases h
      simp [taken]
    · cases h
      simp [taken]
    · dsimp only at h
      split at h
      · cases h
        exact taken_give octets octets.length _
      · cases h
        exact taken_give octets octets.length _
      · cases h
        simp [taken]
      · cases h
        simp [taken]

lemma writeAll_eq (deadline : Option Nat) (onZero : IoError) (octets : Octets) (w : Wire) :
    w.writeAll deadline onZero octets =
      if octets.isEmpty then (.ok (), [], w)
      else
        match w.write deadline octets with
        | (.ok 0, w') => (.error (.failed onZero), octets, w')
        | (.ok (n + 1), w') => w'.writeAll deadline onZero (octets.drop (n + 1))
        | (.error (.failed e), w') =>
          if e.kind = .interrupted then w'.writeAll deadline onZero octets
          else (.error (.failed e), octets, w')
        | (.error .unanswered, w') => (.error .unanswered, octets, w') := by
  conv_lhs => rw [writeAll]
  split_ifs with hempty
  · rfl
  · rcases w.write deadline octets with ⟨(e | _) | (_ | n), w'⟩ <;> rfl

/-- Writing a whole piece hands over what is not left of it, in order, and nothing is left on
success. -/
theorem writeAll_taken (deadline : Option Nat) (onZero : IoError) (octets : Octets) (w : Wire) :
    ∃ front, octets = front ++ (w.writeAll deadline onZero octets).2.1 ∧
      (w.writeAll deadline onZero octets).2.2.taken = w.taken ++ front ∧
      ((w.writeAll deadline onZero octets).1 = .ok () →
        (w.writeAll deadline onZero octets).2.1 = []) := by
  fun_induction writeAll deadline onZero octets w with
  | case1 octets w hempty =>
    exact ⟨[], by simpa using hempty, by simp, fun _ => rfl⟩
  | case2 octets w hne w' hwrite =>
    exact ⟨[], rfl, by simpa using write_taken hwrite, by simp⟩
  | case3 octets w hne n w' hwrite ih =>
    obtain ⟨front, hsplit, htaken, hok⟩ := ih
    refine ⟨octets.take (n + 1) ++ front, ?_, ?_, hok⟩
    · rw [List.append_assoc, ← hsplit, List.take_append_drop]
    · rw [htaken, write_taken hwrite, accepted_ok, List.append_assoc]
  | case4 octets w hne e w' hwrite hinterrupted ih =>
    obtain ⟨front, hsplit, htaken, hok⟩ := ih
    exact ⟨front, hsplit, by rw [htaken, write_taken hwrite, accepted_error, List.append_nil], hok⟩
  | case5 octets w hne e w' hwrite hinterrupted =>
    exact ⟨[], rfl, write_taken hwrite, by simp⟩
  | case6 octets w hne w' hwrite =>
    exact ⟨[], rfl, write_taken hwrite, by simp⟩

end Wire

end Mailwire
