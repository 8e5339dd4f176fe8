import Mailwire.Proofs.Wire.Outgoing
import Mailwire.Proofs.Wire.Passage

/-!
# Operations with a deadline

An operation with a deadline is compared with the same operation without one. If the answer comes in
time, the deadline makes no difference. If it comes later, or never, the operation gives up at the
deadline and not before (`Wire.Hurried`). One who gives up on a read can go on waiting afterwards, and
finds what there would have been, when it would have been (`Wire.read_resumes`).
-/

namespace Mailwire

/-! ### Scripts -/

namespace Script

variable {α : Type} {idle : α → Bool} {deadline now moment : Nat} {waitEnd : Option Nat}
  {prompt : Prompt α} {rest : Script α}

lemma advance_inTime {cues : List (Cue α)}
    (h : advance idle none now waitEnd cues = (prompt, moment, rest)) (hprompt : prompt ≠ .nothing)
    (hin : moment ≤ deadline) :
    advance idle (some deadline) now waitEnd cues = (prompt, moment, rest) := by
  induction cues generalizing now waitEnd with
  | nil => exact h
  | cons c cues ih =>
    cases c with
    | wait ms =>
      simp only [advance, late, Option.any_none, Bool.false_eq_true, if_false] at h
      -- the end of the wait is no later than the act behind it
      have hdue : max now (waitEnd.getD (now + ms)) ≤ deadline := by
        have hle := @le_advance α idle none (max now (waitEnd.getD (now + ms))) none cues
        rw [h] at hle
        exact Nat.le_trans hle hin
      simp only [advance]
      rw [if_neg (by simpa [late] using hdue)]
      exact ih h
    | stall =>
      cases h
      exact absurd rfl hprompt
    | act a =>
      simp only [advance] at h ⊢
      split_ifs at h ⊢ with hidle
      · exact ih h
      · exact h

/-- One who has a deadline gives up at it if the act comes later or never. One who then goes on
waiting comes to the act at the same moment. -/
lemma advance_late {cues : List (Cue α)}
    (h : advance idle none now waitEnd cues = (prompt, moment, rest)) (hnow : now ≤ deadline)
    (hlate : prompt = .nothing ∨ deadline < moment) :
    ∃ left, advance idle (some deadline) now waitEnd cues = (.nothing, deadline, left) ∧
      (prompt ≠ .nothing → left.next idle none deadline = (prompt, moment, rest)) := by
  have hend : ∀ {now}, now ≤ deadline → patienceEnd (some deadline) now = deadline := by
    intro now hnow
    exact Nat.max_eq_right hnow
  induction cues generalizing now waitEnd with
  | nil =>
    cases h
    rcases hlate with hnothing | hlate
    · cases hnothing
    · omega
  | cons c cues ih =>
    cases c with
    | wait ms =>
      simp only [advance, late, Option.any_none, Bool.false_eq_true, if_false] at h
      simp only [advance]
      by_cases hdue : deadline < max now (waitEnd.getD (now + ms))
      · refine ⟨_, by rw [if_pos (by simpa [late] using hdue), hend hnow], ?_⟩
        intro _
        have hmax : max deadline (max now (waitEnd.getD (now + ms)))
            = max now (waitEnd.getD (now + ms)) := Nat.max_eq_right (Nat.le_of_lt hdue)
        simp only [next, advance, Option.getD_some, hmax, late, Option.any_none,
          Bool.false_eq_true, if_false]
        exact h
      · rw [if_neg (by simpa [late] using hdue)]
        exact ih h (Nat.le_of_not_lt hdue)
    | stall =>
      cases h
      refine ⟨ofCues (.stall :: cues), ?_, fun hprompt => absurd rfl hprompt⟩
      rw [advance, hend hnow]
    | act a =>
      simp only [advance] at h ⊢
      split_ifs at h ⊢ with hidle
      · exact ih h hnow
      · cases h
        rcases hlate with hnothing | hlate
        · cases hnothing
        · omega

lemma next_inTime {s : Script α} (h : s.next idle none now = (prompt, moment, rest))
    (hprompt : prompt ≠ .nothing) (hin : moment ≤ deadline) :
    s.next idle (some deadline) now = (prompt, moment, rest) :=
  advance_inTime h hprompt hin

lemma next_late {s : Script α} (h : s.next idle none now = (prompt, moment, rest))
    (hnow : now ≤ deadline) (hlate : prompt = .nothing ∨ deadline < moment) :
    ∃ left, s.next idle (some deadline) now = (.nothing, deadline, left) ∧
      (prompt ≠ .nothing → left.next idle none deadline = (prompt, moment, rest)) :=
  advance_late h hnow hlate

end Script

namespace Wire

/-! ### One operation -/

/-- How an operation goes with a deadline, when `free` is how it goes without one. The clock reads the
time off what the operation leaves. -/
structure Hurried {σ α : Type} (clock : σ → Nat) (deadline : Nat)
    (free hurried : Except (Fault IoError) α × σ) : Prop where
  inTime : free.1 ≠ .error .unanswered → clock free.2 ≤ deadline → hurried = free
  late : free.1 = .error .unanswered ∨ deadline < clock free.2 →
    hurried.1 = .error .unanswered ∧ clock hurried.2 = deadline

namespace Hurried

variable {σ α : Type} {clock : σ → Nat} {deadline : Nat}

/-- An operation that is over at once. -/
protected lemma refl {free : Except (Fault IoError) α × σ} (hanswer : free.1 ≠ .error .unanswered)
    (hclock : clock free.2 ≤ deadline) : Hurried clock deadline free free := by
  constructor
  · intro _ _
    rfl
  · rintro (hunanswered | hlate)
    · exact absurd hunanswered hanswer
    · omega

protected lemma ok {a : α} {s : σ} (hclock : clock s ≤ deadline) :
    Hurried clock deadline (.ok a, s) (.ok a, s) := .refl (by simp) hclock

protected lemma failed {e : IoError} {s : σ} (hclock : clock s ≤ deadline) :
    @Hurried σ α clock deadline (.error (.failed e), s) (.error (.failed e), s) :=
  .refl (by simp) hclock

/-- No operation is over later than at its deadline. -/
lemma clock_le {free hurried : Except (Fault IoError) α × σ}
    (h : Hurried clock deadline free hurried) : clock hurried.2 ≤ deadline := by
  by_cases hlate : free.1 = .error .unanswered ∨ deadline < clock free.2
  · exact (h.late hlate).2.le
  · rw [not_or, Nat.not_lt] at hlate
    rw [h.inTime hlate.1 hlate.2]
    exact hlate.2

/-- What happens behind an operation makes no difference if it has come too late. -/
lemma of_late {τ β : Type} {clock' : τ → Nat} {free hurried : Except (Fault IoError) α × σ}
    (h : Hurried clock deadline free hurried)
    (hlate : free.1 = .error .unanswered ∨ deadline < clock free.2)
    {free' hurried' : Except (Fault IoError) β × τ}
    (hlate' : free'.1 = .error .unanswered ∨ deadline < clock' free'.2)
    (hurried_eq : hurried.1 = .error .unanswered →
      hurried'.1 = .error .unanswered ∧ clock' hurried'.2 = clock hurried.2) :
    Hurried clock' deadline free' hurried' := by
  obtain ⟨hanswer, hclock⟩ := h.late hlate
  obtain ⟨hanswer', hclock'⟩ := hurried_eq hanswer
  constructor
  · intro hanswered hin
    rcases hlate' with hunanswered | hlate'
    · exact absurd hunanswered hanswered
    · omega
  · intro _
    exact ⟨hanswer', hclock'.trans hclock⟩

end Hurried

/-! ### Reads -/

variable {deadline room moment : Nat} {octets : Octets} {w : Wire}

/-- A read that has to go on in the script ends at the moment of the prompt. -/
lemma read_now (hroom : room ≠ 0) (harrived : w.arrived = []) {prompt : Prompt Delivery}
    {rest : Script Delivery}
    (hnext : w.deliveries.next Delivery.isIdle none w.now = (prompt, moment, rest)) :
    (w.read none room).2.now = moment := by
  simp only [read, if_neg hroom, harrived, List.isEmpty_nil, Bool.not_true, Bool.false_eq_true,
    if_false, hnext]
  rcases prompt with (octets | e | _) | _ | _
  · rfl
  · rfl
  · rfl
  · dsimp only
    split_ifs with hcut
    · rfl
    · split
      · rfl
      · rfl
      · exact Nat.max_self moment
  · rfl

/-- A read without a prompt is not answered. -/
lemma read_of_nothing {deadline : Option Nat} (hroom : room ≠ 0) (harrived : w.arrived = [])
    {rest : Script Delivery}
    (hnext : w.deliveries.next Delivery.isIdle deadline w.now = (.nothing, moment, rest)) :
    w.read deadline room = (.error .unanswered, { w with now := moment, deliveries := rest }) := by
  simp [read, hroom, harrived, hnext]

/-- A read with a deadline. -/
theorem read_hurried (room : Nat) (hnow : w.now ≤ deadline) :
    Hurried Wire.now deadline (w.read none room) (w.read (some deadline) room) := by
  by_cases hroom : room = 0
  · simp only [read, if_pos hroom]
    exact .ok hnow
  by_cases harrived : w.arrived = []
  · rcases hnext : w.deliveries.next Delivery.isIdle none w.now with ⟨prompt, moment, rest⟩
    by_cases hlate : prompt = .nothing ∨ deadline < moment
    · obtain ⟨left, hleft, -⟩ := Script.next_late hnext hnow hlate
      rw [read_of_nothing hroom harrived hleft]
      refine ⟨?_, fun _ => ⟨rfl, rfl⟩⟩
      intro hanswer hin
      rw [read_now hroom harrived hnext] at hin
      rcases hlate with rfl | hlate
      · rw [read_of_nothing hroom harrived hnext] at hanswer
        exact absurd rfl hanswer
      · omega
    · rw [not_or, Nat.not_lt] at hlate
      obtain ⟨hprompt, hmoment⟩ := hlate
      simp only [read, if_neg hroom, harrived, List.isEmpty_nil, Bool.not_true, Bool.false_eq_true,
        if_false, hnext, Script.next_inTime hnext hprompt hmoment]
      rcases prompt with (octets | e | _) | _ | _
      · exact .ok hmoment
      · exact .failed hmoment
      · exact .ok hmoment
      · dsimp only
        split_ifs with hcut
        · exact .failed hmoment
        · split
          · exact .ok hmoment
          · exact .failed hmoment
          · exact ⟨fun hanswer => absurd rfl hanswer, fun _ => ⟨rfl, Nat.max_eq_right hmoment⟩⟩
      · exact absurd rfl hprompt
  · have hsome : w.arrived.isEmpty = false := by simpa using harrived
    simp only [read, if_neg hroom, hsome, Bool.not_false, if_true]
    exact .ok hnow

/-- One who has given up on a read that is answered later, and goes on waiting, gets that answer. -/
theorem read_resumes (room : Nat) (hnow : w.now ≤ deadline)
    (hanswer : (w.read none room).1 ≠ .error .unanswered)
    (hlate : deadline < (w.read none room).2.now) :
    (w.read (some deadline) room).2.read none room = w.read none room := by
  by_cases hroom : room = 0
  · simp only [read, if_pos hroom] at hlate
    omega
  by_cases harrived : w.arrived = []
  · rcases hnext : w.deliveries.next Delivery.isIdle none w.now with ⟨prompt, moment, rest⟩
    have hprompt : prompt ≠ .nothing := by
      rintro rfl
      rw [read_of_nothing hroom harrived hnext] at hanswer
      exact hanswer rfl
    rw [read_now hroom harrived hnext] at hlate
    obtain ⟨left, hleft, hresumes⟩ := Script.next_late hnext hnow (.inr hlate)
    rw [read_of_nothing hroom harrived hleft]
    simp only [read, if_neg hroom, harrived, List.isEmpty_nil, Bool.not_true, Bool.false_eq_true,
      if_false, hnext, hresumes hprompt]
  · have hsome : w.arrived.isEmpty = false := by simpa using harrived
    simp only [read, if_neg hroom, hsome, Bool.not_false, if_true, take] at hlate
    omega

/-! ### Writes -/

/-- A write that has to go on in the script ends at the moment of the prompt. -/
lemma write_now (hcut : w.cut = false) {prompt : Prompt Reception} {rest : Script Reception}
    (hnext : w.receptions.next Reception.isIdle none w.now = (prompt, moment, rest)) :
    (w.write none octets).2.now = moment := by
  simp only [write, hcut, Bool.false_eq_true, if_false, hnext]
  rcases prompt with (count | e | _) | _ | _
  · dsimp only
    split_ifs <;> rfl
  · rfl
  · rfl
  · dsimp only
    split
    · rfl
    · rfl
    · rfl
    · exact Nat.max_self moment
  · rfl

/-- A write without a prompt is not answered. -/
lemma write_of_nothing {deadline : Option Nat} (hcut : w.cut = false) {rest : Script Reception}
    (hnext : w.receptions.next Reception.isIdle deadline w.now = (.nothing, moment, rest)) :
    w.write deadline octets = (.error .unanswered, { w with now := moment, receptions := rest }) := by
  simp [write, hcut, hnext]

/-- A write with a deadline. -/
theorem write_hurried (octets : Octets) (hnow : w.now ≤ deadline) :
    Hurried Wire.now deadline (w.write none octets) (w.write (some deadline) octets) := by
  cases hcut : w.cut with
  | true =>
    simp only [write, hcut, if_true]
    exact .failed hnow
  | false =>
    rcases hnext : w.receptions.next Reception.isIdle none w.now with ⟨prompt, moment, rest⟩
    by_cases hlate : prompt = .nothing ∨ deadline < moment
    · obtain ⟨left, hleft, -⟩ := Script.next_late hnext hnow hlate
      rw [write_of_nothing hcut hleft]
      refine ⟨?_, fun _ => ⟨rfl, rfl⟩⟩
      intro hanswer hin
      rw [write_now hcut hnext] at hin
      rcases hlate with rfl | hlate
      · rw [write_of_nothing hcut hnext] at hanswer
        exact absurd rfl hanswer
      · omega
    · rw [not_or, Nat.not_lt] at hlate
      obtain ⟨hprompt, hmoment⟩ := hlate
      simp only [write, hcut, Bool.false_eq_true, if_false, hnext,
        Script.next_inTime hnext hprompt hmoment]
      rcases prompt with (count | e | _) | _ | _
      · dsimp only
        split_ifs with hroom
        · exact .ok hmoment
        · exact .ok hmoment
      · exact .failed hmoment
      · exact .ok hmoment
      · dsimp only
        split
        · exact .ok hmoment
        · exact .ok hmoment
        · exact .failed hmoment
        · exact ⟨fun hanswer => absurd rfl hanswer, fun _ => ⟨rfl, Nat.max_eq_right hmoment⟩⟩
      · exact absurd rfl hprompt

/-- A write that comes in time goes as it does without a deadline. -/
lemma write_inTime {answer : Except (Fault IoError) Nat} {w' : Wire} (hnow : w.now ≤ deadline)
    (hwrite : w.write none octets = (answer, w')) (hanswer : answer ≠ .error .unanswered)
    (hin : ¬ deadline < w'.now) : w.write (some deadline) octets = (answer, w') := by
  have hfirst := write_hurried octets hnow
  rw [hwrite] at hfirst
  exact hfirst.inTime hanswer (Nat.le_of_not_lt hin)

lemma le_writeAll_now (onZero : IoError) (octets : Octets) (w : Wire) :
    w.now ≤ (w.writeAll none onZero octets).2.2.now :=
  (writeAll_onward none onZero octets w).clock

/-- Writing a whole piece gives up with the first write that comes too late. -/
lemma writeAll_hurried_of_late {onZero : IoError} (hne : ¬ octets.isEmpty = true) {w' : Wire}
    {answer : Except (Fault IoError) Nat} (hnow : w.now ≤ deadline)
    (hwrite : w.write none octets = (answer, w'))
    (hlate : answer = .error .unanswered ∨ deadline < w'.now)
    {free : Except (Fault IoError) Unit × Octets × Wire}
    (hfree : free.1 = .error .unanswered ∨ deadline < free.2.2.now) :
    Hurried (fun left => left.2.now) deadline free (w.writeAll (some deadline) onZero octets) := by
  have hfirst := write_hurried octets hnow
  rw [hwrite] at hfirst
  refine hfirst.of_late hlate hfree ?_
  intro hunanswered
  rcases hhurried : w.write (some deadline) octets with ⟨answer', w₁⟩
  rw [hhurried] at hunanswered
  obtain rfl : answer' = .error .unanswered := hunanswered
  rw [writeAll_eq, if_neg hne, hhurried]
  exact ⟨rfl, rfl⟩

/-- Writing a whole piece with one deadline for all of it. -/
theorem writeAll_hurried (onZero : IoError) (octets : Octets) (hnow : w.now ≤ deadline) :
    Hurried (fun left => left.2.now) deadline (w.writeAll none onZero octets)
      (w.writeAll (some deadline) onZero octets) := by
  fun_induction writeAll none onZero octets w with
  | case1 octets w hempty =>
    rw [writeAll_eq (some deadline), if_pos hempty]
    exact .ok hnow
  | case2 octets w hne w' hwrite =>
    by_cases hlate : deadline < w'.now
    · exact writeAll_hurried_of_late hne hnow hwrite (.inr hlate) (.inr hlate)
    · rw [writeAll_eq (some deadline), if_neg hne, write_inTime hnow hwrite (by simp) hlate]
      exact .failed (Nat.le_of_not_lt hlate)
  | case3 octets w hne n w' hwrite ih =>
    by_cases hlate : deadline < w'.now
    · refine writeAll_hurried_of_late hne hnow hwrite (.inr hlate) (.inr ?_)
      exact Nat.lt_of_lt_of_le hlate (le_writeAll_now _ _ _)
    · rw [writeAll_eq (some deadline), if_neg hne, write_inTime hnow hwrite (by simp) hlate]
      exact ih (Nat.le_of_not_lt hlate)
  | case4 octets w hne e w' hwrite hinterrupted ih =>
    by_cases hlate : deadline < w'.now
    · refine writeAll_hurried_of_late hne hnow hwrite (.inr hlate) (.inr ?_)
      exact Nat.lt_of_lt_of_le hlate (le_writeAll_now _ _ _)
    · rw [writeAll_eq (some deadline), if_neg hne, write_inTime hnow hwrite (by simp) hlate]
      simp only [if_pos hinterrupted]
      exact ih (Nat.le_of_not_lt hlate)
  | case5 octets w hne e w' hwrite hinterrupted =>
    by_cases hlate : deadline < w'.now
    · exact writeAll_hurried_of_late hne hnow hwrite (.inr hlate) (.inr hlate)
    · rw [writeAll_eq (some deadline), if_neg hne, write_inTime hnow hwrite (by simp) hlate]
      simp only [if_neg hinterrupted]
      exact .failed (Nat.le_of_not_lt hlate)
  | case6 octets w hne w' hwrite =>
    exact writeAll_hurried_of_late hne hnow hwrite (.inl rfl) (.inl rfl)

/-! ### Ending the sending side -/

/-- The end of the sending side with a deadline. -/
theorem shutdown_hurried (hnow : w.now ≤ deadline) :
    Hurried Wire.now deadline (w.shutdown none) (w.shutdown (some deadline)) := by
  rcases hnext : w.shutdowns.next (fun _ => false) none w.now with ⟨prompt, moment, rest⟩
  by_cases hlate : prompt = .nothing ∨ deadline < moment
  · obtain ⟨left, hleft, -⟩ := Script.next_late hnext hnow hlate
    simp only [shutdown, acknowledge, hnext, hleft]
    refine ⟨?_, fun _ => ⟨rfl, rfl⟩⟩
    intro hanswer hin
    rcases hlate with rfl | hlate
    · exact absurd rfl hanswer
    · rcases prompt with (_ | e) | _ | _ <;> exact absurd hin (Nat.not_le.mpr hlate)
  · rw [not_or, Nat.not_lt] at hlate
    obtain ⟨hprompt, hmoment⟩ := hlate
    simp only [shutdown, acknowledge, hnext, Script.next_inTime hnext hprompt hmoment]
    rcases prompt with (_ | e) | _ | _
    · exact .ok hmoment
    · exact .failed hmoment
    · exact .ok hmoment
    · exact absurd rfl hprompt

end Wire

end Mailwire
