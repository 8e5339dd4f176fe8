import Mailwire.Proofs.Wire.Incoming

/-!
# How a wire goes on

Going on in a script uses up cues from its front: the waits and idle acts that one gets past, and then
an act, if there is one (`Script.Reaches`). Time only goes forward meanwhile.

Each operation on a wire goes on in one of its scripts, or in none. So what its far end is still to
send is an end of what it was to send, and the clock does not go back (`Wire.Onward`).
-/

namespace Mailwire

/-! ### Scripts -/

namespace Script

variable {α : Type} {idle : α → Bool}

/-- A cue that one gets past who waits for an act. -/
inductive Passing (idle : α → Bool) : Cue α → Prop
  | wait (ms : Nat) : Passing idle (.wait ms)
  | idle {a : α} (h : idle a = true) : Passing idle (.act a)

/-- What has been met of the cues when there is a prompt, and what is left of them. One who has no
deadline gives up only where nothing happens any more. -/
inductive Reaches (idle : α → Bool) (deadline : Option Nat) (cues : List (Cue α)) :
    Prompt α → List (Cue α) → Prop
  | act {skipped rest : List (Cue α)} {a : α} (passed : ∀ c ∈ skipped, Passing idle c)
      (busy : idle a = false) (split : cues = skipped ++ .act a :: rest) :
      Reaches idle deadline cues (.act a) rest
  | ends (passed : ∀ c ∈ cues, Passing idle c) : Reaches idle deadline cues .over []
  | nothing {skipped rest : List (Cue α)} (passed : ∀ c ∈ skipped, Passing idle c)
      (split : cues = skipped ++ rest) (stalls : deadline = none → ∃ more, rest = .stall :: more) :
      Reaches idle deadline cues .nothing rest

namespace Reaches

variable {deadline : Option Nat} {c : Cue α} {cues left : List (Cue α)} {prompt : Prompt α}

/-- A cue in front that one gets past makes no difference. -/
lemma cons (hc : Passing idle c) (h : Reaches idle deadline cues prompt left) :
    Reaches idle deadline (c :: cues) prompt left := by
  cases h with
  | act hpassed hbusy hsplit =>
    exact .act (List.forall_mem_cons.mpr ⟨hc, hpassed⟩) hbusy (by rw [hsplit, List.cons_append])
  | ends hpassed => exact .ends (List.forall_mem_cons.mpr ⟨hc, hpassed⟩)
  | nothing hpassed hsplit hstalls =>
    exact .nothing (List.forall_mem_cons.mpr ⟨hc, hpassed⟩) (by rw [hsplit, List.cons_append])
      hstalls

/-- What is left is an end of the cues. -/
lemma suffix (h : Reaches idle deadline cues prompt left) : left <:+ cues := by
  cases h with
  | act _ _ hsplit =>
    rw [hsplit]
    exact (List.suffix_cons _ _).trans (List.suffix_append _ _)
  | ends _ => exact List.nil_suffix
  | nothing _ hsplit _ => exact ⟨_, hsplit.symm⟩

end Reaches

lemma reaches_advance (deadline : Option Nat) (now : Nat) (waitEnd : Option Nat)
    (cues : List (Cue α)) :
    Reaches idle deadline cues (advance idle deadline now waitEnd cues).1
      (advance idle deadline now waitEnd cues).2.2.cues := by
  induction cues generalizing now waitEnd with
  | nil => exact .ends (by simp)
  | cons c rest ih =>
    cases c with
    | wait ms =>
      simp only [advance]
      split_ifs with hlate
      · refine .nothing (List.forall_mem_nil _) rfl ?_
        rintro rfl
        simp [late] at hlate
      · exact (ih _ _).cons (.wait ms)
    | stall => exact .nothing (List.forall_mem_nil _) rfl fun _ => ⟨rest, rfl⟩
    | act a =>
      simp only [advance]
      split_ifs with hidle
      · exact (ih _ _).cons (.idle hidle)
      · exact .act (List.forall_mem_nil _) (by simpa using hidle) rfl

lemma reaches_next {deadline : Option Nat} {now moment : Nat} {s rest : Script α}
    {prompt : Prompt α} (h : s.next idle deadline now = (prompt, moment, rest)) :
    Reaches idle deadline s.cues prompt rest.cues := by
  have hreaches := @reaches_advance α idle deadline now s.waitEnd s.cues
  rw [next] at h
  rwa [h] at hreaches

/-! ### The clock -/

lemma le_patienceEnd (deadline : Option Nat) (now : Nat) : now ≤ patienceEnd deadline now :=
  Nat.le_max_left _ _

/-- Time goes forward. -/
lemma le_advance (deadline : Option Nat) (now : Nat) (waitEnd : Option Nat)
    (cues : List (Cue α)) : now ≤ (advance idle deadline now waitEnd cues).2.1 := by
  induction cues generalizing now waitEnd with
  | nil => exact Nat.le_refl now
  | cons c rest ih =>
    cases c with
    | wait ms =>
      simp only [advance]
      split_ifs with hlate
      · exact le_patienceEnd deadline now
      · exact Nat.le_trans (Nat.le_max_left _ _) (ih _ none)
    | stall => exact le_patienceEnd deadline now
    | act a =>
      simp only [advance]
      split_ifs with hidle
      · exact ih now none
      · exact Nat.le_refl now

lemma le_next {deadline : Option Nat} {now moment : Nat} {s rest : Script α} {prompt : Prompt α}
    (h : s.next idle deadline now = (prompt, moment, rest)) : now ≤ moment := by
  have hle := @le_advance α idle deadline now s.waitEnd s.cues
  rw [next] at h
  rwa [h] at hle

end Script

/-! ### The end of a stream -/

/-- The far end has closed: what has been met of its script ends with that, or the script is over and
this is how it ends. -/
inductive Delivery.Closed (ending : Ending) : List (Cue Delivery) → List (Cue Delivery) → Prop
  | eof (front left : List (Cue Delivery)) : Closed ending (front ++ [.act .eof]) left
  | ending (met : List (Cue Delivery)) (closes : ending = .eof) : Closed ending met []

/-- It makes no difference what was met before. -/
lemma Delivery.Closed.of_earlier {ending : Ending} {met left : List (Cue Delivery)}
    (h : Delivery.Closed ending met left) (earlier : List (Cue Delivery)) :
    Delivery.Closed ending (earlier ++ met) left := by
  cases h with
  | eof front =>
    rw [← List.append_assoc]
    exact .eof _ _
  | ending _ hcloses => exact .ending _ hcloses

/-! ### Wires -/

namespace Wire

/-- What operations make of a wire. They use up cues from the front of what its far end is to send, and
take time. -/
structure Onward (w w' : Wire) : Prop where
  cues : w'.deliveries.cues <:+ w.deliveries.cues
  ending : w'.afterDeliveries = w.afterDeliveries
  clock : w.now ≤ w'.now

namespace Onward

variable {w w₁ w₂ : Wire} {deadline : Option Nat}

protected lemma refl (w : Wire) : Onward w w := ⟨List.suffix_refl _, rfl, Nat.le_refl _⟩

protected lemma trans (h : Onward w w₁) (h' : Onward w₁ w₂) : Onward w w₂ :=
  ⟨h'.cues.trans h.cues, h'.ending.trans h.ending, Nat.le_trans h.clock h'.clock⟩

/-- Going on in what the far end is to send. -/
lemma of_deliveries {prompt : Prompt Delivery} {moment : Nat} {rest : Script Delivery}
    (h : w.deliveries.next Delivery.isIdle deadline w.now = (prompt, moment, rest))
    {later : Nat} (hlater : moment ≤ later) (octets : Octets) (cut : Bool) :
    Onward w { w with now := later, deliveries := rest, arrived := octets, cut := cut } :=
  ⟨(Script.reaches_next h).suffix, rfl, Nat.le_trans (Script.le_next h) hlater⟩

/-- Going on in how the far end takes what is sent. -/
lemma of_receptions {moment : Nat} (hclock : w.now ≤ moment) (rest : Script Reception)
    (sent : Array UInt8) (capacity : Capacity) (cut connected : Bool) :
    Onward w { w with now := moment, receptions := rest, sent := sent, afterReceptions := capacity,
                      cut := cut, connected := connected } :=
  ⟨List.suffix_refl _, rfl, hclock⟩

end Onward

variable {deadline : Option Nat}

lemma read_onward (deadline : Option Nat) (room : Nat) (w : Wire) :
    Onward w (w.read deadline room).2 := by
  rw [read]
  split_ifs with hroom harrived
  · exact .refl w
  · exact ⟨List.suffix_refl _, rfl, Nat.le_refl _⟩
  · rcases hnext : w.deliveries.next Delivery.isIdle deadline w.now
      with ⟨(octets | e | _) | _ | _, moment, rest⟩
    · exact .of_deliveries hnext (Nat.le_refl _) _ _
    · exact .of_deliveries hnext (Nat.le_refl _) _ _
    · exact .of_deliveries hnext (Nat.le_refl _) _ _
    · dsimp only
      split_ifs with hcut
      · exact .of_deliveries hnext (Nat.le_refl _) _ _
      · split
        · exact .of_deliveries hnext (Nat.le_refl _) _ _
        · exact .of_deliveries hnext (Nat.le_refl _) _ _
        · exact .of_deliveries hnext (Script.le_patienceEnd _ _) _ _
    · exact .of_deliveries hnext (Nat.le_refl _) _ _

/-- A read finds no more than there is room for. -/
lemma read_length_le {room : Nat} {w w' : Wire} {octets : Octets}
    (h : w.read deadline room = (.ok octets, w')) : octets.length ≤ room := by
  rw [read] at h
  split_ifs at h with hroom harrived
  · cases h
    exact Nat.zero_le room
  · cases h
    exact List.length_take_le room w.arrived
  · rcases hnext : w.deliveries.next Delivery.isIdle deadline w.now
      with ⟨(found | e | _) | _ | _, moment, rest⟩
    all_goals simp only [hnext] at h
    · cases h
      exact List.length_take_le room found
    · cases h
    · cases h
      exact Nat.zero_le room
    · split_ifs at h with hcut
      · cases h
      cases hending : w.afterDeliveries with
      | eof =>
        rw [hending] at h
        cases h
        exact Nat.zero_le room
      | noFarewell => simp [hending] at h
      | silence => simp [hending] at h
    · cases h

/-- A read that has room finds nothing only when the far end has closed, and when nothing is left of
what has arrived. -/
theorem read_nothing {room : Nat} {w w' : Wire} (hroom : room ≠ 0)
    (h : w.read deadline room = (.ok [], w')) :
    w'.arrived = [] ∧ ∃ met, w.deliveries.cues = met ++ w'.deliveries.cues ∧
      Delivery.Closed w.afterDeliveries met w'.deliveries.cues := by
  rw [read, if_neg hroom] at h
  split_ifs at h with harrived
  · have hne : w.arrived ≠ [] := by simpa using harrived
    have hnone : w.arrived.take room = [] := Except.ok.inj (Prod.mk.inj h).1
    exact absurd ((List.take_eq_nil_iff.mp hnone).resolve_left hroom) hne
  · have hnil : w.arrived = [] := by simpa using harrived
    rcases hnext : w.deliveries.next Delivery.isIdle deadline w.now
      with ⟨(found | e | _) | _ | _, moment, rest⟩
    all_goals
      have hreaches := Script.reaches_next hnext
      simp only [hnext] at h
    · have hnone : found.take room = [] := Except.ok.inj (Prod.mk.inj h).1
      have hfound : found = [] := (List.take_eq_nil_iff.mp hnone).resolve_left hroom
      cases hreaches with
      | act _ hbusy _ => simp [Delivery.isIdle, hfound] at hbusy
    · cases h
    · cases h
      cases hreaches with
      | @act skipped _ _ _ _ hsplit =>
        refine ⟨hnil, skipped ++ [.act .eof], ?_, .eof skipped rest.cues⟩
        rw [hsplit, List.append_assoc]
        rfl
    · split_ifs at h with hcut
      · cases h
      cases hending : w.afterDeliveries with
      | noFarewell => simp [hending] at h
      | silence => simp [hending] at h
      | eof =>
        rw [hending] at h
        cases h
        have hleft : rest.cues = [] := by
          generalize rest.cues = left at hreaches ⊢
          cases hreaches
          rfl
        exact ⟨hnil, w.deliveries.cues, by simp [hleft], by rw [hleft]; exact .ending _ rfl⟩
    · cases h

lemma write_onward (deadline : Option Nat) (octets : Octets) (w : Wire) :
    Onward w (w.write deadline octets).2 := by
  rw [write]
  split_ifs with hcut
  · exact ⟨List.suffix_refl _, rfl, Nat.le_refl _⟩
  · rcases hnext : w.receptions.next Reception.isIdle deadline w.now
      with ⟨(count | e | _) | _ | _, moment, rest⟩
    all_goals have hclock : w.now ≤ moment := Script.le_next hnext
    · dsimp only
      split_ifs with hroom
      · exact .of_receptions hclock _ _ _ _ _
      · exact .of_receptions hclock _ _ _ _ _
    · exact .of_receptions hclock _ _ _ _ _
    · exact .of_receptions hclock _ _ _ _ _
    · dsimp only
      split
      · exact .of_receptions hclock _ _ _ _ _
      · exact .of_receptions hclock _ _ _ _ _
      · exact .of_receptions hclock _ _ _ _ _
      · exact .of_receptions (Nat.le_trans hclock (Script.le_patienceEnd _ _)) _ _ _ _ _
    · exact .of_receptions hclock _ _ _ _ _

lemma writeAll_onward (deadline : Option Nat) (onZero : IoError) (octets : Octets) (w : Wire) :
    Onward w (w.writeAll deadline onZero octets).2.2 := by
  have hwrite : ∀ {octets w answer w'}, w.write deadline octets = (answer, w') → Onward w w' := by
    intro octets w answer w' h
    have honward := write_onward deadline octets w
    rwa [h] at honward
  fun_induction writeAll deadline onZero octets w with
  | case1 octets w hempty => exact .refl w
  | case2 octets w hne w' h => exact hwrite h
  | case3 octets w hne n w' h ih => exact (hwrite h).trans ih
  | case4 octets w hne e w' h hinterrupted ih => exact (hwrite h).trans ih
  | case5 octets w hne e w' h hinterrupted => exact hwrite h
  | case6 octets w hne w' h => exact hwrite h

/-- An answer to a flush, or to the end of the sending side, takes time. -/
lemma acknowledge_clock {now moment : Nat} {answers rest : Script (Option IoError)}
    {answer : Except (Fault IoError) Unit}
    (h : acknowledge deadline now answers = (answer, moment, rest)) : now ≤ moment := by
  rw [acknowledge] at h
  rcases hnext : answers.next (fun _ => false) deadline now with ⟨prompt, moment', rest'⟩
  obtain ⟨rfl, rfl⟩ : moment' = moment ∧ rest' = rest := by
    rw [hnext] at h
    rcases prompt with (_ | e) | _ | _ <;> exact (Prod.mk.inj (Prod.mk.inj h).2)
  exact Script.le_next hnext

lemma flush_onward (deadline : Option Nat) (w : Wire) : Onward w (w.flush deadline).2 := by
  rw [flush]
  rcases h : acknowledge deadline w.now w.flushes with ⟨answer, moment, rest⟩
  exact ⟨List.suffix_refl _, rfl, acknowledge_clock h⟩

lemma shutdown_onward (deadline : Option Nat) (w : Wire) : Onward w (w.shutdown deadline).2 := by
  rw [shutdown]
  rcases h : acknowledge deadline w.now w.shutdowns with ⟨answer, moment, rest⟩
  exact ⟨List.suffix_refl _, rfl, acknowledge_clock h⟩

end Wire

end Mailwire
