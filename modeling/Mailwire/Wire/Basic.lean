import Mailwire.IoError
import Mailwire.Octets
import Mailwire.Wire.Script

/-!
# Wires

A wire is a connected stream of octets in both directions together with what its far end is going
to do: what it sends, how much it takes of what is sent to it, and how it answers a flush and the
end of the sending side. The clock of a wire moves on when an operation has to wait.

Operations have a deadline; `none` lets them wait for ever.
-/

namespace Mailwire

/-- Why an operation has no result. -/
inductive Fault (ε : Type)
  | failed (e : ε)
  /-- There is no answer up to the deadline, or ever. -/
  | unanswered
deriving DecidableEq, Repr

def Fault.map {ε ε' : Type} (f : ε → ε') : Fault ε → Fault ε'
  | .failed e => .failed (f e)
  | .unanswered => .unanswered

/-- What the far end lets a read see. -/
inductive Delivery
  | data (octets : Octets)
  | fail (e : IoError)
  /-- One read finds the end of the stream. -/
  | eof
deriving DecidableEq, Repr

/-- What reads see when the script is over. -/
inductive Ending
  | eof
  | silence
  /-- The far end has left without the farewell that it owed, so every read fails. -/
  | noFarewell
deriving DecidableEq, Repr

/-- How the far end takes what is sent. -/
inductive Reception
  /-- So many octets in all, over one or more writes. -/
  | accept (count : Nat)
  | fail (e : IoError)
  /-- One write takes nothing. -/
  | zero
deriving DecidableEq, Repr

/-- How the far end takes what is sent when the script is over. -/
inductive Capacity
  | unlimited
  /-- Nothing is taken any more. -/
  | full
  /-- The far end has left, which the wire notices by the next write. -/
  | leaving
  /-- The far end is gone. -/
  | gone
deriving DecidableEq, Repr

namespace Delivery

/-- Data of no length, which a read does not stop at. -/
def isIdle : Delivery → Bool
  | .data octets => octets.isEmpty
  | _ => false

/-- How many octets an act delivers, and one more. -/
def weight : Cue Delivery → Nat
  | .act (.data octets) => octets.length + 1
  | _ => 1

end Delivery

namespace Reception

/-- Taking nothing without saying so. -/
def isIdle : Reception → Bool
  | .accept count => count == 0
  | _ => false

end Reception

/-- A connected stream and the far end behind it. -/
structure Wire where
  /-- The clock, in milliseconds. -/
  now : Nat
  /-- What has arrived and was not read. -/
  arrived : Octets
  deliveries : Script Delivery
  afterDeliveries : Ending
  receptions : Script Reception
  afterReceptions : Capacity
  /-- All that the far end has taken. -/
  sent : Array UInt8
  /-- The answers to flushes; `none` is success. -/
  flushes : Script (Option IoError)
  /-- The answers to ending the sending side. -/
  shutdowns : Script (Option IoError)
  flushCount : Nat
  shutdownCount : Nat
  /-- The connection was cut, and the next read or write says so. -/
  cut : Bool
  connected : Bool
deriving DecidableEq, Repr

namespace Wire

/-- A wire whose far end sends nothing, has ended its side and takes all. -/
def idle : Wire where
  now := 0
  arrived := []
  deliveries := .ofCues []
  afterDeliveries := .eof
  receptions := .ofCues []
  afterReceptions := .unlimited
  sent := #[]
  flushes := .ofCues []
  shutdowns := .ofCues []
  flushCount := 0
  shutdownCount := 0
  cut := false
  connected := true

/-! ### Reading -/

/-- Takes what has arrived, at most `room` octets. -/
def take (room : Nat) (w : Wire) : Octets × Wire :=
  (w.arrived.take room, { w with arrived := w.arrived.drop room })

/-- Reads at most `room` octets. No octets mean the end of the stream, or no room. -/
def read (deadline : Option Nat) (room : Nat) (w : Wire) : Except (Fault IoError) Octets × Wire :=
  if room = 0 then (.ok [], w)
  else if !w.arrived.isEmpty then
    let (octets, w) := w.take room
    (.ok octets, w)
  else
    match w.deliveries.next Delivery.isIdle deadline w.now with
    | (.act (.data octets), now, rest) =>
      let (octets, w) := { w with now := now, deliveries := rest, arrived := octets }.take room
      (.ok octets, w)
    | (.act (.fail e), now, rest) => (.error (.failed e), { w with now := now, deliveries := rest })
    | (.act .eof, now, rest) => (.ok [], { w with now := now, deliveries := rest })
    | (.nothing, now, rest) => (.error .unanswered, { w with now := now, deliveries := rest })
    | (.over, now, rest) =>
      let w := { w with now := now, deliveries := rest }
      if w.cut then (.error (.failed .connectionReset), { w with cut := false })
      else
        match w.afterDeliveries with
        | .eof => (.ok [], w)
        | .noFarewell => (.error (.failed .noFarewell), w)
        | .silence => (.error .unanswered, { w with now := Script.patienceEnd deadline now })

/-! ### Writing -/

/-- Hands octets to the far end, which takes `count` of them. -/
def give (octets : Octets) (count : Nat) (w : Wire) : Wire :=
  { w with sent := w.sent ++ octets.take count }

/-- Writes octets and answers how many were taken. -/
def write (deadline : Option Nat) (octets : Octets) (w : Wire) :
    Except (Fault IoError) Nat × Wire :=
  if w.cut then (.error (.failed .connectionReset), { w with cut := false })
  else
    match w.receptions.next Reception.isIdle deadline w.now with
    | (.act (.accept count), now, rest) =>
      let w := { w with now := now, receptions := rest }
      if octets.length < count then
        let left := rest.putBack (.accept (count - octets.length))
        (.ok octets.length, { w.give octets octets.length with receptions := left })
      else (.ok count, w.give octets count)
    | (.act (.fail e), now, rest) => (.error (.failed e), { w with now := now, receptions := rest })
    | (.act .zero, now, rest) => (.ok 0, { w with now := now, receptions := rest })
    | (.nothing, now, rest) => (.error .unanswered, { w with now := now, receptions := rest })
    | (.over, now, rest) =>
      let w := { w with now := now, receptions := rest }
      match w.afterReceptions with
      | .unlimited => (.ok octets.length, w.give octets octets.length)
      | .leaving =>
        (.ok octets.length,
          { w.give octets octets.length with afterReceptions := .gone, connected := false })
      | .gone => (.error (.failed .brokenPipe), w)
      | .full => (.error .unanswered, { w with now := Script.patienceEnd deadline now })

/-- The answer that a script of answers has next, success when it is over. -/
def acknowledge (deadline : Option Nat) (now : Nat) (answers : Script (Option IoError)) :
    Except (Fault IoError) Unit × Nat × Script (Option IoError) :=
  match answers.next (fun _ => false) deadline now with
  | (.act (some e), now, rest) => (.error (.failed e), now, rest)
  | (.nothing, now, rest) => (.error .unanswered, now, rest)
  | (_, now, rest) => (.ok (), now, rest)

/-- Asks the far end to take note of all that was written. -/
def flush (deadline : Option Nat) (w : Wire) : Except (Fault IoError) Unit × Wire :=
  let (answer, now, rest) := acknowledge deadline w.now w.flushes
  (answer, { w with now := now, flushes := rest, flushCount := w.flushCount + 1 })

def shutdown (deadline : Option Nat) (w : Wire) : Except (Fault IoError) Unit × Wire :=
  let (answer, now, rest) := acknowledge deadline w.now w.shutdowns
  (answer, { w with now := now, shutdowns := rest, shutdownCount := w.shutdownCount + 1 })

/-! ### What is left to read, and how many cues are left to write against -/

/-- An upper bound of the octets and answers that reads can still find. -/
def supply (w : Wire) : Nat :=
  w.arrived.length + Script.weigh Delivery.weight w.deliveries.cues

/-- How many cues are left for writes. -/
def patience (w : Wire) : Nat := Script.weigh (fun _ => 1) w.receptions.cues

@[simp] theorem take_fst (room : Nat) (w : Wire) : (w.take room).1 = w.arrived.take room := rfl

theorem read_supply (deadline : Option Nat) (room : Nat) (w : Wire) {octets : Octets} {w' : Wire}
    (h : w.read deadline room = (.ok octets, w')) :
    octets.length + w'.supply ≤ w.supply := by
  rw [read] at h
  by_cases hroom : room = 0
  · rw [if_pos hroom] at h
    cases h
    exact Nat.le_of_eq (Nat.zero_add _)
  rw [if_neg hroom] at h
  cases harrived : w.arrived.isEmpty with
  | false =>
    simp only [harrived, Bool.not_false, if_true, take] at h
    cases h
    simp only [supply, List.length_take, List.length_drop]
    omega
  | true =>
    have hw := Script.weigh_next_le Delivery.weight Delivery.isIdle deadline w.now w.deliveries
    simp only [harrived, Bool.not_true, Bool.false_eq_true, if_false] at h
    rcases hnext : w.deliveries.next Delivery.isIdle deadline w.now
      with ⟨(found | e | _) | _ | _, now, rest⟩
    all_goals simp only [hnext, Prompt.weigh, Delivery.weight] at h hw
    · cases h
      simp only [supply, take, List.length_take, List.length_drop]
      omega
    · cases h
    · cases h
      simp only [supply, List.length_nil]
      omega
    · cases hcut : w.cut with
      | true => simp [hcut] at h
      | false =>
        cases hending : w.afterDeliveries with
        | eof =>
          simp only [hcut, hending, Bool.false_eq_true, if_false] at h
          cases h
          simp only [supply, List.length_nil]
          omega
        | silence => simp [hcut, hending] at h
        | noFarewell => simp [hcut, hending] at h
    · cases h

/-- An interruption is a cue of the script, and it is used up. -/
theorem read_interrupted (deadline : Option Nat) (room : Nat) (w : Wire) {e : IoError} {w' : Wire}
    (he : e.kind = .interrupted) (h : w.read deadline room = (.error (.failed e), w')) :
    w'.supply < w.supply := by
  rw [read] at h
  by_cases hroom : room = 0
  · rw [if_pos hroom] at h
    cases h
  rw [if_neg hroom] at h
  cases harrived : w.arrived.isEmpty with
  | false => simp [harrived, take] at h
  | true =>
    have hw := Script.weigh_next_le Delivery.weight Delivery.isIdle deadline w.now w.deliveries
    simp only [harrived, Bool.not_true, Bool.false_eq_true, if_false] at h
    rcases hnext : w.deliveries.next Delivery.isIdle deadline w.now
      with ⟨(found | e' | _) | _ | _, now, rest⟩
    all_goals simp only [hnext, Prompt.weigh, Delivery.weight] at h hw
    · cases h
    · cases h
      simp only [supply]
      omega
    · cases h
    · -- what the wire itself fails with is no interruption
      cases hcut : w.cut with
      | true =>
        simp only [hcut, if_true] at h
        cases h
        exact absurd he (by decide)
      | false =>
        simp only [hcut, Bool.false_eq_true, if_false] at h
        cases hending : w.afterDeliveries with
        | eof => simp [hending] at h
        | silence => simp [hending] at h
        | noFarewell =>
          simp only [hending] at h
          cases h
          exact absurd he (by decide)
    · cases h

/-- A write that takes octets leaves at most as many cues as there were, and takes no more octets
than there are. -/
theorem write_ok (deadline : Option Nat) (octets : Octets) (w : Wire) {n : Nat} {w' : Wire}
    (h : w.write deadline octets = (.ok n, w')) :
    n ≤ octets.length ∧ w'.patience ≤ w.patience := by
  rw [write] at h
  cases hcut : w.cut with
  | true => simp [hcut] at h
  | false =>
    have hw := Script.weigh_next_le (fun _ => 1) Reception.isIdle deadline w.now w.receptions
    simp only [hcut, Bool.false_eq_true, if_false] at h
    rcases hnext : w.receptions.next Reception.isIdle deadline w.now
      with ⟨(count | e | _) | _ | _, now, rest⟩
    all_goals simp only [hnext, Prompt.weigh] at h hw
    · by_cases hroom : octets.length < count
      · rw [if_pos hroom] at h
        cases h
        simp only [patience, Script.putBack, Script.ofCues, Script.weigh_cons]
        omega
      · rw [if_neg hroom] at h
        cases h
        simp only [patience, give]
        omega
    · cases h
    · cases h
      simp only [patience]
      omega
    · cases hending : w.afterReceptions with
      | unlimited =>
        simp only [hending] at h
        cases h
        simp only [patience, give]
        omega
      | leaving =>
        simp only [hending] at h
        cases h
        simp only [patience, give]
        omega
      | gone => simp [hending] at h
      | full => simp [hending] at h
    · cases h

/-- An interruption is a cue of the script, and it is used up. -/
theorem write_interrupted (deadline : Option Nat) (octets : Octets) (w : Wire) {e : IoError}
    {w' : Wire} (he : e.kind = .interrupted)
    (h : w.write deadline octets = (.error (.failed e), w')) :
    w'.patience < w.patience := by
  rw [write] at h
  cases hcut : w.cut with
  | true =>
    simp only [hcut, if_true] at h
    cases h
    exact absurd he (by decide)
  | false =>
    have hw := Script.weigh_next_le (fun _ => 1) Reception.isIdle deadline w.now w.receptions
    simp only [hcut, Bool.false_eq_true, if_false] at h
    rcases hnext : w.receptions.next Reception.isIdle deadline w.now
      with ⟨(count | e' | _) | _ | _, now, rest⟩
    all_goals simp only [hnext, Prompt.weigh] at h hw
    · by_cases hroom : octets.length < count
      · rw [if_pos hroom] at h
        cases h
      · rw [if_neg hroom] at h
        cases h
    · cases h
      simp only [patience]
      omega
    · cases h
    · cases hending : w.afterReceptions with
      | unlimited => simp [hending] at h
      | leaving => simp [hending] at h
      | gone =>
        simp only [hending] at h
        cases h
        exact absurd he (by decide)
      | full => simp [hending] at h
    · cases h

/-! ### Whole pieces -/

/-- What it means that a write takes nothing. -/
def stuck : IoError := .plain .writeZero

/-- Writes octets until all are taken. An interrupted write is made again, and a write that takes
nothing is the error `onZero`. Answers the octets that are left, too. -/
def writeAll (deadline : Option Nat) (onZero : IoError) (octets : Octets) (w : Wire) :
    Except (Fault IoError) Unit × Octets × Wire :=
  if octets.isEmpty then (.ok (), [], w)
  else
    match _h : w.write deadline octets with
    | (.ok 0, w) => (.error (.failed onZero), octets, w)
    | (.ok (n + 1), w') => writeAll deadline onZero (octets.drop (n + 1)) w'
    | (.error (.failed e), w') =>
      if _hi : e.kind = .interrupted then writeAll deadline onZero octets w'
      else (.error (.failed e), octets, w')
    | (.error .unanswered, w) => (.error .unanswered, octets, w)
termination_by octets.length + w.patience
decreasing_by
  · have := write_ok _ _ _ ‹_›
    simp only [List.length_drop]
    omega
  · have := write_interrupted _ _ _ ‹_› ‹_›
    omega

/-- A write that fails or is not answered leaves at most as many cues as there were. -/
theorem write_patience_le (deadline : Option Nat) (octets : Octets) (w : Wire) :
    (w.write deadline octets).2.patience ≤ w.patience := by
  rw [write]
  cases hcut : w.cut with
  | true => exact Nat.le_refl _
  | false =>
    have hw := Script.weigh_next_le (fun _ => 1) Reception.isIdle deadline w.now w.receptions
    simp only [Bool.false_eq_true, if_false]
    rcases hnext : w.receptions.next Reception.isIdle deadline w.now
      with ⟨(count | e | _) | _ | _, now, rest⟩
    all_goals simp only [hnext, Prompt.weigh] at hw ⊢
    · by_cases hroom : octets.length < count
      · rw [if_pos hroom]
        simp only [patience, Script.putBack, Script.ofCues, Script.weigh_cons]
        omega
      · rw [if_neg hroom]
        simp only [patience, give]
        omega
    · simp only [patience]
      omega
    · simp only [patience]
      omega
    · cases w.afterReceptions <;> simp only [patience, give] <;> omega
    · simp only [patience]
      omega

theorem writeAll_patience_le (deadline : Option Nat) (onZero : IoError) (octets : Octets)
    (w : Wire) : (w.writeAll deadline onZero octets).2.2.patience ≤ w.patience := by
  fun_induction writeAll deadline onZero octets w with
  | case1 => exact Nat.le_refl _
  | case2 octets w _ w' h => exact Nat.le_trans (by simp [h]) (write_patience_le deadline octets w)
  | case3 octets w _ n w' h ih => exact Nat.le_trans ih (write_ok _ _ _ h).2
  | case4 octets w _ e w' h hi ih =>
    exact Nat.le_trans ih (Nat.le_of_lt (write_interrupted _ _ _ hi h))
  | case5 octets w _ e w' h hi =>
    exact Nat.le_trans (by simp [h]) (write_patience_le deadline octets w)
  | case6 octets w _ w' h =>
    exact Nat.le_trans (by simp [h]) (write_patience_le deadline octets w)

/-- What a stream that ends too early fails with. -/
def earlyEnd : IoError := .described .unexpectedEof "early eof"

/-- Reads exactly `missing` more octets. An interrupted read is made again. -/
def readExactOnto (got : Array UInt8) (missing : Nat) (w : Wire) :
    Except (Fault IoError) Octets × Wire :=
  if missing = 0 then (.ok got.toList, w)
  else
    match _h : w.read none missing with
    | (.ok [], w) => (.error (.failed earlyEnd), w)
    | (.ok (b :: more), w') =>
      readExactOnto (got ++ (b :: more)) (missing - (b :: more).length) w'
    | (.error (.failed e), w') =>
      if _hi : e.kind = .interrupted then readExactOnto got missing w'
      else (.error (.failed e), w')
    | (.error .unanswered, w) => (.error .unanswered, w)
termination_by w.supply
decreasing_by
  · have := read_supply _ _ _ ‹_›
    simp only [List.length_cons] at this
    omega
  · exact read_interrupted _ _ _ ‹_› ‹_›

/-- Reads exactly `count` octets. What was read is lost if there are not so many. -/
def readExact (count : Nat) (w : Wire) : Except (Fault IoError) Octets × Wire :=
  readExactOnto #[] count w

end Wire

end Mailwire
