import Mailwire.Proofs.Connection
import Mailwire.Proofs.LineStream.Session
import Mailwire.Proofs.Wire.Deadline

/-!
# Closing is bounded and silent

Closing a connection sends what is pending and ends the sending side, with one deadline for both. If all
this is over by the deadline, it goes as it goes without one, and otherwise it is given up at the deadline
(`LineStream.shutdown_hurried`). The far end gets a front part of what was pending, and the sending side
is ended only behind all of it (`LineStream.shutdown_sends`).
-/

namespace Mailwire

/-! ### What does not end the sending side -/

namespace Wire

lemma write_shutdownCount (deadline : Option Nat) (octets : Octets) (w : Wire) :
    (w.write deadline octets).2.shutdownCount = w.shutdownCount := by
  rw [write]
  split_ifs with hcut
  · rfl
  · rcases w.receptions.next Reception.isIdle deadline w.now
      with ⟨(count | e | _) | _ | _, moment, rest⟩
    · dsimp only
      split_ifs <;> rfl
    · rfl
    · rfl
    · dsimp only
      split <;> rfl
    · rfl

lemma writeAll_shutdownCount (deadline : Option Nat) (onZero : IoError) (octets : Octets)
    (w : Wire) : (w.writeAll deadline onZero octets).2.2.shutdownCount = w.shutdownCount := by
  have hwrite : ∀ {octets answer} {w w' : Wire}, w.write deadline octets = (answer, w') →
      w'.shutdownCount = w.shutdownCount := by
    intro octets answer w w' h
    have hcount := write_shutdownCount deadline octets w
    rwa [h] at hcount
  fun_induction writeAll deadline onZero octets w with
  | case1 octets w hempty => rfl
  | case2 octets w hne w' h => exact hwrite h
  | case3 octets w hne n w' h ih => exact ih.trans (hwrite h)
  | case4 octets w hne e w' h hinterrupted ih => exact ih.trans (hwrite h)
  | case5 octets w hne e w' h hinterrupted => exact hwrite h
  | case6 octets w hne w' h => exact hwrite h

end Wire

namespace LineStream

open Wire (Hurried)

variable {deadline : Nat} {s : LineStream}

/-! ### With a deadline and without one -/

lemma sendPending_hurried (hnow : s.wire.now ≤ deadline) :
    Hurried (fun s => s.wire.now) deadline (s.sendPending none) (s.sendPending (some deadline)) := by
  have hwrite := Wire.writeAll_hurried bufferStuck s.pending hnow
  constructor
  · intro hanswered hin
    simp only [sendPending, hwrite.inTime hanswered hin]
  · intro hlate
    exact hwrite.late hlate

lemma shutdown_of_sent {deadline : Option Nat} {s' : LineStream}
    (h : s.sendPending deadline = (.ok (), s')) :
    s.shutdown deadline
      = ((s'.wire.shutdown deadline).1, { s' with wire := (s'.wire.shutdown deadline).2 }) := by
  rw [shutdown, h]

lemma shutdown_of_unsent {deadline : Option Nat} {s' : LineStream} {f : Fault IoError}
    (h : s.sendPending deadline = (.error f, s')) : s.shutdown deadline = (.error f, s') := by
  rw [shutdown, h]

/-- Sending what is pending and ending the sending side have one deadline for both. -/
theorem shutdown_hurried (hnow : s.wire.now ≤ deadline) :
    Hurried (fun s => s.wire.now) deadline (s.shutdown none) (s.shutdown (some deadline)) := by
  have hsend := sendPending_hurried hnow
  -- if sending takes too long, nothing is done behind it
  have hstops : (s.sendPending (some deadline)).1 = .error .unanswered →
      (s.shutdown (some deadline)).1 = .error .unanswered ∧
        (s.shutdown (some deadline)).2.wire.now = (s.sendPending (some deadline)).2.wire.now := by
    intro hunanswered
    rcases hhurried : s.sendPending (some deadline) with ⟨f | _, s'⟩
    · rw [hhurried] at hunanswered
      rw [shutdown_of_unsent hhurried]
      exact ⟨hunanswered, rfl⟩
    · rw [hhurried] at hunanswered
      cases hunanswered
  rcases hfree : s.sendPending none with ⟨f | _, s'⟩
  · rw [hfree] at hsend
    rw [shutdown_of_unsent hfree]
    by_cases hlate : f = .unanswered ∨ deadline < s'.wire.now
    · have hlate' := hlate.imp_left fun h => congrArg (Except.error : _ → Except _ Unit) h
      exact hsend.of_late hlate' hlate' hstops
    · rw [not_or, Nat.not_lt] at hlate
      have hanswer : (.error f : Except (Fault IoError) Unit) ≠ .error .unanswered :=
        fun h => hlate.1 (Except.error.inj h)
      rw [shutdown_of_unsent (hsend.inTime hanswer hlate.2)]
      exact .refl hanswer hlate.2
  · rw [hfree] at hsend
    rw [shutdown_of_sent hfree]
    by_cases hlate : deadline < s'.wire.now
    · have hclock : s'.wire.now ≤ (s'.wire.shutdown none).2.now :=
        (Wire.shutdown_onward none s'.wire).clock
      exact hsend.of_late (.inr hlate) (.inr (Nat.lt_of_lt_of_le hlate hclock)) hstops
    · have hend := Wire.shutdown_hurried (Nat.le_of_not_lt hlate)
      rw [shutdown_of_sent (hsend.inTime (by simp) (Nat.le_of_not_lt hlate))]
      constructor
      · intro hanswered hin
        rw [hend.inTime hanswered hin]
      · exact hend.late

/-! ### What is sent -/

/-- The far end takes a front part of what is pending, and the rest stays pending. -/
lemma sendPending_sends (deadline : Option Nat) (s : LineStream) :
    (∃ front, s.pending = front ++ (s.sendPending deadline).2.pending ∧
      (s.sendPending deadline).2.wire.taken = s.wire.taken ++ front) ∧
    (s.sendPending deadline).2.wire.shutdownCount = s.wire.shutdownCount := by
  obtain ⟨front, hsplit, htaken, -⟩ := s.wire.writeAll_taken deadline bufferStuck s.pending
  exact ⟨⟨front, hsplit, htaken⟩, s.wire.writeAll_shutdownCount deadline bufferStuck s.pending⟩

/-- The far end takes a front part of what is pending, and the rest stays pending. The sending side is
ended at most once, and only behind all of it. -/
theorem shutdown_sends (deadline : Option Nat) (s : LineStream) :
    (∃ front, s.pending = front ++ (s.shutdown deadline).2.pending ∧
      (s.shutdown deadline).2.wire.taken = s.wire.taken ++ front) ∧
    ((s.shutdown deadline).2.wire.shutdownCount = s.wire.shutdownCount ∨
      ∃ w : Wire, w.taken = s.wire.taken ++ s.pending ∧ w.shutdownCount = s.wire.shutdownCount ∧
        s.shutdown deadline
          = ((w.shutdown deadline).1, { s with pending := [], wire := (w.shutdown deadline).2 })) := by
  obtain ⟨⟨front, hsplit, htaken⟩, hcount⟩ := sendPending_sends deadline s
  obtain ⟨-, -, hempty⟩ := sendPending_spec deadline s
  rcases hsend : s.sendPending deadline with ⟨f | _, s'⟩
  · rw [hsend] at hsplit htaken hcount
    rw [shutdown_of_unsent hsend]
    exact ⟨⟨front, hsplit, htaken⟩, .inl hcount⟩
  · have hs' : s' = { s with pending := [], wire := s'.wire } := by
      have hbuffers : (s.sendPending deadline).2
          = { s with
              pending := (s.sendPending deadline).2.pending
              wire := (s.sendPending deadline).2.wire } := rfl
      rw [hempty (by rw [hsend]), hsend] at hbuffers
      exact hbuffers
    rw [hsend] at hsplit htaken hcount hempty
    rw [hempty rfl, List.append_nil] at hsplit
    rw [shutdown_of_sent hsend]
    refine ⟨⟨front, ?_, htaken⟩, .inr ⟨s'.wire, ?_, hcount, ?_⟩⟩
    · rw [hempty rfl, List.append_nil, hsplit]
    · rw [htaken, hsplit]
    · rw [hs']

end LineStream

namespace Connection

lemma closingTrouble_length_le (limit : Duration) (outcome : Except (Fault IoError) Unit) :
    (closingTrouble limit outcome).length ≤ 1 := by
  rcases outcome with (e | _) | _ <;> simp [closingTrouble]

/-- Closing a connection succeeds, whatever is pending and however the far end behaves. It is seen to do
at most one thing before it logs that the connection is closed. As long as the clock has thirty years
left, it takes no longer than the read timeout: what would be over by then without a deadline goes as it
does without one, with the error if there is one, and in any other case closing gives up, and says so. The
far end takes a front part of what was pending, and the sending side is ended only when it has taken all. -/
theorem close_bounded {ε : Type} (c : Connection) :
    let run := (close : Task Connection ε Unit).run c
    let left := run.state.lines
    let free := c.lines.shutdown none
    run.result = .ok () ∧
    (∃ front, c.lines.pending = front ++ left.pending ∧
      left.wire.taken = c.lines.wire.taken ++ front) ∧
    (left.wire.shutdownCount = c.lines.wire.shutdownCount ∨
      ∃ w : Wire, w.taken = c.lines.wire.taken ++ c.lines.pending ∧
        w.shutdownCount = c.lines.wire.shutdownCount ∧
        left = { c.lines with pending := [], wire := (w.shutdown (some c.closeDeadline)).2 }) ∧
    ∃ outcome, run.trace = closingTrouble c.config.readTimeout outcome ++ [.log .closed] ∧
      (closingTrouble c.config.readTimeout outcome).length ≤ 1 ∧
      ∀ span, c.config.readTimeout.toNanos = span * 1000000 →
        (c.lines.wire.now + Clock.thirtyYears ≤ Clock.lastMoment →
          left.wire.now ≤ c.lines.wire.now + span) ∧
        (free.1 ≠ .error .unanswered →
          free.2.wire.now ≤ Clock.after c.lines.wire.now span →
            outcome = free.1 ∧ left = free.2) ∧
        (free.1 = .error .unanswered ∨
          Clock.after c.lines.wire.now span < free.2.wire.now →
            outcome = .error .unanswered ∧
              left.wire.now = Clock.after c.lines.wire.now span) := by
  intro run left free
  have hrun : run = ⟨.ok (), c.released, c.farewell⟩ := run_close c
  have hleft : left = (c.lines.shutdown (some c.closeDeadline)).2 := by
    simp only [left, hrun, released]
  obtain ⟨hfront, hended⟩ := c.lines.shutdown_sends (some c.closeDeadline)
  rw [← hleft] at hfront hended
  refine ⟨by rw [hrun], hfront, ?_, (c.lines.shutdown (some c.closeDeadline)).1, ?_,
    closingTrouble_length_le _ _, ?_⟩
  · rcases hended with hcount | ⟨w, htaken, hcount, hshutdown⟩
    · exact .inl hcount
    · exact .inr ⟨w, htaken, hcount, by rw [hleft, hshutdown]⟩
  · rw [hrun]
    rfl
  · intro span hwhole
    have hticks : c.config.readTimeout.ticks = span := by
      rw [Duration.ticks, hwhole]
      omega
    have hdeadline : c.closeDeadline = Clock.after c.lines.wire.now span := by
      rw [closeDeadline, hticks]
    have hhurried := LineStream.shutdown_hurried (Clock.le_after c.lines.wire.now span)
    rw [hleft, hdeadline]
    refine ⟨?_, ?_, hhurried.late⟩
    · intro hclock
      exact Nat.le_trans hhurried.clock_le (Clock.after_le_add span hclock)
    · intro hanswered hin
      rw [hhurried.inTime hanswered hin]
      exact ⟨rfl, rfl⟩

/-- A connection to a far end that takes two octets and then no more. -/
def stuckAtTwo : Connection where
  peer := ⟨.v4 10 0 0 1, 143⟩
  client := .v4 10 0 0 9
  handshake := .presents [] .publicAnchor true
  session := none
  config := .ofHost "mail.example.org" 143 .none
  lines :=
    { LineStream.ofWireDefault
        { Wire.idle with receptions := .ofActs [.accept 2], afterReceptions := .full } with
      pending := [0x61, 0x62, 0x63] }

/-- Closing it takes the whole minute of the read timeout, and then gives up. -/
theorem close_bounded_stuckAtTwo :
    let run := (close : Task Connection Error Unit).run stuckAtTwo
    run.result = .ok () ∧ run.state.lines.wire.now = 60000 ∧
      run.trace = [.log (.closingTimedOut stuckAtTwo.config.readTimeout), .log .closed] := by
  obtain ⟨hok, -, -, outcome, htrace, -, hspan⟩ := @close_bounded Error stuckAtTwo
  obtain ⟨-, -, hlate⟩ := hspan 60000 (by decide)
  obtain ⟨rfl, hnow⟩ := hlate (.inl (by decide +kernel))
  exact ⟨hok, by rw [hnow]; decide, htrace⟩

end Connection

end Mailwire
