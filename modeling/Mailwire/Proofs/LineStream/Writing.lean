import Mailwire.LineStream.Lines
import Mailwire.Proofs.Task
import Mailwire.Proofs.Wire.Outgoing

/-!
# What is written arrives in order

What the far end has taken, and behind it the write buffer, make up all that was written so far.
A line adds a front part of its octets to that, and all of them if it is written without an error.
Sending the buffer moves octets from one part to the other, even if it stops in the middle.

The one step that could break the order is a write past the buffer. It is made only after room was
made, and then the buffer is empty (`LineStream.makeRoom_spec`, `LineStream.put_spec`).
-/

namespace Mailwire

namespace LineStream

/-- All that was written, in the order in which the far end takes it. -/
def written (s : LineStream) : Octets := s.wire.taken ++ s.pending

/-! ### Sending what is pending -/

/-- Sending the buffer moves octets to the far end. On success none is left. -/
lemma sendPending_spec (deadline : Option Nat) (s : LineStream) :
    (s.sendPending deadline).2.written = s.written ∧
      (s.sendPending deadline).2.writeCapacity = s.writeCapacity ∧
      ((s.sendPending deadline).1 = .ok () → (s.sendPending deadline).2.pending = []) := by
  obtain ⟨front, hsplit, htaken, hok⟩ := Wire.writeAll_taken deadline bufferStuck s.pending s.wire
  refine ⟨?_, rfl, hok⟩
  calc (s.sendPending deadline).2.written
      = s.wire.taken ++ front ++ (s.wire.writeAll deadline bufferStuck s.pending).2.1 :=
        congrArg (· ++ _) htaken
    _ = s.wire.taken ++ s.pending := by rw [List.append_assoc, ← hsplit]

lemma flush_spec (deadline : Option Nat) (s : LineStream) :
    (s.flush deadline).2.written = s.written ∧
      ((s.flush deadline).1 = .ok () → (s.flush deadline).2.pending = []) := by
  obtain ⟨hwritten, -, hempty⟩ := sendPending_spec deadline s
  rcases hsend : s.sendPending deadline with ⟨f | _, s'⟩
  · rw [hsend] at hwritten
    rw [flush, hsend]
    exact ⟨hwritten, nofun⟩
  · rw [hsend] at hwritten hempty
    rw [flush, hsend]
    exact ⟨hwritten, fun _ => hempty rfl⟩

lemma shutdown_spec (deadline : Option Nat) (s : LineStream) :
    (s.shutdown deadline).2.written = s.written ∧
      ((s.shutdown deadline).1 = .ok () → (s.shutdown deadline).2.pending = []) := by
  obtain ⟨hwritten, -, hempty⟩ := sendPending_spec deadline s
  rcases hsend : s.sendPending deadline with ⟨f | _, s'⟩
  · rw [hsend] at hwritten
    rw [shutdown, hsend]
    exact ⟨hwritten, nofun⟩
  · rw [hsend] at hwritten hempty
    rw [shutdown, hsend]
    exact ⟨hwritten, fun _ => hempty rfl⟩

/-! ### One write -/

/-- Room for octets that are as many as the buffer holds means that the buffer is empty. -/
lemma makeRoom_spec (octets : Octets) (s : LineStream) :
    (s.makeRoom octets).2.written = s.written ∧
      ((s.makeRoom octets).1 = .ok () →
        (s.makeRoom octets).2.writeCapacity ≤ octets.length →
          (s.makeRoom octets).2.pending = []) := by
  rw [makeRoom]
  split_ifs with hfull
  · obtain ⟨hwritten, -, hempty⟩ := sendPending_spec none s
    exact ⟨hwritten, fun hok _ => hempty hok⟩
  · refine ⟨rfl, ?_⟩
    intro _ hlarge
    have hnone : s.pending.length = 0 := by
      dsimp only at hlarge
      omega
    exact List.length_eq_zero_iff.mp hnone

lemma put_spec {octets : Octets} {s : LineStream}
    (hroom : s.writeCapacity ≤ octets.length → s.pending = []) :
    (s.put octets).2.written = s.written ++ Wire.accepted octets (s.put octets).1 := by
  rw [put]
  split_ifs with hlarge
  · have hempty : s.pending = [] := hroom hlarge
    rcases hwrite : s.wire.write none octets with ⟨answer, wire⟩
    simp [written, hempty, Wire.write_taken hwrite]
  · simp [written]

/-- After room was made, a write adds as many octets as it says. -/
lemma put_of_makeRoom {octets : Octets} {s s' s'' : LineStream}
    {answer : Except (Fault IoError) Nat} (hroom : s.makeRoom octets = (.ok (), s'))
    (hput : s'.put octets = (answer, s'')) :
    s''.written = s.written ++ Wire.accepted octets answer := by
  obtain ⟨hwritten, hempty⟩ := makeRoom_spec octets s
  rw [hroom] at hwritten hempty
  have hadded := put_spec (hempty rfl)
  rw [hput] at hadded
  rw [hadded, hwritten]

/-! ### Whole pieces -/

lemma writeAll_eq (octets : Octets) (s : LineStream) :
    s.writeAll octets =
      if octets.isEmpty then (.ok (), s)
      else
        match s.makeRoom octets with
        | (.error f, s') => (.error f, s')
        | (.ok (), s') =>
          match s'.put octets with
          | (.ok 0, s'') => (.error (.failed Wire.stuck), s'')
          | (.ok (n + 1), s'') => s''.writeAll (octets.drop (n + 1))
          | (.error (.failed e), s'') =>
            if e.kind = .interrupted then s''.writeAll octets else (.error (.failed e), s'')
          | (.error .unanswered, s'') => (.error .unanswered, s'') := by
  conv_lhs => rw [writeAll]
  split_ifs with hempty
  · rfl
  · rcases s.makeRoom octets with ⟨f | _, s'⟩
    · rfl
    · dsimp only
      rcases s'.put octets with ⟨(e | _) | (_ | n), s''⟩ <;> rfl

/-- After room was made, writing goes on as one write answers. -/
lemma writeAll_of_makeRoom {octets : Octets} {s s' s'' : LineStream}
    {answer : Except (Fault IoError) Nat} (hne : octets ≠ [])
    (hroom : s.makeRoom octets = (.ok (), s')) (hput : s'.put octets = (answer, s'')) :
    s.writeAll octets =
      match (answer, s'') with
      | (.ok 0, s'') => (.error (.failed Wire.stuck), s'')
      | (.ok (n + 1), s'') => s''.writeAll (octets.drop (n + 1))
      | (.error (.failed e), s'') =>
        if e.kind = .interrupted then s''.writeAll octets else (.error (.failed e), s'')
      | (.error .unanswered, s'') => (.error .unanswered, s'') := by
  rw [writeAll_eq, if_neg (by simpa using hne), hroom]
  dsimp only
  rw [hput]

/-- A piece is written if one write takes all of it. -/
lemma writeAll_of_put {octets : Octets} {s s' s'' : LineStream} (hne : octets ≠ [])
    (hroom : s.makeRoom octets = (.ok (), s')) (hput : s'.put octets = (.ok octets.length, s'')) :
    s.writeAll octets = (.ok (), s'') := by
  obtain ⟨b, rest, rfl⟩ := List.exists_cons_of_ne_nil hne
  rw [writeAll_of_makeRoom hne hroom hput]
  dsimp only [List.length_cons]
  rw [← List.length_cons, List.drop_length, writeAll_eq]
  rfl

/-- Writing a piece adds a front part of it, and all of it on success. -/
theorem writeAll_written (octets : Octets) (s : LineStream) :
    ∃ part, part <+: octets ∧ (s.writeAll octets).2.written = s.written ++ part ∧
      ((s.writeAll octets).1 = .ok () → part = octets) := by
  fun_induction writeAll octets s with
  | case1 octets s hempty =>
    have hempty : octets = [] := by simpa using hempty
    exact ⟨[], List.nil_prefix, by simp, fun _ => hempty.symm⟩
  | case2 octets s hne f s' hroom =>
    obtain ⟨hwritten, -⟩ := makeRoom_spec octets s
    rw [hroom] at hwritten
    exact ⟨[], List.nil_prefix, by simpa using hwritten, by simp⟩
  | case3 octets s hne s' hroom s'' hput =>
    exact ⟨[], List.nil_prefix, by simpa using put_of_makeRoom hroom hput, by simp⟩
  | case4 octets s hne s' hroom n s'' hput ih =>
    -- the front part that was put now, and the part of the rest that follows
    obtain ⟨part, hpart, hwritten, hok⟩ := ih
    have hput : s''.written = s.written ++ octets.take (n + 1) := put_of_makeRoom hroom hput
    refine ⟨octets.take (n + 1) ++ part, ?_, ?_, ?_⟩
    · conv_rhs => rw [← List.take_append_drop (n + 1) octets]
      exact (List.prefix_append_right_inj _).mpr hpart
    · rw [hwritten, hput, List.append_assoc]
    · intro h
      rw [hok h, List.take_append_drop]
  | case5 octets s hne s' hroom e s'' hput hinterrupted ih =>
    obtain ⟨part, hpart, hwritten, hok⟩ := ih
    have hput : s''.written = s.written ++ [] := put_of_makeRoom hroom hput
    exact ⟨part, hpart, by rw [hwritten, hput, List.append_nil], hok⟩
  | case6 octets s hne s' hroom e s'' hput hinterrupted =>
    exact ⟨[], List.nil_prefix, put_of_makeRoom hroom hput, by simp⟩
  | case7 octets s hne s' hroom s'' hput =>
    exact ⟨[], List.nil_prefix, put_of_makeRoom hroom hput, by simp⟩

/-- What becomes of a stream when a line of these octets is written and sent off. -/
def send (octets : Octets) (s : LineStream) : Except (Fault IoError) Unit × LineStream :=
  match s.writeAll octets with
  | (.ok (), s') => s'.flush none
  | (.error f, s') => (.error f, s')

lemma run_writeLine (line : String) (replacement : Option String) (s : LineStream) :
    (writeLine line replacement).run s
      = ⟨(s.send (Line.encode line)).1, (s.send (Line.encode line)).2,
          [.log (.sending (replacement.getD line))]⟩ := by
  rw [writeLine, send, Task.run_bind, Task.run_log]
  dsimp only
  rw [Task.run_bind, Task.run_step]
  rcases s.writeAll (Line.encode line) with ⟨_ | _, s'⟩ <;> rfl

/-- Sending a line adds a front part of it. On success it adds all of it, and nothing is pending any
more. -/
lemma send_written (octets : Octets) (s : LineStream) :
    ∃ part, part <+: octets ∧ (s.send octets).2.written = s.written ++ part ∧
      ((s.send octets).1 = .ok () → part = octets ∧ (s.send octets).2.pending = []) := by
  obtain ⟨part, hpart, hwritten, hok⟩ := s.writeAll_written octets
  refine ⟨part, hpart, ?_⟩
  rw [send]
  rcases hwrite : s.writeAll octets with ⟨f | _, s'⟩
  · rw [hwrite] at hwritten
    exact ⟨hwritten, nofun⟩
  · rw [hwrite] at hwritten hok
    obtain ⟨hflush, hempty⟩ := s'.flush_spec none
    exact ⟨hflush.trans hwritten, fun h => ⟨hok rfl, hempty h⟩⟩

end LineStream

/-! ### Calls in a row -/

/-- A call that sends something, or the end of all. -/
inductive SendCall
  | line (text : String) (replacement : Option String)
  | shutdown (deadline : Option Nat)
deriving DecidableEq, Repr

namespace SendCall

def task : SendCall → Task LineStream (Fault IoError) Unit
  | .line text replacement => LineStream.writeLine text replacement
  | .shutdown deadline => Task.step (LineStream.shutdown deadline)

/-- What a call has to send. -/
def octets : SendCall → Octets
  | .line text _ => Line.encode text
  | .shutdown _ => []

/-- What becomes of calls that are made one after another, whatever became of those before. -/
def runs (calls : List SendCall) (s : LineStream) : List (Run LineStream (Fault IoError) Unit) :=
  Task.runs (calls.map task) s

/-- One call adds a front part of what it has to send. On success it adds all of it, and nothing is
pending any more. -/
theorem task_written (call : SendCall) (s : LineStream) :
    ∃ part, part <+: call.octets ∧ (call.task.run s).state.written = s.written ++ part ∧
      ((call.task.run s).result = .ok () → part = call.octets ∧
        (call.task.run s).state.pending = []) := by
  cases call with
  | shutdown deadline =>
    obtain ⟨hwritten, hempty⟩ := LineStream.shutdown_spec deadline s
    exact ⟨[], List.nil_prefix, by simpa [task] using hwritten, fun hok => ⟨rfl, hempty hok⟩⟩
  | line text replacement =>
    rw [task, LineStream.run_writeLine]
    exact s.send_written (Line.encode text)

/-- After each of the calls, what the far end has taken and what is pending are one front part of
each call's octets, in the order of the calls: all of them where the call has succeeded. After a
success nothing is pending. -/
theorem written_eq_parts (s : LineStream) (calls : List SendCall) :
    ∃ parts : List Octets, parts.length = calls.length ∧
      ∀ i call, calls[i]? = some call →
        ∃ run part, (runs calls s)[i]? = some run ∧ parts[i]? = some part ∧
          run.state.wire.taken ++ run.state.pending
            = s.wire.taken ++ s.pending ++ (parts.take (i + 1)).flatten ∧
          part <+: call.octets ∧
          (run.result = .ok () → part = call.octets ∧ run.state.pending = []) := by
  induction calls generalizing s with
  | nil => exact ⟨[], rfl, by simp⟩
  | cons call more ih =>
    obtain ⟨part, hpart, hwritten, hok⟩ := call.task_written s
    obtain ⟨parts, hlength, hparts⟩ := ih (call.task.run s).state
    refine ⟨part :: parts, by simp [hlength], ?_⟩
    intro i call' hcall
    cases i with
    | zero =>
      obtain rfl : call = call' := by simpa using hcall
      exact ⟨call.task.run s, part, rfl, rfl, by simpa [LineStream.written] using hwritten,
        hpart, hok⟩
    | succ i =>
      obtain ⟨run, part', hrun, hpart', hstate, hrest⟩ := hparts i call' hcall
      refine ⟨run, part', hrun, hpart', ?_, hrest⟩
      calc run.state.wire.taken ++ run.state.pending
          = (call.task.run s).state.written ++ (parts.take (i + 1)).flatten := hstate
        _ = s.written ++ part ++ (parts.take (i + 1)).flatten := by rw [hwritten]
        _ = s.wire.taken ++ s.pending ++ ((part :: parts).take (i + 1 + 1)).flatten := by
          simp [LineStream.written]

end SendCall

end Mailwire
