import Mailwire.Proofs.LineStream.Reading
import Mailwire.Proofs.LineStream.Writing
import Mailwire.Proofs.Wire.Passage

/-!
# A stream in use

Whatever is called on a stream, and whether it succeeds or not, its wire only goes on, the capacity of
its read buffer stays as it is, and the buffer never holds more than that
(`LineStream.Onward`, `StreamCall.task_onward`). So all this holds while a stream is in use
(`StreamCall.after_onward`).
-/

namespace Mailwire

namespace LineStream

variable {s s₁ s₂ : LineStream}

/-- What calls make of a stream. -/
structure Onward (s s' : LineStream) : Prop where
  wire : Wire.Onward s.wire s'.wire
  readCapacity : s'.readCapacity = s.readCapacity
  buffered : s.unread.length ≤ s.readCapacity → s'.unread.length ≤ s'.readCapacity

namespace Onward

protected lemma refl (s : LineStream) : Onward s s := ⟨.refl _, rfl, id⟩

protected lemma trans (h : Onward s s₁) (h' : Onward s₁ s₂) : Onward s s₂ :=
  ⟨h.wire.trans h'.wire, h'.readCapacity.trans h.readCapacity,
    fun hbuffered => h'.buffered (h.buffered hbuffered)⟩

/-- The wire goes on, and the read buffer stays as it is. -/
lemma of_wire {w : Wire} (h : Wire.Onward s.wire w) (pending : Octets) :
    Onward s { s with wire := w, pending := pending } := ⟨h, rfl, id⟩

end Onward

/-! ### Reading -/

lemma consume_onward (count : Nat) (s : LineStream) : Onward s (s.consume count) := by
  refine ⟨.refl _, rfl, ?_⟩
  intro hbuffered
  rw [consume, List.length_drop]
  exact Nat.le_trans (Nat.sub_le _ _) hbuffered

lemma fill_onward (deadline : Option Nat) (s : LineStream) : Onward s (s.fill deadline).2 := by
  have hread := Wire.read_onward deadline s.readCapacity s.wire
  rw [fill]
  split_ifs with hunread
  · exact .refl s
  · rcases h : s.wire.read deadline s.readCapacity with ⟨f | octets, w⟩
    · rw [h] at hread
      exact .of_wire hread _
    · rw [h] at hread
      exact ⟨hread, rfl, fun _ => Wire.read_length_le h⟩

lemma refill_onward (s : LineStream) : Onward s s.refill.2 := by
  have hfill := fill_onward s.refillDeadline s
  rw [refill]
  split
  · next s' h =>
    rw [h] at hfill
    split <;> exact hfill
  · exact hfill

/-- One refill, and what is then taken from the buffer. -/
lemma onward_of_refill {answer : Except (Fault IoError) Octets} (h : s.refill = (answer, s₁))
    (count : Nat) : Onward s (s₁.consume count) := by
  have hrefill := s.refill_onward
  rw [h] at hrefill
  exact hrefill.trans (consume_onward count s₁)

lemma readLineOnto_onward (line : Array UInt8) (s : LineStream) :
    Onward s (readLineOnto line s).2 := by
  fun_induction readLineOnto line s with
  | case1 line s f s' hrefill => exact onward_of_refill hrefill 0
  | case2 line s s' hrefill => exact onward_of_refill hrefill 0
  | case3 line s available s' hrefill hne segment line' s'' hlong => exact onward_of_refill hrefill _
  | case4 line s available s' hrefill hne segment line' s'' hlong hterm =>
    exact onward_of_refill hrefill _
  | case5 line s available s' hrefill hne segment line' s'' hlong hterm ih =>
    exact (onward_of_refill hrefill _).trans ih

lemma readSome_onward (room : Nat) (s : LineStream) : Onward s (s.readSome room).2 := by
  rw [readSome]
  split_ifs with hdirect
  · exact .of_wire (Wire.read_onward none room s.wire) s.pending
  · have hfill : Onward s (s.fill none).2 := fill_onward none s
    rcases h : s.fill none with ⟨f | octets, s'⟩
    · rw [h] at hfill
      exact hfill
    · rw [h] at hfill
      exact hfill.trans (consume_onward room s')

lemma readExactOnto_onward (got : Array UInt8) (missing : Nat) (s : LineStream) :
    Onward s (readExactOnto got missing s).2 := by
  have hread : ∀ {missing s answer s'}, s.readSome missing = (answer, s') → Onward s s' := by
    intro missing s answer s' h
    have honward := readSome_onward missing s
    rwa [h] at honward
  fun_induction readExactOnto got missing s with
  | case1 got s => exact .refl s
  | case2 got missing s hmissing s' h => exact hread h
  | case3 got missing s hmissing b more s' h ih => exact (hread h).trans ih
  | case4 got missing s hmissing e s' h hinterrupted ih => exact (hread h).trans ih
  | case5 got missing s hmissing e s' h hinterrupted => exact hread h
  | case6 got missing s hmissing s' h => exact hread h

/-! ### Writing -/

lemma sendPending_onward (deadline : Option Nat) (s : LineStream) :
    Onward s (s.sendPending deadline).2 :=
  .of_wire (Wire.writeAll_onward deadline bufferStuck s.pending s.wire) _

lemma flush_onward (deadline : Option Nat) (s : LineStream) : Onward s (s.flush deadline).2 := by
  have hsend := sendPending_onward deadline s
  rw [flush]
  rcases h : s.sendPending deadline with ⟨f | _, s'⟩
  · rw [h] at hsend
    exact hsend
  · rw [h] at hsend
    exact hsend.trans (.of_wire (Wire.flush_onward deadline s'.wire) s'.pending)

lemma shutdown_onward (deadline : Option Nat) (s : LineStream) :
    Onward s (s.shutdown deadline).2 := by
  have hsend := sendPending_onward deadline s
  rw [shutdown]
  rcases h : s.sendPending deadline with ⟨f | _, s'⟩
  · rw [h] at hsend
    exact hsend
  · rw [h] at hsend
    exact hsend.trans (.of_wire (Wire.shutdown_onward deadline s'.wire) s'.pending)

lemma makeRoom_onward (octets : Octets) (s : LineStream) : Onward s (s.makeRoom octets).2 := by
  rw [makeRoom]
  split_ifs with hfull
  · exact sendPending_onward none s
  · exact .refl s

lemma put_onward (octets : Octets) (s : LineStream) : Onward s (s.put octets).2 := by
  rw [put]
  split_ifs with hlarge
  · exact .of_wire (Wire.write_onward none octets s.wire) s.pending
  · exact .of_wire (.refl s.wire) _

lemma writeAll_onward (octets : Octets) (s : LineStream) : Onward s (s.writeAll octets).2 := by
  have hroom : ∀ {octets s answer s'}, s.makeRoom octets = (answer, s') → Onward s s' := by
    intro octets s answer s' h
    have honward := makeRoom_onward octets s
    rwa [h] at honward
  have hput : ∀ {octets s answer s'}, s.put octets = (answer, s') → Onward s s' := by
    intro octets s answer s' h
    have honward := put_onward octets s
    rwa [h] at honward
  fun_induction writeAll octets s with
  | case1 octets s hempty => exact .refl s
  | case2 octets s hne f s' h => exact hroom h
  | case3 octets s hne s' h s'' h' => exact (hroom h).trans (hput h')
  | case4 octets s hne s' h n s'' h' ih => exact ((hroom h).trans (hput h')).trans ih
  | case5 octets s hne s' h e s'' h' hinterrupted ih => exact ((hroom h).trans (hput h')).trans ih
  | case6 octets s hne s' h e s'' h' hinterrupted => exact (hroom h).trans (hput h')
  | case7 octets s hne s' h s'' h' => exact (hroom h).trans (hput h')

lemma send_onward (octets : Octets) (s : LineStream) : Onward s (s.send octets).2 := by
  have hwrite := writeAll_onward octets s
  rw [send]
  rcases h : s.writeAll octets with ⟨f | _, s'⟩
  · rw [h] at hwrite
    exact hwrite
  · rw [h] at hwrite
    exact hwrite.trans (flush_onward none s')

/-! ### Settings -/

/-- The stream with another limit for a refill. -/
def withTimeout (limit : Option Duration) (s : LineStream) : LineStream :=
  { s with readTimeout := limit }

/-- The stream with another limit for a line. -/
def withMaxLineLength (max : Nat) (s : LineStream) : LineStream :=
  { s with maxLineLength := max }

end LineStream

/-! ### Calls in a row -/

/-- What a stream is used for. -/
inductive StreamCall
  | write (line : String) (replacement : Option String)
  | read (loggable : Bool)
  | readOctets (loggable : Bool)
  | readExact (count : Nat)
  | shutdown
  | setReadTimeout (limit : Option Duration)
  | setMaxLineLength (max : Nat)
deriving DecidableEq, Repr

namespace StreamCall

/-- A call, of which only what becomes of the stream is of interest. -/
def task : StreamCall → Task LineStream (Fault IoError) Unit
  | .write line replacement => LineStream.writeLine line replacement
  | .read loggable => (fun _ => ()) <$> LineStream.readLine loggable
  | .readOctets loggable => (fun _ => ()) <$> LineStream.readLineOctets loggable
  | .readExact count => (fun _ => ()) <$> Task.step (LineStream.readExact count)
  | .shutdown => Task.step (LineStream.shutdown none)
  | .setReadTimeout limit => Task.update (LineStream.withTimeout limit)
  | .setMaxLineLength max => Task.update (LineStream.withMaxLineLength max)

theorem task_onward (call : StreamCall) (s : LineStream) :
    LineStream.Onward s (call.task.run s).state := by
  have hread : ∀ loggable, LineStream.Onward s ((LineStream.readLineOctets loggable).run s).state := by
    intro loggable
    rw [LineStream.state_readLineOctets]
    exact LineStream.readLineOnto_onward #[] s
  cases call with
  | write line replacement =>
    rw [task, LineStream.run_writeLine]
    exact LineStream.send_onward _ s
  | read loggable =>
    rw [task, Task.run_map, LineStream.readLine_eq, Task.run_map]
    exact hread loggable
  | readOctets loggable =>
    rw [task, Task.run_map]
    exact hread loggable
  | readExact count =>
    rw [task, Task.run_map]
    exact LineStream.readExactOnto_onward #[] count s
  | shutdown => exact LineStream.shutdown_onward none s
  | setReadTimeout limit => exact ⟨.refl _, rfl, id⟩
  | setMaxLineLength max => exact ⟨.refl _, rfl, id⟩

/-- A stream behind calls that were made one after another, whatever became of them. -/
def after (calls : List StreamCall) (s : LineStream) : LineStream := Task.after (calls.map task) s

theorem after_onward (calls : List StreamCall) (s : LineStream) :
    LineStream.Onward s (after calls s) := by
  induction calls generalizing s with
  | nil => exact .refl s
  | cons call more ih => exact (call.task_onward s).trans (ih _)

end StreamCall

end Mailwire
