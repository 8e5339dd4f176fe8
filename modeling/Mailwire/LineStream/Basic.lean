import Mailwire.Clock
import Mailwire.Duration
import Mailwire.Wire.Basic

/-!
# Line streams

A wire with a buffer in each direction. A refill of the read buffer is one read of the wire, made
only when the buffer is empty; a buffer that has no room stays empty. Small writes gather in the write
buffer; a write that does not fit any more sends the buffer first, and one that is as large as the
buffer goes past it.
-/

namespace Mailwire

/-- A buffered stream of octets that lines are read from and written to. -/
structure LineStream where
  wire : Wire
  /-- What was read ahead. -/
  unread : Octets
  /-- What was written and not handed to the wire. -/
  pending : Octets
  readCapacity : Nat
  writeCapacity : Nat
  /-- How long one refill may take. -/
  readTimeout : Option Duration
  /-- The longest line that is read, its end excluded. -/
  maxLineLength : Nat
deriving DecidableEq, Repr

namespace LineStream

/-! ### Making and unmaking -/

/-- A stream with empty buffers of given capacities and no timeout. -/
def ofWire (readCapacity writeCapacity : Nat) (wire : Wire) : LineStream where
  wire := wire
  unread := []
  pending := []
  readCapacity := readCapacity
  writeCapacity := writeCapacity
  readTimeout := none
  maxLineLength := 1048576

/-- The capacity that no buffer exceeds. -/
def maxCapacity : Nat := 0x7fffffffffffffff

/-- A stream with empty buffers of given capacities. There is none if a buffer is too large to be
had. -/
def ofWire? (readCapacity writeCapacity : Nat) (wire : Wire) : Option LineStream :=
  if readCapacity ≤ maxCapacity ∧ writeCapacity ≤ maxCapacity then
    some (ofWire readCapacity writeCapacity wire)
  else none

/-- A stream with buffers of the usual capacities. -/
def ofWireDefault (wire : Wire) : LineStream := ofWire 1024 512 wire

/-- The same wire with new buffers of the usual capacities. What was in the old ones is lost. -/
def rewrap (s : LineStream) : LineStream := ofWireDefault s.wire

/-! ### Refilling -/

/-- What a refill that takes too long fails with. -/
def silence (limit : Duration) : IoError :=
  .described .timedOut ("no data received for " ++ limit.text)

/-- The moment at which a refill that begins now has to give up. -/
def refillDeadline (s : LineStream) : Option Nat :=
  s.readTimeout.map fun limit => Clock.after s.wire.now limit.ticks

/-- Makes sure that the read buffer is not empty, and answers what is in it. Nothing in it means
the end of the stream, or no room. -/
def fill (deadline : Option Nat) (s : LineStream) : Except (Fault IoError) Octets × LineStream :=
  if !s.unread.isEmpty then (.ok s.unread, s)
  else
    match s.wire.read deadline s.readCapacity with
    | (.ok octets, wire) => (.ok octets, { s with wire := wire, unread := octets })
    | (.error f, wire) => (.error f, { s with wire := wire })

/-- A refill within the read timeout. -/
def refill (s : LineStream) : Except (Fault IoError) Octets × LineStream :=
  match s.fill s.refillDeadline with
  | (.error .unanswered, s') =>
    match s.readTimeout with
    | some limit => (.error (.failed (silence limit)), s')
    | none => (.error .unanswered, s')
  | answer => answer

def consume (count : Nat) (s : LineStream) : LineStream :=
  { s with unread := s.unread.drop count }

/-- An upper bound of the octets and answers that reads can still find. -/
def supply (s : LineStream) : Nat := s.unread.length + s.wire.supply

theorem fill_ok {deadline : Option Nat} {s s' : LineStream} {octets : Octets}
    (h : s.fill deadline = (.ok octets, s')) : s'.unread = octets ∧ s'.supply ≤ s.supply := by
  rw [fill] at h
  cases hunread : s.unread with
  | cons b more =>
    simp only [hunread, List.isEmpty_cons, Bool.not_false, if_true] at h
    cases h
    exact ⟨hunread, Nat.le_refl _⟩
  | nil =>
    simp only [hunread, List.isEmpty_nil, Bool.not_true, Bool.false_eq_true, if_false] at h
    rcases hread : s.wire.read deadline s.readCapacity with ⟨f | found, wire⟩
    · simp [hread] at h
    · have hsupply := Wire.read_supply _ _ _ hread
      simp only [hread] at h
      cases h
      refine ⟨rfl, ?_⟩
      simp only [supply, hunread, List.length_nil]
      omega

/-- An interruption uses up a cue of the far end. -/
theorem fill_interrupted {deadline : Option Nat} {s s' : LineStream} {e : IoError}
    (he : e.kind = .interrupted) (h : s.fill deadline = (.error (.failed e), s')) :
    s'.supply < s.supply := by
  rw [fill] at h
  cases hunread : s.unread with
  | cons b more => simp [hunread] at h
  | nil =>
    simp only [hunread, List.isEmpty_nil, Bool.not_true, Bool.false_eq_true, if_false] at h
    rcases hread : s.wire.read deadline s.readCapacity with ⟨f | found, wire⟩
    · simp only [hread] at h
      cases h
      have hless := Wire.read_interrupted _ _ _ he hread
      simp only [supply, hunread, List.length_nil]
      omega
    · simp [hread] at h

theorem refill_ok {s s' : LineStream} {octets : Octets} (h : s.refill = (.ok octets, s')) :
    s'.unread = octets ∧ s'.supply ≤ s.supply := by
  rw [refill] at h
  rcases hfill : s.fill s.refillDeadline with ⟨(e | _) | found, s₁⟩
  · rw [hfill] at h
    cases h
  · cases hlimit : s.readTimeout <;> simp [hfill, hlimit] at h
  · rw [hfill] at h
    cases h
    exact fill_ok hfill

/-- Taking octets out of a buffer that holds some leaves less to read. -/
theorem consume_supply_lt {s : LineStream} {count : Nat} (hc : 0 < count) (hu : s.unread ≠ []) :
    (s.consume count).supply < s.supply := by
  have : 0 < s.unread.length := List.length_pos_iff.mpr hu
  simp only [supply, consume, List.length_drop]
  omega

/-! ### Reading a given number of octets -/

/-- One read of at most `room` octets: out of the buffer, or past it if the buffer is empty and
could not hold more than is wanted. -/
def readSome (room : Nat) (s : LineStream) : Except (Fault IoError) Octets × LineStream :=
  if s.unread.isEmpty ∧ s.readCapacity ≤ room then
    match s.wire.read none room with
    | (answer, wire) => (answer, { s with wire := wire })
  else
    match s.fill none with
    | (.ok octets, s) => (.ok (octets.take room), s.consume room)
    | (.error f, s) => (.error f, s)

theorem readSome_ok {room : Nat} {s s' : LineStream} {octets : Octets}
    (h : s.readSome room = (.ok octets, s')) : octets.length + s'.supply ≤ s.supply := by
  rw [readSome] at h
  by_cases hdirect : s.unread.isEmpty ∧ s.readCapacity ≤ room
  · rw [if_pos hdirect] at h
    rcases hread : s.wire.read none room with ⟨answer, wire⟩
    simp only [hread] at h
    cases h
    have hsupply := Wire.read_supply _ _ _ hread
    simp only [supply]
    omega
  · rw [if_neg hdirect] at h
    rcases hfill : s.fill none with ⟨f | filled, s₁⟩
    · simp [hfill] at h
    · obtain ⟨hunread, hsupply⟩ := fill_ok hfill
      simp only [hfill] at h
      cases h
      simp only [supply, consume, List.length_take, List.length_drop, hunread] at hsupply ⊢
      omega

/-- An interruption uses up a cue of the far end. -/
theorem readSome_interrupted {room : Nat} {s s' : LineStream} {e : IoError}
    (he : e.kind = .interrupted) (h : s.readSome room = (.error (.failed e), s')) :
    s'.supply < s.supply := by
  rw [readSome] at h
  by_cases hdirect : s.unread.isEmpty ∧ s.readCapacity ≤ room
  · rw [if_pos hdirect] at h
    rcases hread : s.wire.read none room with ⟨answer, wire⟩
    simp only [hread] at h
    cases h
    have hless := Wire.read_interrupted _ _ _ he hread
    simp only [supply]
    omega
  · rw [if_neg hdirect] at h
    rcases hfill : s.fill none with ⟨f | filled, s₁⟩
    · simp only [hfill] at h
      cases h
      exact fill_interrupted he hfill
    · simp [hfill] at h

/-- Reads exactly `missing` more octets. An interrupted read is made again. -/
def readExactOnto (got : Array UInt8) (missing : Nat) (s : LineStream) :
    Except (Fault IoError) Octets × LineStream :=
  if missing = 0 then (.ok got.toList, s)
  else
    match _h : s.readSome missing with
    | (.ok [], s) => (.error (.failed Wire.earlyEnd), s)
    | (.ok (b :: more), s') =>
      readExactOnto (got ++ (b :: more)) (missing - (b :: more).length) s'
    | (.error (.failed e), s') =>
      if _hi : e.kind = .interrupted then readExactOnto got missing s'
      else (.error (.failed e), s')
    | (.error .unanswered, s) => (.error .unanswered, s)
termination_by s.supply
decreasing_by
  · have := readSome_ok ‹_›
    simp only [List.length_cons] at this
    omega
  · exact readSome_interrupted ‹_› ‹_›

/-- Reads exactly `count` octets. What was read is lost if there are not so many. -/
def readExact (count : Nat) (s : LineStream) : Except (Fault IoError) Octets × LineStream :=
  readExactOnto #[] count s

/-! ### Sending what is pending -/

/-- What it means that the far end takes nothing of the buffer. -/
def bufferStuck : IoError := .described .writeZero "failed to write the buffered data"

/-- Empties the write buffer. What the wire has taken leaves the buffer even if the rest stays. -/
def sendPending (deadline : Option Nat) (s : LineStream) :
    Except (Fault IoError) Unit × LineStream :=
  match s.wire.writeAll deadline bufferStuck s.pending with
  | (answer, left, wire) => (answer, { s with pending := left, wire := wire })

/-- Empties the write buffer and flushes the wire. -/
def flush (deadline : Option Nat) (s : LineStream) : Except (Fault IoError) Unit × LineStream :=
  match s.sendPending deadline with
  | (.ok (), s) =>
    match s.wire.flush deadline with
    | (answer, wire) => (answer, { s with wire := wire })
  | (.error f, s) => (.error f, s)

/-- Empties the write buffer and ends the sending side of the wire. -/
def shutdown (deadline : Option Nat) (s : LineStream) : Except (Fault IoError) Unit × LineStream :=
  match s.sendPending deadline with
  | (.ok (), s) =>
    match s.wire.shutdown deadline with
    | (answer, wire) => (answer, { s with wire := wire })
  | (.error f, s) => (.error f, s)

/-! ### Writing -/

/-- Makes room in the write buffer, if octets would not fit beside what is in it. -/
def makeRoom (octets : Octets) (s : LineStream) : Except (Fault IoError) Unit × LineStream :=
  if s.writeCapacity < s.pending.length + octets.length then s.sendPending none else (.ok (), s)

/-- One write: past the buffer if octets could not leave room in it, into the buffer otherwise.
Answers how many octets were taken. -/
def put (octets : Octets) (s : LineStream) : Except (Fault IoError) Nat × LineStream :=
  if s.writeCapacity ≤ octets.length then
    match s.wire.write none octets with
    | (answer, wire) => (answer, { s with wire := wire })
  else (.ok octets.length, { s with pending := s.pending ++ octets })

theorem sendPending_patience_le (deadline : Option Nat) (s : LineStream) :
    (s.sendPending deadline).2.wire.patience ≤ s.wire.patience :=
  Wire.writeAll_patience_le deadline bufferStuck s.pending s.wire

theorem makeRoom_patience_le (octets : Octets) (s : LineStream) :
    (s.makeRoom octets).2.wire.patience ≤ s.wire.patience := by
  rw [makeRoom]
  by_cases hfull : s.writeCapacity < s.pending.length + octets.length
  · rw [if_pos hfull]
    exact sendPending_patience_le none s
  · simp only [if_neg hfull, Nat.le_refl]

theorem put_interrupted {octets : Octets} {s s' : LineStream} {e : IoError}
    (he : e.kind = .interrupted) (h : s.put octets = (.error (.failed e), s')) :
    s'.wire.patience < s.wire.patience := by
  rw [put] at h
  by_cases hdirect : s.writeCapacity ≤ octets.length
  · rw [if_pos hdirect] at h
    rcases hwrite : s.wire.write none octets with ⟨answer, wire⟩
    rw [hwrite] at h
    cases h
    exact Wire.write_interrupted none octets s.wire he hwrite
  · rw [if_neg hdirect] at h
    cases h

/-- Writes all octets, in as many writes as it takes. An interrupted write is made again. -/
def writeAll (octets : Octets) (s : LineStream) : Except (Fault IoError) Unit × LineStream :=
  if octets.isEmpty then (.ok (), s)
  else
    match _hroom : s.makeRoom octets with
    | (.error f, s) => (.error f, s)
    | (.ok (), s') =>
      match _hput : s'.put octets with
      | (.ok 0, s) => (.error (.failed Wire.stuck), s)
      | (.ok (n + 1), s'') => writeAll (octets.drop (n + 1)) s''
      | (.error (.failed e), s'') =>
        if _hi : e.kind = .interrupted then writeAll octets s'' else (.error (.failed e), s'')
      | (.error .unanswered, s) => (.error .unanswered, s)
termination_by (octets.length, s.wire.patience)
decreasing_by
  · have : 0 < octets.length := List.length_pos_iff.mpr (by simp_all)
    exact Prod.Lex.left _ _ (by simp only [List.length_drop]; omega)
  · have hroom := makeRoom_patience_le octets s
    rw [_hroom] at hroom
    exact Prod.Lex.right _ (Nat.lt_of_lt_of_le (put_interrupted _hi _hput) hroom)

end LineStream

end Mailwire
