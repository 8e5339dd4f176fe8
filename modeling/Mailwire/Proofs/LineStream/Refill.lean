import Mailwire.LineStream.Basic
import Mailwire.Proofs.Wire.Incoming

/-!
# Refills of the read buffer

What a line stream has still to read is its buffer, and behind it what is to come over the wire. A
refill only moves octets from the wire to the buffer, so it changes nothing about them, whether it
succeeds or not (`LineStream.refill_frame`). Over a steady wire it always succeeds, and if the buffer
has room, an empty buffer then means that nothing is to come (`LineStream.Steady.refill`).
-/

namespace Mailwire

namespace LineStream

/-- The octets that are still to be read. -/
def incoming (s : LineStream) : Octets := s.unread ++ s.wire.incoming

lemma incoming_consume {s : LineStream} {count : Nat} (h : count ≤ s.unread.length) :
    (s.consume count).incoming = s.incoming.drop count := by
  simp [incoming, consume, List.drop_append_of_le_length h]

/-- What two states of a stream have in common when nothing but a refill lies between them. -/
structure SameInput (s s' : LineStream) : Prop where
  incoming : s'.incoming = s.incoming
  readTimeout : s'.readTimeout = s.readTimeout
  maxLineLength : s'.maxLineLength = s.maxLineLength

lemma SameInput.refl (s : LineStream) : SameInput s s := ⟨rfl, rfl, rfl⟩

/-! ### What a refill does -/

lemma refillDeadline_eq (s : LineStream) :
    s.refillDeadline = (s.readTimeout.map Duration.ticks).map (Clock.after s.wire.now) := by
  simp [refillDeadline, Function.comp_def]

/-- What a refill fails with when its read of the wire fails. -/
def refillFault (limit : Option Duration) : Fault IoError → Fault IoError
  | .failed e => .failed e
  | .unanswered => limit.elim .unanswered fun limit => .failed (silence limit)

lemma refill_of_unread {s : LineStream} (h : s.unread ≠ []) : s.refill = (.ok s.unread, s) := by
  simp [refill, fill, h]

/-- A refill of an empty buffer is one read of the wire. The buffer then holds what it has found. -/
lemma refill_of_empty {s : LineStream} (h : s.unread = []) {answer : Except (Fault IoError) Octets}
    {w : Wire} (hread : s.wire.read s.refillDeadline s.readCapacity = (answer, w)) :
    s.refill = (answer.mapError (refillFault s.readTimeout),
      { s with wire := w, unread := Wire.found answer }) := by
  rcases answer with (e | _) | octets
  · simp [refill, fill, h, hread, Wire.found, Except.mapError, refillFault]
  · cases hlimit : s.readTimeout with
    | none => simp [refill, fill, h, hread, Wire.found, Except.mapError, refillFault, hlimit]
    | some limit => simp [refill, fill, h, hread, Wire.found, Except.mapError, refillFault, hlimit]
  · simp [refill, fill, h, hread, Wire.found, Except.mapError]

/-- A refill moves octets and loses none. -/
theorem refill_frame (s : LineStream) : SameInput s s.refill.2 := by
  by_cases hunread : s.unread = []
  · rcases hread : s.wire.read s.refillDeadline s.readCapacity with ⟨answer, w⟩
    rw [refill_of_empty hunread hread]
    refine ⟨?_, rfl, rfl⟩
    rw [incoming, incoming, hunread, Wire.read_incoming hread]
    rfl
  · rw [refill_of_unread hunread]
    exact .refl s

/-! ### Steady streams -/

/-- The far end only sends data and then closes, and is never silent for longer than a refill may
take. There is room for what it sends. -/
structure Steady (s : LineStream) : Prop where
  room : 0 < s.readCapacity
  wire : s.wire.Steady (s.readTimeout.map Duration.ticks)

lemma Steady.consume {s : LineStream} (h : s.Steady) (count : Nat) : (s.consume count).Steady :=
  ⟨h.room, h.wire⟩

/-- A refill from a steady far end succeeds. It leaves the buffer empty only when nothing is to
come. -/
theorem Steady.refill {s : LineStream} (h : s.Steady) :
    ∃ s', s.refill = (.ok s'.unread, s') ∧ s'.Steady ∧ SameInput s s' ∧
      (s'.unread = [] → s'.incoming = []) := by
  have hframe := refill_frame s
  by_cases hunread : s.unread = []
  · obtain ⟨octets, w', hread, hsteady, hend⟩ := h.wire.read h.room
    rw [← refillDeadline_eq] at hread
    let s' : LineStream := { s with wire := w', unread := octets }
    have hrefill : s.refill = (.ok octets, s') := refill_of_empty hunread hread
    rw [hrefill] at hframe
    refine ⟨s', hrefill, ⟨h.room, hsteady⟩, hframe, ?_⟩
    intro hnil
    rw [hframe.incoming]
    simp [incoming, hunread, hend hnil]
  · exact ⟨s, refill_of_unread hunread, h, .refl s, fun hnil => absurd hnil hunread⟩

lemma Steady.refill_ne_error {s : LineStream} (h : s.Steady) (f : Fault IoError)
    (s' : LineStream) : s.refill ≠ (.error f, s') := by
  obtain ⟨s₁, hrefill, -⟩ := h.refill
  simp [hrefill]

lemma Steady.of_refill {s s' : LineStream} (h : s.Steady) {available : Octets}
    (hrefill : s.refill = (.ok available, s')) :
    s'.Steady ∧ SameInput s s' ∧ s'.unread = available ∧ (available = [] → s.incoming = []) := by
  obtain ⟨s₁, hrefill₁, hsteady, hframe, hend⟩ := h.refill
  rw [hrefill] at hrefill₁
  cases hrefill₁
  exact ⟨hsteady, hframe, rfl, fun hnil => hframe.incoming ▸ hend hnil⟩

end LineStream

end Mailwire
