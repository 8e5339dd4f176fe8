import Mailwire.Proofs.LineStream.Rounds

/-!
# The end of the stream is reported at the end of the stream

A read that answers a line without a line feed has met the end of the stream: a refill has found nothing,
and where there is room for reading, this is only so when the far end has closed and nothing of what it
sent before is left (`LineStream.refill_nothing`). So whatever is called on such a stream before, the end
is reported only there (`LineStream.endOfStream_only_at_end`).

A buffer without room stays empty, whatever there is to read. Every read then answers the empty line,
reports the end of the stream, and takes nothing, also from a far end that has sent a line and stays
(`LineStream.endOfStream_without_room`).
-/

namespace Mailwire

lemma Delivery.payload_append (front behind : List (Cue Delivery)) :
    payload (front ++ behind) = payload front ++ payload behind := by
  induction front with
  | nil => rfl
  | cons c rest ih =>
    match c with
    | .wait ms => exact ih
    | .stall => exact ih
    | .act (.data octets) => exact (congrArg (octets ++ ·) ih).trans (List.append_assoc ..).symm
    | .act (.fail e) => exact ih
    | .act .eof => exact ih

namespace LineStream

/-- A stream is at the end of what comes over a wire: the far end has closed, and all that it sent
before has been taken. -/
structure AtEnd (wire : Wire) (s : LineStream) : Prop where
  unread : s.unread = []
  arrived : s.wire.arrived = []
  closed : ∃ met, wire.deliveries.cues = met ++ s.wire.deliveries.cues ∧
    Delivery.Closed wire.afterDeliveries met s.wire.deliveries.cues ∧
    wire.incoming = wire.arrived ++ Delivery.payload met ++ s.incoming

/-- A refill that finds nothing, though there is room, has met the end of the stream. -/
lemma refill_nothing {s s' : LineStream} (hroom : 0 < s.readCapacity)
    (h : s.refill = (.ok [], s')) : AtEnd s.wire s' := by
  by_cases hunread : s.unread = []
  · rcases hread : s.wire.read s.refillDeadline s.readCapacity with ⟨f | octets, w⟩
    · rw [refill_of_empty hunread hread] at h
      cases h
    · rw [refill_of_empty hunread hread] at h
      cases h
      obtain ⟨harrived, met, hcues, hclosed⟩ := Wire.read_nothing hroom.ne' hread
      refine ⟨rfl, harrived, met, hcues, hclosed, ?_⟩
      rw [Wire.incoming, hcues, Delivery.payload_append]
      simp [incoming, Wire.incoming, Wire.found, harrived]
  · rw [refill_of_unread hunread] at h
    exact absurd (Except.ok.inj (Prod.mk.inj h).1) hunread

/-- A read without room for it ends the line at once, and takes nothing. -/
lemma readLineOnto_of_no_room {s : LineStream} (hroom : s.readCapacity = 0) (hunread : s.unread = [])
    (line : Array UInt8) : readLineOnto line s = (.ok (line, false), s) := by
  have hread : s.wire.read s.refillDeadline s.readCapacity = (.ok [], s.wire) := by
    rw [Wire.read, if_pos hroom]
  have hsame : { s with wire := s.wire, unread := Wire.found (.ok []) } = s := by
    rw [Wire.found, ← hunread]
  rw [readLineOnto_eq, refill_of_empty hunread hread, hsame]
  rfl

/-- The end of what comes over a wire later is the end of what comes over it. -/
lemma AtEnd.of_onward {w w' : Wire} {s : LineStream} (h : AtEnd w' s) (honward : w.Onward w') :
    AtEnd w s := by
  obtain ⟨met, hcues, hclosed, -⟩ := h.closed
  obtain ⟨earlier, hearlier⟩ := honward.cues
  have hall : w.deliveries.cues = earlier ++ met ++ s.wire.deliveries.cues := by
    rw [← hearlier, hcues, List.append_assoc]
  rw [honward.ending] at hclosed
  refine ⟨h.unread, h.arrived, earlier ++ met, hall, hclosed.of_earlier earlier, ?_⟩
  rw [Wire.incoming, hall, Delivery.payload_append]
  simp [incoming, Wire.incoming, h.unread, h.arrived]

/-- What a read takes has a line feed if the line is over. If a line is answered that is not over, though
there is room for reading, the stream is at its end. -/
lemma readLineOnto_terminated (s : LineStream) :
    ∃ piece, s.incoming = piece ++ (readLineOnto #[] s).2.incoming ∧
      ∀ line terminated, (readLineOnto #[] s).1 = .ok (line, terminated) →
        (terminated = true ↔ Octets.lf ∈ piece) ∧
        (terminated = false → 0 < s.readCapacity → AtEnd s.wire (readLineOnto #[] s).2) := by
  obtain ⟨r, hvisits, hends⟩ := readLineOnto_eq_iff.mp (rfl : readLineOnto #[] s = _)
  obtain ⟨piece, htakes⟩ := hvisits.takes
  obtain ⟨answers, hyields⟩ := htakes.yields
  have hincoming : s.incoming = piece ++ r.stream.incoming := hyields.incoming
  have hterm : r.terminated = true ↔ Octets.lf ∈ piece := by
    rw [htakes.terminated]
    simp [Reading.start]
  refine ⟨piece, ?_⟩
  generalize readLineOnto #[] s = outcome at hends ⊢
  cases hends with
  | tooLong hlong => exact ⟨hincoming, nofun⟩
  | terminated hshort hended =>
    refine ⟨hincoming, ?_⟩
    rintro line terminated ⟨⟩
    exact ⟨by rw [← hterm, hended], nofun⟩
  | endOfStream hopen hrefill =>
    have hframe := refill_frame r.stream
    rw [hrefill] at hframe
    refine ⟨by rw [hframe.incoming, hincoming], ?_⟩
    rintro line terminated ⟨⟩
    refine ⟨by rw [← hterm, hopen.unterminated], fun _ hroom => ?_⟩
    have hcapacity : r.stream.readCapacity = s.readCapacity := htakes.onward.readCapacity
    rw [← hcapacity] at hroom
    exact (refill_nothing hroom hrefill).of_onward htakes.onward.wire
  | fault hopen hrefill =>
    have hframe := refill_frame r.stream
    rw [hrefill] at hframe
    exact ⟨by rw [hframe.incoming, hincoming], nofun⟩

/-- A read has answered a line without taking a line feed. -/
def Unended (before : LineStream) (run : Run LineStream (Fault IoError) Octets) : Prop :=
  ∃ line piece, run.result = .ok line ∧ before.incoming = piece ++ run.state.incoming ∧
    Octets.lf ∉ piece

lemma unended_iff (loggable : Bool) (s : LineStream) :
    Unended s ((readLineOctets loggable).run s) ↔
      ∃ line, (readLineOnto #[] s).1 = .ok (line, false) := by
  obtain ⟨piece, hpiece, hok⟩ := readLineOnto_terminated s
  rw [run_readLineOctets]
  constructor
  · rintro ⟨line, piece', hresult, hpiece', hlf⟩
    rw [hpiece, List.append_cancel_right_eq] at hpiece'
    subst hpiece'
    rcases hread : (readLineOnto #[] s).1 with f | ⟨line', terminated⟩
    · rw [hread] at hresult
      cases hresult
    · obtain ⟨hterm, -⟩ := hok line' terminated hread
      obtain rfl : terminated = false := by simpa using mt hterm.mp hlf
      exact ⟨line', rfl⟩
  · rintro ⟨line, hread⟩
    obtain ⟨hterm, -⟩ := hok line false hread
    exact ⟨line.toList, piece, by rw [hread]; rfl, hpiece, mt hterm.mpr (by simp)⟩

lemma mem_trace_iff (loggable : Bool) (s : LineStream) :
    .log .endOfStream ∈ ((readLineOctets loggable).run s).trace ↔
      ∃ line, (readLineOnto #[] s).1 = .ok (line, false) := by
  rw [run_readLineOctets]
  rcases (readLineOnto #[] s).1 with f | ⟨line, terminated⟩
  · simp
  · cases terminated <;> cases loggable <;> simp

/-- Whatever the capacities of a stream are, whatever its far end does, and whatever was called on it
before: a read answers a line without a line feed exactly if it logs the end of the stream. Where there is
room for reading, the far end has then closed, and all that it sent before has been taken. Where there is
none, every read does so: it answers the empty line and takes nothing. It makes no difference whether the
line is read as octets or as a text. -/
theorem endOfStream_only_at_end (readCapacity writeCapacity : Nat) (wire : Wire) :
    (ofWire? readCapacity writeCapacity wire = none ↔
      maxCapacity < readCapacity ∨ maxCapacity < writeCapacity) ∧
    ∀ opened, ofWire? readCapacity writeCapacity wire = some opened →
      ∀ (calls : List StreamCall) (loggable : Bool),
        let before := StreamCall.after calls opened
        let run := (readLineOctets loggable).run before
        (Unended before run ↔ .log .endOfStream ∈ run.trace) ∧
        (0 < readCapacity → Unended before run → AtEnd wire run.state) ∧
        (readCapacity = 0 → run.result = .ok [] ∧ Unended before run ∧ run.state = before) ∧
        (readLine loggable).run before
          = ⟨run.result.map Text.decodeLossy, run.state, run.trace⟩ := by
  constructor
  · rw [ofWire?]
    split_ifs with hcapacities
    · simp [hcapacities]
    · simp only [true_iff]
      omega
  · intro opened hopened calls loggable before run
    obtain rfl : ofWire readCapacity writeCapacity wire = opened := by
      rw [ofWire?] at hopened
      split_ifs at hopened with hcapacities
      exact Option.some.inj hopened
    have honward := StreamCall.after_onward calls (ofWire readCapacity writeCapacity wire)
    have hcapacity : before.readCapacity = readCapacity := honward.readCapacity
    have hstate : run.state = (readLineOnto #[] before).2 := state_readLineOctets loggable before
    refine ⟨?_, ?_, ?_, ?_⟩
    · rw [unended_iff, mem_trace_iff]
    · intro hroom hunended
      obtain ⟨line, hread⟩ := (unended_iff loggable before).mp hunended
      obtain ⟨piece, -, hok⟩ := readLineOnto_terminated before
      obtain ⟨-, hend⟩ := hok line false hread
      rw [← hcapacity] at hroom
      rw [hstate]
      exact (hend rfl hroom).of_onward honward.wire
    · rintro rfl
      have hbuffered : before.unread.length ≤ before.readCapacity :=
        honward.buffered (Nat.le_refl 0)
      have hunread : before.unread = [] := by
        rw [hcapacity] at hbuffered
        exact List.length_eq_zero_iff.mp (Nat.le_zero.mp hbuffered)
      have hread := readLineOnto_of_no_room hcapacity hunread #[]
      refine ⟨?_, (unended_iff loggable before).mpr ⟨#[], by rw [hread]⟩, by rw [hstate, hread]⟩
      exact (readLineOctets_eq_ok_iff loggable before).mpr ⟨#[], false, by rw [hread], rfl⟩
    · rw [readLine_eq, Task.run_map]

/-- A far end that closes behind two octets, and then goes on. -/
def hangingUp : Wire :=
  { Wire.idle with deliveries := .ofActs [.data [0x61, 0x62], .eof, .data [0x63, 0x0a]] }

theorem endOfStream_only_at_end_hangingUp :
    ∃ opened, ofWire? 1 0 hangingUp = some opened ∧
      ((readLineOctets true).run opened).trace = [.log .endOfStream, .log (.received "ab")] ∧
      AtEnd hangingUp ((readLineOctets true).run opened).state := by
  obtain ⟨-, hstream⟩ := endOfStream_only_at_end 1 0 hangingUp
  refine ⟨ofWire 1 0 hangingUp, rfl, ?_, ?_⟩
  · decide +kernel
  · obtain ⟨hiff, hend, -⟩ := hstream _ rfl [] true
    exact hend (by decide) (hiff.mpr (by decide +kernel))

/-- A far end that has sent a line, and stays. -/
def staying : Wire :=
  { Wire.idle with deliveries := .ofActs [.data [0x61, 0x0d, 0x0a]], afterDeliveries := .silence }

/-- A stream without room for reading answers the empty line and reports the end, though nothing of the
line was taken and the far end has not closed. -/
theorem endOfStream_without_room :
    ∃ opened, ofWire? 0 512 staying = some opened ∧
      let run := (readLineOctets true).run opened
      run.result = .ok [] ∧ run.trace = [.log .endOfStream, .log (.received "")] ∧
      Unended opened run ∧ run.state.incoming = [0x61, 0x0d, 0x0a] ∧ ¬ AtEnd staying run.state := by
  have hstate : ((readLineOctets true).run (ofWire 0 512 staying)).state = ofWire 0 512 staying := by
    rw [state_readLineOctets, readLineOnto_of_no_room rfl rfl]
  refine ⟨ofWire 0 512 staying, rfl, by decide +kernel, by decide +kernel, ?_⟩
  rw [hstate]
  refine ⟨⟨[], [], by decide +kernel, by rw [hstate, List.nil_append], List.not_mem_nil⟩, rfl, ?_⟩
  intro hend
  obtain ⟨met, hcues, hclosed, -⟩ := hend.closed
  have hnone : met = [] := List.self_eq_append_left.mp hcues
  cases hclosed with
  | eof front => simp at hnone

end LineStream

end Mailwire
