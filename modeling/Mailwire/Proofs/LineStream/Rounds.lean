import Mathlib.Logic.Relation
import Mailwire.Proofs.LineStream.Conservation
import Mailwire.Proofs.LineStream.Session

/-!
# The rounds of a read

A read of a line goes in rounds, each of which refills the buffer and takes from it what belongs to the
line (`Reading.Round`). It ends where a refill finds nothing or fails, where the line is over, and where
the line is too long (`Reading.Ends`). So a read is a row of rounds and an end
(`LineStream.readLineOnto_eq_iff`), and what a round keeps holds at every moment of a read.
-/

namespace Mailwire

open Relation (ReflTransGen)

/-- The first piece has the line feed if there is one. -/
lemma Line.lf_mem_segment_iff (octets : Octets) :
    Octets.lf ∈ segment octets ↔ Octets.lf ∈ octets := by
  constructor
  · exact List.mem_of_mem_take
  · intro h
    have hlast := (isTerminated_segment octets).mpr h
    exact List.mem_of_getLast? (by simpa [isTerminated] using hlast)

/-- How far a read of a line has come. -/
structure Reading where
  line : Array UInt8
  /-- A line feed has been taken. -/
  terminated : Bool
  stream : LineStream

namespace Reading

/-- A read that has only begun. -/
def start (s : LineStream) : Reading := ⟨#[], false, s⟩

/-- Neither is the line over, nor is it too long. -/
structure Open (r : Reading) : Prop where
  unterminated : r.terminated = false
  short : r.line.size ≤ r.stream.maxLineLength

/-- The read after a refill that has found something. -/
def take (r : Reading) (available : Octets) (s : LineStream) : Reading where
  line := r.line ++ Line.content (Line.segment available)
  terminated := Line.isTerminated (Line.segment available)
  stream := s.consume (Line.segment available).length

/-- One round. -/
inductive Round (r : Reading) : Reading → Prop
  | refill {available : Octets} {s : LineStream} (goesOn : r.Open)
      (finds : r.stream.refill = (.ok available, s)) (found : available ≠ []) :
      Round r (r.take available s)

/-- The readings of one read, from one on. -/
def Visits : Reading → Reading → Prop := ReflTransGen Round

/-- How a read ends that does not go on. -/
inductive Ends (r : Reading) : Except (Fault IoError) (Array UInt8 × Bool) × LineStream → Prop
  | tooLong (long : r.stream.maxLineLength < r.line.size) :
      Ends r (.error (.failed (LineStream.lineTooLong r.stream.maxLineLength)), r.stream)
  | terminated (short : r.line.size ≤ r.stream.maxLineLength) (ends : r.terminated = true) :
      Ends r (.ok (r.line, true), r.stream)
  | endOfStream {s : LineStream} (goesOn : r.Open) (finds : r.stream.refill = (.ok [], s)) :
      Ends r (.ok (r.line, false), s)
  | fault {f : Fault IoError} {s : LineStream} (goesOn : r.Open)
      (fails : r.stream.refill = (.error f, s)) : Ends r (.error f, s)

/-! ### A read is its rounds -/

/-- What is left to do of a read. -/
def rest (r : Reading) : Except (Fault IoError) (Array UInt8 × Bool) × LineStream :=
  if r.stream.maxLineLength < r.line.size then
    (.error (.failed (LineStream.lineTooLong r.stream.maxLineLength)), r.stream)
  else if r.terminated then (.ok (r.line, true), r.stream)
  else LineStream.readLineOnto r.line r.stream

lemma Open.rest {r : Reading} (h : r.Open) :
    r.rest = LineStream.readLineOnto r.line r.stream := by
  rw [Reading.rest, if_neg (Nat.not_lt.mpr h.short), h.unterminated]
  rfl

/-- A refill keeps the limit of the line. -/
lemma take_maxLineLength {r : Reading} {available : Octets} {s : LineStream}
    (h : r.stream.refill = (.ok available, s)) :
    (r.take available s).stream.maxLineLength = r.stream.maxLineLength := by
  have hframe := LineStream.refill_frame r.stream
  rw [h] at hframe
  exact hframe.maxLineLength

lemma Round.rest {r r' : Reading} (h : Round r r') : r.rest = r'.rest := by
  obtain @⟨available, s, hopen, hrefill, hne⟩ := h
  have hmax := take_maxLineLength hrefill
  rw [hopen.rest, LineStream.readLineOnto_eq, hrefill]
  simp only [if_neg hne]
  rw [Reading.rest, hmax]
  rfl

lemma Visits.rest {r r' : Reading} (h : r.Visits r') : r.rest = r'.rest := by
  induction h with
  | refl => rfl
  | tail _ hround ih => exact ih.trans hround.rest

lemma Ends.rest {r : Reading} {outcome} (h : r.Ends outcome) : r.rest = outcome := by
  cases h with
  | tooLong hlong => rw [Reading.rest, if_pos hlong]
  | terminated hshort hover => rw [Reading.rest, if_neg (Nat.not_lt.mpr hshort), if_pos hover]
  | endOfStream hopen hrefill =>
    rw [hopen.rest, LineStream.readLineOnto_eq, hrefill]
    rfl
  | fault hopen hrefill =>
    rw [hopen.rest, LineStream.readLineOnto_eq, hrefill]

/-! ### What rounds keep -/

/-- From one reading to another a piece of what is to come is taken, and the line has then got what the
piece has of a line. -/
structure Takes (r : Reading) (piece : Octets) (r' : Reading) : Prop where
  yields : ∃ answers, LineStream.Yields r.stream answers piece r'.stream
  onward : LineStream.Onward r.stream r'.stream
  line : r'.line.toList = r.line.toList ++ Line.content piece
  terminated : r'.terminated = true ↔ r.terminated = true ∨ Octets.lf ∈ piece

namespace Takes

variable {r r₁ r₂ : Reading} {piece next : Octets}

protected lemma refl (r : Reading) : Takes r [] r :=
  ⟨⟨[], .refl r.stream⟩, .refl r.stream, by simp [Line.content], by simp⟩

protected lemma trans (h : Takes r piece r₁) (h' : Takes r₁ next r₂) :
    Takes r (piece ++ next) r₂ := by
  obtain ⟨answers, hyields⟩ := h.yields
  obtain ⟨more, hyields'⟩ := h'.yields
  refine ⟨⟨answers ++ more, hyields.trans hyields'⟩, h.onward.trans h'.onward, ?_, ?_⟩
  · rw [h'.line, h.line, Line.content_append, List.append_assoc]
  · rw [h'.terminated, h.terminated, List.mem_append, or_assoc]

lemma maxLineLength (h : Takes r piece r₁) : r₁.stream.maxLineLength = r.stream.maxLineLength := by
  obtain ⟨answers, hyields⟩ := h.yields
  exact hyields.maxLineLength

lemma readTimeout (h : Takes r piece r₁) : r₁.stream.readTimeout = r.stream.readTimeout := by
  obtain ⟨answers, hyields⟩ := h.yields
  exact hyields.readTimeout

end Takes

/-- A round takes something, and no more than the buffer holds. -/
theorem Round.takes {r r' : Reading} (h : Round r r') :
    ∃ piece, Takes r piece r' ∧ piece ≠ [] ∧
      (r.stream.unread.length ≤ r.stream.readCapacity →
        piece.length ≤ r.stream.readCapacity) := by
  obtain @⟨available, s, hopen, hrefill, hne⟩ := h
  have hrefilled := r.stream.refill_onward
  rw [hrefill] at hrefilled
  obtain ⟨-, -, hunread, -⟩ := LineStream.Yields.refill_ok hrefill
  have hterm : Line.isTerminated (Line.segment available) = true ↔
      r.terminated = true ∨ Octets.lf ∈ Line.segment available := by
    rw [hopen.unterminated, Line.isTerminated_segment, Line.lf_mem_segment_iff]
    simp
  refine ⟨Line.segment available, ⟨LineStream.Yields.segment hrefill,
    LineStream.onward_of_refill hrefill _, by simp [take], hterm⟩, Line.segment_ne_nil hne, ?_⟩
  intro hbuffered
  calc (Line.segment available).length ≤ available.length := Line.segment_length_le available
    _ = s.unread.length := by rw [hunread]
    _ ≤ s.readCapacity := hrefilled.buffered hbuffered
    _ = r.stream.readCapacity := hrefilled.readCapacity

theorem Visits.takes {r r' : Reading} (h : r.Visits r') : ∃ piece, Takes r piece r' := by
  induction h with
  | refl => exact ⟨[], .refl r⟩
  | tail _ hround ih =>
    obtain ⟨piece, htakes⟩ := ih
    obtain ⟨next, hnext, -, -⟩ := hround.takes
    exact ⟨piece ++ next, htakes.trans hnext⟩

end Reading

namespace LineStream

open Reading (Visits Ends Round)

/-- A read comes to an end after some rounds. -/
lemma exists_visits_ends (line : Array UInt8) (s : LineStream) (h : line.size ≤ s.maxLineLength) :
    ∃ r, Visits ⟨line, false, s⟩ r ∧ r.Ends (readLineOnto line s) := by
  -- after a refill the read goes on as the next round says, with the same limit
  have hround : ∀ {line s available s'}, line.size ≤ s.maxLineLength →
      s.refill = (.ok available, s') → available ≠ [] →
      Round ⟨line, false, s⟩ (Reading.take ⟨line, false, s⟩ available s') ∧
        (Reading.take ⟨line, false, s⟩ available s').stream.maxLineLength = s.maxLineLength := by
    intro line s available s' hshort hrefill hne
    exact ⟨.refill ⟨rfl, hshort⟩ hrefill hne, Reading.take_maxLineLength hrefill⟩
  fun_induction readLineOnto line s with
  | case1 line s f s' hrefill => exact ⟨_, .refl, .fault ⟨rfl, h⟩ hrefill⟩
  | case2 line s s' hrefill => exact ⟨_, .refl, .endOfStream ⟨rfl, h⟩ hrefill⟩
  | case3 line s available s' hrefill hne segment line' s'' hlong =>
    obtain ⟨hfirst, hmax⟩ := hround h hrefill hne
    refine ⟨_, .single hfirst, ?_⟩
    rw [← hmax] at hlong ⊢
    exact .tooLong hlong
  | case4 line s available s' hrefill hne segment line' s'' hlong hterm =>
    obtain ⟨hfirst, hmax⟩ := hround h hrefill hne
    refine ⟨_, .single hfirst, ?_⟩
    rw [← hmax] at hlong
    exact .terminated (Nat.le_of_not_lt hlong) hterm
  | case5 line s available s' hrefill hne segment line' s'' hlong hterm ih =>
    obtain ⟨hfirst, hmax⟩ := hround h hrefill hne
    rw [← hmax] at hlong
    obtain ⟨r, hvisits, hends⟩ := ih (Nat.le_of_not_lt hlong)
    rw [Reading.take, Bool.eq_false_of_not_eq_true hterm] at hfirst
    exact ⟨r, .head hfirst hvisits, hends⟩

/-- A read is a row of rounds and an end. -/
theorem readLineOnto_eq_iff {s : LineStream} {outcome} :
    readLineOnto #[] s = outcome ↔ ∃ r, Visits (.start s) r ∧ r.Ends outcome := by
  constructor
  · rintro rfl
    exact exists_visits_ends #[] s (Nat.zero_le _)
  · rintro ⟨r, hvisits, hends⟩
    have hopen : (Reading.start s).Open := ⟨rfl, Nat.zero_le _⟩
    calc readLineOnto #[] s = (Reading.start s).rest := hopen.rest.symm
      _ = r.rest := hvisits.rest
      _ = outcome := hends.rest

/-! ### Results of a read -/

lemma readLineOctets_eq_error_iff (loggable : Bool) (s : LineStream) (f : Fault IoError) :
    ((readLineOctets loggable).run s).result = .error f ↔ (readLineOnto #[] s).1 = .error f := by
  rw [run_readLineOctets]
  cases (readLineOnto #[] s).1 <;> simp [Except.map]

lemma readLineOctets_eq_ok_iff (loggable : Bool) (s : LineStream) {line : Octets} :
    ((readLineOctets loggable).run s).result = .ok line ↔
      ∃ line' terminated, (readLineOnto #[] s).1 = .ok (line', terminated) ∧
        line'.toList = line := by
  rw [run_readLineOctets]
  rcases (readLineOnto #[] s).1 with f | ⟨line', terminated⟩
  · simp [Except.map]
  · constructor
    · rintro ⟨⟩
      exact ⟨line', terminated, rfl, rfl⟩
    · rintro ⟨_, _, ⟨⟩, rfl⟩
      rfl

/-- From one state of a stream to another, the last read of its wire has failed in this way. -/
def FarEndFails (s : LineStream) (e : IoError) (s' : LineStream) : Prop :=
  ∃ answers piece, Yields s answers piece s' ∧ answers.getLast? = some (.error (.failed e))

/-- A refill of a read fails as the far end does, or because it has taken too long. -/
lemma failure_of_refill {s s' : LineStream} {r : Reading} {e : IoError} (h : Visits (.start s) r)
    (hrefill : r.stream.refill = (.error (.failed e), s')) :
    FarEndFails s e s' ∨ ∃ limit, s.readTimeout = some limit ∧ e = silence limit := by
  obtain ⟨piece, htakes⟩ := h.takes
  obtain ⟨answers, hyields⟩ := htakes.yields
  have htimeout : r.stream.readTimeout = s.readTimeout := htakes.readTimeout
  obtain ⟨fault, hlast, hfault⟩ := Yields.refill_error hrefill
  rw [htimeout] at hfault
  cases fault with
  | failed e' =>
    obtain rfl : e = e' := Fault.failed.inj hfault
    exact .inl ⟨_, _, hyields.trans hlast, by simp⟩
  | unanswered =>
    cases hlimit : s.readTimeout with
    | none =>
      rw [hlimit] at hfault
      cases hfault
    | some limit =>
      rw [hlimit] at hfault
      exact .inr ⟨limit, rfl, Fault.failed.inj hfault⟩

end LineStream

end Mailwire
